import Triage.Http.Host
import Triage.Http.Path
import Triage.Text.Base64

namespace Triage.Http

/-!
# Addresses

* `Credentials` — a user's name and password, as an address may hold them.
* `Url` — the parts of a web address that a request needs.
* `Url.parse?` — reads an address as browsers do: both slashes separate, `.` and `..` are resolved,
  and characters that may not stand in an address are written by their bytes.
-/

/-- A user's name, and the password if there is one. -/
structure Credentials where
  user : String
  password : Option String
  deriving DecidableEq, Repr

/-- The value of the header that states the credentials. -/
def Credentials.header (credentials : Credentials) : String :=
  let text := credentials.user ++ ":" ++ credentials.password.getD ""
  "Basic " ++ String.ofList (Text.base64 (Text.utf8 text.toList))

/-- The parts of a web address that a request needs: whether the connection is encrypted, who asks
if that is stated, the server, and what is asked of it. -/
structure Url where
  secure : Bool
  credentials : Option Credentials
  host : Host
  port : Option Nat
  target : String
  deriving DecidableEq, Repr

/-- The address without its surroundings: control characters and spaces at the ends, tabs and line
breaks anywhere. -/
def bare (text : List Char) : List Char :=
  let inner := ((text.dropWhile (·.toNat ≤ 0x20)).reverse.dropWhile (·.toNat ≤ 0x20)).reverse
  inner.filter fun c => !(c == '\t' || c == '\n' || c == '\r')

/-- Whether an address is encrypted, by the name before its colon. Others than web addresses are not
read. -/
def secure? (scheme : List Char) : Option Bool :=
  let name := scheme.map Char.toLower
  if name = ['h', 't', 't', 'p'] then some false
  else if name = ['h', 't', 't', 'p', 's'] then some true
  else none

/-- A character that ends the server's part of an address. -/
def endsAuthority (c : Char) : Bool := isSlash c || c == '?' || c == '#'

/-- The user's part and the server's part: the last at sign divides them. -/
def userAndServer (authority : List Char) : List Char × List Char :=
  let server := (authority.reverse.takeWhile (· != '@')).reverse
  (authority.take (authority.length - server.length - 1), server)

/-- The text of a user's name or password. -/
def credentialText? (text : List Char) : Option String :=
  Text.strict? (Text.decodeUtf8 (percentDecode text))

/-- The credentials in the user's part. A password that is no text counts as none; without a name and
a password, or with a name that is no text, there are no credentials. -/
def credentials? (text : List Char) : Option Credentials := do
  let user ← credentialText? (text.takeWhile (· != ':'))
  let rest := (text.dropWhile (· != ':')).drop 1
  let password := if rest.isEmpty then none else credentialText? rest
  if user.isEmpty && password.isNone then none else some { user, password }

/-- The host and the port of a server. A host in brackets may hold colons. -/
def hostAndPort (server : List Char) : List Char × List Char :=
  let bracketed := if server.head? = some '[' then server.takeWhile (· != ']') else []
  let rest := server.drop bracketed.length
  (bracketed ++ rest.takeWhile (· != ':'), (rest.dropWhile (· != ':')).drop 1)

/-- The number of a port, which has 16 bits and may be left out. -/
def port? (text : List Char) : Option (Option Nat) :=
  if text.isEmpty then some none
  else if text.all Char.isDigit && Nat.ofDigitChars 10 text 0 < Nat.pow 2 16 then
    some (some (Nat.ofDigitChars 10 text 0))
  else none

/-- What is asked of the server: the resolved path, and the query if there is one. What comes after a
number sign is left out. -/
def targetOf (text : List Char) : List Char :=
  let text := text.takeWhile (· != '#')
  pathOf (text.takeWhile (· != '?')) ++
    match text.dropWhile (· != '?') with
    | [] => []
    | _ :: query => '?' :: percentEncode isReservedInQuery query

/-- What comes after a number sign, with the sign. -/
def fragmentOf (text : List Char) : List Char :=
  match text.dropWhile (· != '#') with
  | [] => []
  | _ :: fragment => '#' :: percentEncode isReservedInFragment fragment

/-- The port that a web address without one stands for. -/
def usualPort (secure : Bool) : Nat := if secure then 443 else 80

/-- The server in writing: the kind of address, the host, and a port that is not the usual one. -/
def Url.origin (url : Url) : List Char :=
  (if url.secure then "https://" else "http://").toList ++ url.host.text ++
    match url.port with
    | some port => if port = usualPort url.secure then [] else ':' :: Nat.toDigits 10 port
    | none => []

/-- The length up to which an address is taken. -/
def maxAddress : Nat := 65534

/-- Reads a web address. The length counts in writing, without the credentials. -/
def Url.parse? (text : String) : Option Url := do
  let address := bare text.toList
  let (scheme, rest) ← Text.cutAt ':' address
  let secure ← secure? scheme
  let rest := rest.dropWhile isSlash
  let (user, server) := userAndServer (rest.takeWhile (!endsAuthority ·))
  let (host, port) := hostAndPort server
  let host ← Host.parse? host
  let port ← port? port
  let rest := rest.dropWhile (!endsAuthority ·)
  let target := targetOf rest
  let url : Url :=
    { secure, credentials := credentials? user, host, port, target := String.ofList target }
  if maxAddress < url.origin.length + target.length + (fragmentOf rest).length then none
  else some url

end Triage.Http
