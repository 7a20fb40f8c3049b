import Triage.Http.Arrival

namespace Triage.Http

/-!
# A server with a script

* `ScriptedServer` — answers the requests in turn from a list, and keeps what it received.
* `ScriptedServer.takes` — whether a request reaches the server.
* `ScriptedServer.answer` — what comes of the next request.

No answer of a script sends the client elsewhere, and each has a head that the receiver has room for.
-/

/-- What is still to be answered, whether connections are refused, and the requests received. -/
structure ScriptedServer where
  script : List Delivery
  refuses : Bool
  received : List Request
  deriving DecidableEq, Repr

namespace ScriptedServer

/-- The answer after the last one of the script. -/
def exhausted : Delivery := .answered 404 [] (Text.utf8 "script exhausted".toList)

/-- The server stands at every number, and under the name of the machine itself. -/
def isAt : Host → Bool
  | .short _ | .long _ => true
  | .named name => String.ofList name == "localhost"

/-- The server is where the address says, without encryption, and takes connections. -/
def takes (server : ScriptedServer) (url : Url) : Bool :=
  isAt url.host && !url.secure && !server.refuses

/-- What comes of a request. One that the server does not take is refused and not received. -/
def answer : Answerer Sending (fun _ => Delivery) ScriptedServer := fun sending server =>
  if !server.takes sending.request.url then (.refused, server)
  else
    let received := server.received ++ [sending.request]
    match server.script with
    | [] => (exhausted, { server with received := received })
    | delivery :: rest =>
      (delivery.arrived, { server with script := rest, received := received })

end ScriptedServer

end Triage.Http
