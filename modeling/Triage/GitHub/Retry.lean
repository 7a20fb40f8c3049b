import Triage.Http.Message
import Triage.Text.Blank
import Triage.Text.Decimal

namespace Triage.GitHub

/-!
# Retries

* `RetryPolicy` — how often a call is tried, and how long it waits in between.
* `RetryPolicy.delay` — the wait after an attempt: twice as long each time, up to a cap, or what the
  server asks for.
* `retryAfter?` — the wait that the server asks for.
-/

/-- How many attempts a call has, and the wait in milliseconds after the first of them. -/
structure RetryPolicy where
  attempts : Nat
  base : Nat
  one_le_attempts : 1 ≤ attempts
  one_le_base : 1 ≤ base

/-- The answer says that the same call may do better later. -/
def isPassing (status : Nat) : Bool := status == 429 || 500 ≤ status

/-- The largest number of 64 bits takes the place of all that are larger. -/
def saturate (n : Nat) : Nat := min n Text.maxWord

namespace RetryPolicy

/-- The longest wait that the policy chooses by itself, in milliseconds. -/
def cap : Nat := 30000

/-- A policy with at least one attempt and at least one millisecond. -/
def of (attempts base : Nat) : RetryPolicy :=
  ⟨max attempts 1, max base 1, Nat.le_max_right .., Nat.le_max_right ..⟩

/-- An answer with this status is tried again after the attempt, counted from one. -/
def retries (policy : RetryPolicy) (attempt status : Nat) : Bool :=
  attempt < policy.attempts && isPassing status

/-- The wait in milliseconds after an attempt, counted from one. The server's wish counts, in seconds,
if it is not below the base; else the base is doubled with each attempt, ten times at most. -/
def delay (policy : RetryPolicy) (attempt : Nat) : Option Nat → Nat
  | some seconds => max (seconds * 1000) policy.base
  | none => min (saturate (policy.base * saturate (Nat.pow 2 (min (attempt - 1) 10)))) cap

end RetryPolicy

/-- The seconds in a header, if it denotes a number of 64 bits. -/
def seconds? (bytes : List UInt8) : Option Nat := do
  (Text.readWord (Text.trim (← Http.headerText? bytes))).toOption

/-- The seconds to wait that the first such header asks for. -/
def retryAfter? (headers : List Http.Header) : Option Nat := do
  seconds? (← (Http.valuesOf "retry-after" headers).head?)

end Triage.GitHub
