import Triage.GitHub.Call
import Triage.Proofs.Dialogue.Exchanges
import Triage.Proofs.Http.Header
import Triage.Proofs.Text.Decimal
import Triage.Proofs.Text.Trim
import Mathlib.Algebra.GroupWithZero.Nat

namespace Triage.GitHub

open Http

/-!
# When a call makes another attempt, and how long it waits

Waits are computed in numbers of 64 bits, where the largest one takes the place of all that are larger.
The cap is far below it, so that what comes out is what exact arithmetic gives.  A wait that the server
asks for is not capped at all.

* `delay_none` — the wait that a policy chooses by itself, with nothing saturated on the way.
* `one_le_delay`, `delay_none_le_cap`, `delay_none_mono` — its bounds, and that it only grows.
* `IsWish` — the values by which a server asks for a wait; `AsksToWait` — the headers with such a value.
* `retryAfter?_eq_some_iff` — these are the ones that are heard.
* `delay_exact` — the wait after any attempt of any policy, whatever the headers.
* `attempts_paced`, `exchange_paced` — these are the waits between the attempts of a request, by
  induction on how many are spare.
* `RetryPolicy.Permits` — the policy has another attempt after one, by what came of that.
* `attempts_followed`, `exchange_followed` — these are the attempts that another one follows.
-/

/-! ### The wait that a policy chooses -/

/-- Saturation does not show under a bound of 64 bits. -/
theorem min_saturate {n bound : Nat} (h : bound ≤ Text.maxWord) :
    min (saturate n) bound = min n bound := by
  rw [saturate, Nat.min_assoc, Nat.min_eq_right h]

/-- Ten doublings are far from 64 bits. -/
theorem saturate_two_pow (n : Nat) : saturate (2 ^ min n 10) = 2 ^ min n 10 := by
  refine Nat.min_eq_left ?_
  calc 2 ^ min n 10 ≤ 2 ^ 10 := Nat.pow_le_pow_right Nat.two_pos (Nat.min_le_right n 10)
    _ ≤ Text.maxWord := by decide

section Policy

variable (policy : RetryPolicy) (attempt : Nat)

/-- **Nothing is saturated**: without a wish, the wait is the base doubled with each attempt, as exact
arithmetic has it, up to ten times and up to the cap. -/
theorem delay_none :
    policy.delay attempt none = min (policy.base * 2 ^ min (attempt - 1) 10) RetryPolicy.cap := by
  have hcap : RetryPolicy.cap ≤ Text.maxWord := by decide
  -- The doublings fit, and what the base makes of them is bounded by the cap in any case.
  show min (saturate (policy.base * saturate (2 ^ min (attempt - 1) 10))) RetryPolicy.cap = _
  rw [saturate_two_pow, min_saturate hcap]

/-- There always is a wait. -/
theorem one_le_delay (wish : Option Nat) : 1 ≤ policy.delay attempt wish := by
  cases wish with
  | none =>
    rw [delay_none]
    have hbackoff : 0 < policy.base * 2 ^ min (attempt - 1) 10 :=
      Nat.mul_pos policy.one_le_base (Nat.two_pow_pos _)
    exact Nat.le_min.2 ⟨hbackoff, by decide⟩
  | some seconds => exact Nat.le_trans policy.one_le_base (Nat.le_max_right _ _)

/-- No policy chooses a wait above the cap. -/
theorem delay_none_le_cap : policy.delay attempt none ≤ RetryPolicy.cap := Nat.min_le_right _ _

end Policy

/-- The wait that a policy chooses only grows with the base and with the attempt. -/
theorem delay_none_mono {policy policy' : RetryPolicy} {attempt attempt' : Nat}
    (hbase : policy.base ≤ policy'.base) (hattempt : attempt ≤ attempt') :
    policy.delay attempt none ≤ policy'.delay attempt' none := by
  have hdoublings : min (attempt - 1) 10 ≤ min (attempt' - 1) 10 := by omega
  have hbackoff : policy.base * 2 ^ min (attempt - 1) 10 ≤ policy'.base * 2 ^ min (attempt' - 1) 10 :=
    Nat.mul_le_mul hbase (Nat.pow_le_pow_right Nat.two_pos hdoublings)
  rw [delay_none, delay_none]
  omega

/-! ### The wait that a server asks for -/

/-- The value asks for a wait of so many seconds: it is printable, and but for white space around it,
it is a decimal number of 64 bits. -/
structure IsWish (value : List UInt8) (seconds : Nat) : Prop where
  printable : IsPrintable value
  number : ∃ before number after, value = Text.utf8 (before ++ number ++ after) ∧
    Text.isBlankText before = true ∧ Text.isBlankText after = true ∧ Text.Denotes number seconds
  fits : seconds ≤ 18446744073709551615

/-- No white space stands in what denotes a number. -/
theorem isTrimmed_of_denotes {text : List Char} {n : Nat} (h : Text.Denotes text n) :
    Text.IsTrimmed text := by
  obtain ⟨sign, digits, rfl, hsign, -, hdigits, -⟩ := h
  refine Text.isTrimmed_of_forall (List.forall_mem_append.2 ⟨?_, ?_⟩)
  · obtain rfl | rfl := hsign
    · exact List.forall_mem_nil _
    · exact List.forall_mem_singleton.2 (by decide)
  · -- The ranges of white space leave out the digits.
    intro c hc
    have hdigit : 48 ≤ c.toNat ∧ c.toNat ≤ 57 := Char.isDigit_iff_toNat.1 (hdigits c hc)
    rw [← Bool.not_eq_true, Text.isBlank, Text.inRanges_iff]
    rintro ⟨range, hrange, hlow, hhigh⟩
    have hapart : ∀ range ∈ Text.blankRanges, range.2 < 48 ∨ 57 < range.1 := by decide
    have := hapart range hrange
    omega

/-- **Just the values that ask for a wait are read.** -/
theorem seconds?_eq_some_iff {value : List UInt8} {seconds : Nat} :
    seconds? value = some seconds ↔ IsWish value seconds := by
  simp only [seconds?, Option.bind_eq_bind, Option.bind_eq_some_iff, headerText?_eq_some_iff,
    Text.toOption_readWord_eq_some_iff]
  constructor
  · rintro ⟨text, ⟨hprintable, rfl⟩, hnumber, hfits⟩
    obtain ⟨before, after, hbefore, hafter, htext⟩ := Text.exists_around_trim text
    exact ⟨hprintable, ⟨before, _, after, congrArg Text.utf8 htext, hbefore, hafter, hnumber⟩, hfits⟩
  · rintro ⟨hprintable, ⟨before, number, after, hvalue, hbefore, hafter, hnumber⟩, hfits⟩
    have htrim : Text.trim (before ++ number ++ after) = number :=
      Text.trim_eq_iff.2 ⟨isTrimmed_of_denotes hnumber, before, after, hbefore, hafter, rfl⟩
    refine ⟨before ++ number ++ after, ⟨hprintable, hvalue⟩, ?_, hfits⟩
    rwa [htrim]

/-- The name of the header, in whatever case. -/
def IsRetryAfter (name : String) : Prop := name.map Char.toLower = "retry-after"

/-- The first header of the name asks for a wait of so many seconds. -/
def AsksToWait (headers : List Header) (seconds : Nat) : Prop :=
  ∃ before name value after, headers = before ++ (name, value) :: after ∧ IsRetryAfter name ∧
    (∀ header ∈ before, ¬ IsRetryAfter header.1) ∧ IsWish value seconds

/-- **A wait is heard exactly if the headers ask for it.** -/
theorem retryAfter?_eq_some_iff {headers : List Header} {seconds : Nat} :
    retryAfter? headers = some seconds ↔ AsksToWait headers seconds := by
  simp only [retryAfter?, Option.bind_eq_bind, Option.bind_eq_some_iff, head?_valuesOf_eq_some_iff,
    seconds?_eq_some_iff]
  constructor
  · rintro ⟨value, ⟨before, name, after, hheaders, hname, hbefore⟩, hwish⟩
    exact ⟨before, name, value, after, hheaders, hname, hbefore, hwish⟩
  · rintro ⟨before, name, value, after, hheaders, hname, hbefore, hwish⟩
    exact ⟨value, ⟨before, name, after, hheaders, hname, hbefore⟩, hwish⟩

/-- None is heard exactly if the headers ask for none. -/
theorem retryAfter?_eq_none_iff {headers : List Header} :
    retryAfter? headers = none ↔ ¬ ∃ seconds, AsksToWait headers seconds := by
  rw [Option.eq_none_iff_forall_ne_some, not_exists]
  exact forall_congr' fun _ => not_congr retryAfter?_eq_some_iff

/-! ### The wait after an attempt -/

/-- The wait that a policy chooses, by the numbers that the policy is made of. -/
theorem delay_none_of (attempts base attempt : Nat) :
    (RetryPolicy.of attempts base).delay attempt none
      = min (max base 1 * 2 ^ min (max attempt 1 - 1) 10) 30000 := by
  -- Attempt zero waits like the first one.
  have hfirst : max attempt 1 - 1 = attempt - 1 := by omega
  rw [hfirst]
  exact delay_none _ attempt

/-- **Waits are exact.**  Headers are heard exactly if the first of the name asks for a wait.  The wait
is then the longer one of that and of the base, even if its milliseconds need more than 64 bits.  Else it
is the base doubled with each attempt, up to ten times and up to half a minute; so it lies between a
millisecond and half a minute, and only grows with the base and with the attempt. -/
theorem delay_exact (attempts : Nat) (headers : List Header) :
    let delay (base attempt : Nat) : Nat :=
      (RetryPolicy.of attempts base).delay attempt (retryAfter? headers)
    (∀ seconds, retryAfter? headers = some seconds ↔ AsksToWait headers seconds) ∧
      (∀ seconds, AsksToWait headers seconds →
        ∀ base attempt, delay base attempt = max (seconds * 1000) (max base 1)) ∧
      ((¬ ∃ seconds, AsksToWait headers seconds) →
        (∀ base attempt,
          delay base attempt = min (max base 1 * 2 ^ min (max attempt 1 - 1) 10) 30000 ∧
            1 ≤ delay base attempt ∧ delay base attempt ≤ 30000) ∧
          ∀ base base' attempt attempt', base ≤ base' → attempt ≤ attempt' →
            delay base attempt ≤ delay base' attempt') := by
  intro delay
  refine ⟨fun _ => retryAfter?_eq_some_iff, ?_, ?_⟩
  · intro seconds hasks base attempt
    show (RetryPolicy.of attempts base).delay attempt (retryAfter? headers) = _
    rw [retryAfter?_eq_some_iff.2 hasks]
    rfl
  · intro hsilent
    have hdelay : ∀ base attempt,
        delay base attempt = (RetryPolicy.of attempts base).delay attempt none := by
      intro base attempt
      rw [← retryAfter?_eq_none_iff.2 hsilent]
    simp only [hdelay]
    constructor
    · intro base attempt
      exact ⟨delay_none_of attempts base attempt, one_le_delay _ _ none, delay_none_le_cap _ _⟩
    · intro base base' attempt attempt' hbase hattempt
      refine delay_none_mono ?_ hattempt
      show max base 1 ≤ max base' 1
      omega

/-- The largest number of seconds is heard behind a plus sign and a zero, with white space around.  One
more is not heard, and a later header never is. -/
theorem delay_exact_of_extremes :
    let asking : List Header := [("date", Text.utf8 "7".toList),
      ("Retry-After", Text.utf8 "\t+018446744073709551615 ".toList), ("retry-after", Text.utf8 "7".toList)]
    let silent : List Header := [("RETRY-AFTER", Text.utf8 "18446744073709551616".toList),
      ("retry-after", Text.utf8 "7".toList)]
    let delay (base attempt : Nat) (headers : List Header) : Nat :=
      (RetryPolicy.of 0 base).delay attempt (retryAfter? headers)
    AsksToWait asking 18446744073709551615 ∧
      delay 18446744073709551615 0 asking = 18446744073709551615000 ∧
      (¬ ∃ seconds, AsksToWait silent seconds) ∧
      delay 0 0 silent = 1 ∧ delay 3 18446744073709551615 silent = 3072 ∧
      delay 18446744073709551615 18446744073709551615 silent = 30000 ∧
      delay 0 0 silent ≤ delay 3 18446744073709551615 silent := by
  intro asking silent delay
  obtain ⟨hread, hwish, -⟩ := delay_exact 0 asking
  obtain ⟨-, -, hbackoff⟩ := delay_exact 0 silent
  have hasks : AsksToWait asking 18446744073709551615 := (hread _).1 (by decide +kernel)
  have hnone : ¬ ∃ seconds, AsksToWait silent seconds :=
    retryAfter?_eq_none_iff.1 (by decide +kernel)
  obtain ⟨hexact, hmono⟩ := hbackoff hnone
  exact ⟨hasks, (hwish _ hasks _ _).trans (by decide), hnone, (hexact 0 0).1.trans (by decide),
    (hexact _ _).1.trans (by decide), (hexact _ _).1.trans (by decide),
    hmono 0 3 0 _ (Nat.zero_le 3) (Nat.zero_le _)⟩

/-! ### The waits between the attempts of a request -/

/-- Only an answer can ask for a wait. -/
theorem wish?_eq_some_iff {delivery : Delivery} {seconds : Nat} :
    wish? delivery = some seconds ↔ ∃ status headers body,
      delivery = .answered status headers body ∧ AsksToWait headers seconds := by
  cases delivery <;> simp [wish?, retryAfter?_eq_some_iff]

section Paced

variable (manner : Manner) (operation : Operation) (request : Request)

/-- Before each attempt but the first one, the wait is that of the policy after the attempt before it.
These are numbered from `earlier`. -/
theorem attempts_paced (spare earlier wait : Nat) :
    (attempts manner operation request spare earlier wait).Ensures fun sent _ =>
      sent.map (·.1.delay) = (wait :: sent.mapIdx fun index exchange =>
        manner.policy.delay (earlier + index + 1) (wish? exchange.2)).dropLast := by
  induction spare generalizing earlier wait with
  | zero => exact fun _ => rfl
  | succ spare ih =>
    intro delivery
    dsimp only
    by_cases htransient : isTransient delivery = true
    · -- The rest starts with the wait after this attempt, and counts from the next one on.
      rw [if_pos htransient]
      refine (ih (earlier + 1) _).mono fun sent _ hpaced => ?_
      have hshift : ∀ index, earlier + 1 + index + 1 = earlier + (index + 1) + 1 := by omega
      simp only [hshift] at hpaced
      rw [List.map_cons, hpaced, List.mapIdx_cons, List.dropLast_cons_cons]
      rfl
    · rw [if_neg htransient]
      rfl

/-- **The pauses of a request.**  Whatever is answered, the first attempt comes at once, and each other
one after the wait of the policy.  There is none without a pause, and none is longer than half a minute
unless an answer has asked for it. -/
theorem exchange_paced :
    (exchange manner operation request).Ensures fun sent _ =>
      sent.map (·.1.delay) = (0 :: sent.mapIdx fun index exchange =>
        manner.policy.delay (index + 1) (wish? exchange.2)).dropLast ∧
      ∀ pause ∈ (sent.map (·.1.delay)).tail, 1 ≤ pause ∧ (pause ≤ RetryPolicy.cap ∨
        ∃ exchange ∈ sent, ∃ status headers body seconds,
          exchange.2 = .answered status headers body ∧ AsksToWait headers seconds ∧
            pause = max (seconds * 1000) manner.policy.base) := by
  refine (attempts_paced manner operation request _ 0 0).mono fun sent _ hpaced => ?_
  simp only [Nat.zero_add] at hpaced
  refine ⟨hpaced, fun pause hpause => ?_⟩
  rw [hpaced, List.tail_dropLast, List.tail_cons] at hpause
  obtain ⟨index, hindex, rfl⟩ := List.mem_mapIdx.1 ((List.dropLast_sublist _).subset hpause)
  refine ⟨one_le_delay _ _ _, ?_⟩
  cases hwish : wish? sent[index].2 with
  | none => exact .inl (delay_none_le_cap _ _)
  | some seconds =>
    obtain ⟨status, headers, body, hanswered, hasks⟩ := wish?_eq_some_iff.1 hwish
    exact .inr ⟨_, List.getElem_mem hindex, status, headers, body, seconds, hanswered, hasks, rfl⟩

end Paced

/-! ### The attempts that another one follows -/

/-- The policy has another attempt after the one of that number, and what came of it allows for it. -/
def RetryPolicy.Permits (policy : RetryPolicy) (attempt : Nat) : Delivery → Prop
  | .answered status _ _ => policy.retries attempt status = true
  | .refused | .timedOut => attempt < policy.attempts
  | .dropped => False

/-- What is permitted is an attempt that is spare, after one that may pass. -/
theorem RetryPolicy.permits_iff {policy : RetryPolicy} {attempt : Nat} {delivery : Delivery} :
    policy.Permits attempt delivery ↔ attempt < policy.attempts ∧ isTransient delivery = true := by
  cases delivery <;> simp [RetryPolicy.Permits, RetryPolicy.retries, isTransient]

section Followed

variable (manner : Manner) (operation : Operation) (request : Request)

/-- Another attempt comes just after those that may pass while one is spare. -/
theorem attempts_followed (spare earlier wait : Nat) :
    (attempts manner operation request spare earlier wait).Ensures fun sent _ =>
      0 < sent.length ∧ ∀ index exchange, sent[index]? = some exchange →
        (index + 1 < sent.length ↔ index < spare ∧ isTransient exchange.2 = true) := by
  induction spare generalizing earlier wait with
  | zero =>
    exact fun delivery => ⟨Nat.zero_lt_one, fun index exchange _ => by simp⟩
  | succ spare ih =>
    intro delivery
    dsimp only
    by_cases htransient : isTransient delivery = true
    · rw [if_pos htransient]
      refine (ih (earlier + 1) _).mono fun sent _ ⟨hsent, hfollowed⟩ => ?_
      refine ⟨Nat.succ_pos _, fun index exchange hexchange => ?_⟩
      cases index with
      | zero =>
        -- This attempt has the whole rest after it, which is not empty.
        obtain rfl : _ = exchange := Option.some.inj hexchange
        simpa [htransient] using hsent
      | succ index => simpa using hfollowed index exchange hexchange
    · rw [if_neg htransient]
      refine ⟨Nat.zero_lt_one, fun index exchange hexchange => ?_⟩
      obtain ⟨rfl, rfl⟩ : index = 0 ∧ _ = exchange := by
        simpa [List.getElem?_singleton] using hexchange
      simp [htransient]

/-- **The attempts of a request.**  Whatever is answered, another attempt follows exactly those after
which the policy permits one. -/
theorem exchange_followed :
    (exchange manner operation request).Ensures fun sent _ =>
      ∀ index exchange, sent[index]? = some exchange →
        (index + 1 < sent.length ↔ manner.policy.Permits (index + 1) exchange.2) := by
  refine (attempts_followed manner operation request _ 0 0).mono fun sent _ ⟨_, hfollowed⟩ => ?_
  intro index exchange hexchange
  have hspare : index < manner.policy.attempts - 1 ↔ index + 1 < manner.policy.attempts := by omega
  rw [hfollowed index exchange hexchange, RetryPolicy.permits_iff, hspare]

end Followed

end Triage.GitHub
