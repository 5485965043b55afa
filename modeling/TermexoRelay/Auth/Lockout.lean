import TermexoRelay.Library.Tally

/-!
# The lockout table

One table for every credential check reachable from the network. It only passes calls on to the
throttle of the protocol crate, whose state is given here by the calls made on it, newest first:
`record_failure` marks a source and `clear` wipes it.
-/

namespace TermexoRelay

open Tally

def LOCKED_OUT_MESSAGE : String := "失败次数过多，请稍后再试。"

abbrev ThrottleCalls := List (Note String)

/-- The throttle of the protocol crate with its two constants. -/
structure FailureThrottle where
  maxFailures : Nat
  window : Nat
  window_pos : 0 < window
  isLocked : ThrottleCalls → String → Nat → Bool

namespace FailureThrottle

variable (throttle : FailureThrottle)

def failures (source : String) (now : Nat) (calls : ThrottleCalls) : Nat :=
  recent throttle.window source now calls

/-- A source is locked once that many of its failures are recorded in the window. -/
def Locks : Prop :=
  ∀ calls source now, throttle.maxFailures ≤ throttle.failures source now calls →
    throttle.isLocked calls source now = true

def counting (maxFailures window : Nat) (window_pos : 0 < window) : FailureThrottle where
  maxFailures := maxFailures
  window := window
  window_pos := window_pos
  isLocked calls source now := decide (maxFailures ≤ recent window source now calls)

def fiveFailures : FailureThrottle := counting 5 600000 (by omega)

theorem locks_counting (maxFailures window : Nat) (window_pos : 0 < window) :
    (counting maxFailures window window_pos).Locks :=
  fun _ _ _ h => decide_eq_true h

variable {throttle : FailureThrottle}

theorem Locks.failures_lt (h : throttle.Locks) {calls : ThrottleCalls} {source : String}
    {now : Nat} (hunlocked : throttle.isLocked calls source now = false) :
    throttle.failures source now calls < throttle.maxFailures := by
  by_contra hge
  rw [h calls source now (Nat.le_of_not_lt hge)] at hunlocked
  cases hunlocked

end FailureThrottle

end TermexoRelay
