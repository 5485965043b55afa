import TermexoRelay.Library.Interleaving
import TermexoRelay.Relay.Attempts

/-!
# How many guesses one address has

Any number of requests with credentials, from any addresses, take their actions in any order while
time passes and the rest of the relay does what it does. The table is read before a comparison and
told of it afterwards, so what it knows is behind by the requests under way.
-/

namespace TermexoRelay

open FailureThrottle Tally Transition

/-- What happens to the endpoints besides their requests: time passes, and the rest of the relay
changes the state it shares with them. -/
inductive DoorEvent where
  | elapse (duration : Nat)
  | change (relay : Relay)
deriving DecidableEq

def Doors.environment (doors : Doors) : DoorEvent → Option Doors
  | .elapse duration => some { doors with now := doors.now + duration }
  | .change relay => some { doors with relay }

abbrev Guessing := Pool Doors CredentialCheck
abbrev GuessingLabel := PoolLabel CredentialCheck TaskChoice DoorEvent

/-- The comparisons an address failed since its last accepted one, within the window. -/
def FailureThrottle.failed (throttle : FailureThrottle) (source : String) (now : Nat)
    (comparisons : List Comparison) : Nat :=
  recent throttle.window source now (comparisons.map Comparison.note)

/-- Every comparison was made while the address had failures left. -/
def FailureThrottle.Bounds (throttle : FailureThrottle) (comparisons : List Comparison) : Prop :=
  ∀ later comparison earlier, comparisons = later ++ comparison :: earlier →
    throttle.failed comparison.source comparison.time earlier < throttle.maxFailures

namespace Guessing

def step (config : RelayConfig) (throttle : FailureThrottle) :
    Guessing → GuessingLabel → Option Guessing :=
  poolStep (fun _ check => check.starts)
    (fun _ doors check choice => check.step config throttle doors choice) Doors.environment

def init (relay : Relay) (now : Nat) : Guessing := ⟨⟨relay, [], [], now⟩, []⟩

def waiting (s : Guessing) (source : String) : Nat :=
  s.tasks.countP (CredentialCheck.waits source)

/-- The failures of an address that are still to be recorded. -/
def unrecorded (s : Guessing) (source : String) : Nat :=
  s.tasks.countP (CredentialCheck.records source)

/-- The table as it reads once every request of the address under way has failed as well. -/
def foreseen (throttle : FailureThrottle) (s : Guessing) (source : String) : Bool :=
  throttle.isLocked
    (List.replicate (s.waiting source + s.unrecorded source) (.mark source s.shared.now) ++
      s.shared.calls)
    source s.shared.now

/-- The next action of a request neither outruns the table nor bypasses it: a request is let in, or
a current password confirmed, only while the address would have failures left after everything under
way; a password given for a change is the current one; and a clearing takes away no failure that was
compared after the last accepted credential. -/
def affords (config : RelayConfig) (throttle : FailureThrottle) (s : Guessing) :
    CredentialCheck → Bool
  | .arriving source presented =>
      !presented.throttled || throttle.isLocked s.shared.calls source s.shared.now ||
        !s.foreseen throttle source
  | .comparing source presented =>
      presented.throttled || presented.current config && !s.foreseen throttle source
  | .clearing source _ =>
      decide (throttle.failed source s.shared.now s.shared.comparisons ≤ s.unrecorded source)
  | _ => true

def Affords (config : RelayConfig) (throttle : FailureThrottle) (s : Guessing) :
    GuessingLabel → Prop
  | .advance index _ => s.tasks[index]?.all (affords config throttle s) = true
  | .spawn _ => True
  | .environment _ => True

instance (config : RelayConfig) (throttle : FailureThrottle) (s : Guessing) :
    ∀ label, Decidable (Affords config throttle s label)
  | .advance index _ => inferInstanceAs (Decidable (s.tasks[index]?.all _ = true))
  | .spawn _ => .isTrue trivial
  | .environment _ => .isTrue trivial

/-- What the table misses of an address's failures is still to be recorded, and whoever was let in
still has failures left. -/
structure Inv (throttle : FailureThrottle) (s : Guessing) : Prop where
  made : MadeBy s.shared.now (s.shared.comparisons.map Comparison.note)
  covered : ∀ source later, s.shared.now ≤ later →
    throttle.failed source later s.shared.comparisons ≤
      throttle.failures source later s.shared.calls + s.unrecorded source
  afforded : ∀ source, 0 < s.waiting source →
    throttle.failed source s.shared.now s.shared.comparisons + s.waiting source ≤
      throttle.maxFailures
  bounds : throttle.Bounds s.shared.comparisons

section Counting

variable {throttle : FailureThrottle} {source other : String} {now later time : Nat}
  {comparisons : List Comparison} {calls : ThrottleCalls}

theorem failed_antitone (h : now ≤ later) :
    throttle.failed source later comparisons ≤ throttle.failed source now comparisons :=
  recent_antitone h

theorem failed_accepted :
    throttle.failed source now (⟨source, time, true⟩ :: comparisons) = 0 :=
  recent_wipe_self

theorem failed_refused_le :
    throttle.failed source now (⟨source, time, false⟩ :: comparisons) ≤
      throttle.failed source now comparisons + 1 :=
  recent_mark_le time

theorem failed_of_ne (h : source ≠ other) (accepted : Bool) :
    throttle.failed other now (⟨source, time, accepted⟩ :: comparisons) =
      throttle.failed other now comparisons := by
  cases accepted with
  | false => exact recent_mark_of_ne h time
  | true => exact recent_wipe_of_ne h

theorem bounds_cons {comparison : Comparison} (h : throttle.Bounds comparisons)
    (hlt : throttle.failed comparison.source comparison.time comparisons < throttle.maxFailures) :
    throttle.Bounds (comparison :: comparisons) := by
  intro newer compared older hsplit
  cases newer with
  | nil =>
      cases hsplit
      exact hlt
  | cons first newer =>
      cases hsplit
      exact h newer compared older rfl

theorem madeBy_compared {accepted : Bool} (h : MadeBy time (comparisons.map Comparison.note)) :
    MadeBy time ((⟨source, time, accepted⟩ :: comparisons).map Comparison.note) := by
  cases accepted with
  | false => exact madeBy_mark h
  | true => exact madeBy_wipe h

end Counting

section Steps

variable {config : RelayConfig} {throttle : FailureThrottle} {s : Guessing} {index : Nat}
  {check check' : CredentialCheck} {doors : Doors} {source : String}

theorem Inv.afford (h : Inv throttle s) (hlocks : throttle.Locks)
    (hforeseen : s.foreseen throttle source = false) :
    throttle.failed source s.shared.now s.shared.comparisons + s.waiting source <
      throttle.maxFailures := by
  have hlt := hlocks.failures_lt hforeseen
  rw [FailureThrottle.failures, recent_replicate throttle.window_pos] at hlt
  have hcovered := h.covered source s.shared.now (Nat.le_refl _)
  rw [FailureThrottle.failures] at hcovered
  omega

theorem affords_arriving {presented : Presented} (hwaiting : s.waiting source = 0)
    (hunrecorded : s.unrecorded source = 0) :
    affords config throttle s (.arriving source presented) = true := by
  have hforeseen : s.foreseen throttle source =
      throttle.isLocked s.shared.calls source s.shared.now := by
    rw [foreseen, hwaiting, hunrecorded]
    rfl
  rw [affords, hforeseen]
  cases throttle.isLocked s.shared.calls source s.shared.now <;> simp

theorem Inv.recount (h : Inv throttle s) {s' : Guessing}
    (hcomparisons : s'.shared.comparisons = s.shared.comparisons)
    (hnow : s.shared.now ≤ s'.shared.now) (hwaiting : ∀ other, s'.waiting other ≤ s.waiting other)
    (hcovered : ∀ other later, s.shared.now ≤ later →
      throttle.failed other later s.shared.comparisons ≤
        throttle.failures other later s'.shared.calls + s'.unrecorded other) :
    Inv throttle s' where
  made := by
    rw [hcomparisons]
    exact h.made.mono hnow
  covered other later hlater := by
    rw [hcomparisons]
    exact hcovered other later (hnow.trans hlater)
  afforded other hpos := by
    rw [hcomparisons]
    have hfewer := hwaiting other
    have hafforded := h.afforded other (by omega)
    have hearlier : throttle.failed other s'.shared.now s.shared.comparisons ≤
        throttle.failed other s.shared.now s.shared.comparisons := failed_antitone hnow
    omega
  bounds := by
    rw [hcomparisons]
    exact h.bounds

theorem Inv.keep (h : Inv throttle s) {s' : Guessing} (hcalls : s'.shared.calls = s.shared.calls)
    (hcomparisons : s'.shared.comparisons = s.shared.comparisons)
    (hnow : s.shared.now ≤ s'.shared.now) (hwaiting : ∀ other, s'.waiting other ≤ s.waiting other)
    (hunrecorded : ∀ other, s.unrecorded other ≤ s'.unrecorded other) : Inv throttle s' := by
  refine h.recount hcomparisons hnow hwaiting fun other later hlater => ?_
  rw [hcalls]
  have hcovered := h.covered other later hlater
  have hmore := hunrecorded other
  omega

theorem waiting_set (doors : Doors) (check' : CredentialCheck)
    (htask : s.tasks[index]? = some check) (other : String) :
    Guessing.waiting ⟨doors, s.tasks.set index check'⟩ other + (check.waits other).toNat =
      s.waiting other + (check'.waits other).toNat :=
  countP_set_add _ check' htask

theorem unrecorded_set (doors : Doors) (check' : CredentialCheck)
    (htask : s.tasks[index]? = some check) (other : String) :
    Guessing.unrecorded ⟨doors, s.tasks.set index check'⟩ other + (check.records other).toNat =
      s.unrecorded other + (check'.records other).toNat :=
  countP_set_add _ check' htask

theorem Inv.compared (h : Inv throttle s) (source : String) (accepted : Bool) {s' : Guessing}
    (hlt : throttle.failed source s.shared.now s.shared.comparisons < throttle.maxFailures)
    (hcalls : s'.shared.calls = s.shared.calls)
    (hcomparisons : s'.shared.comparisons =
      ⟨source, s.shared.now, accepted⟩ :: s.shared.comparisons)
    (hnow : s'.shared.now = s.shared.now) (hwaiting : ∀ other, s'.waiting other ≤ s.waiting other)
    (hunrecorded : ∀ other, s.unrecorded other ≤ s'.unrecorded other)
    (hrefused : accepted = false →
      s'.waiting source + 1 ≤ s.waiting source ∧ s.unrecorded source + 1 ≤ s'.unrecorded source) :
    Inv throttle s' := by
  have hcount : ∀ other now, throttle.failed other now s'.shared.comparisons ≤
      throttle.failed other now s.shared.comparisons +
        if accepted = false ∧ source = other then 1 else 0 := by
    intro other now
    rw [hcomparisons]
    by_cases hother : source = other
    · subst hother
      cases accepted with
      | true =>
          rw [failed_accepted]
          exact Nat.zero_le _
      | false =>
          rw [if_pos ⟨rfl, rfl⟩]
          exact failed_refused_le
    · rw [failed_of_ne hother]
      exact Nat.le_add_right _ _
  refine ⟨?_, fun other later hlater => ?_, fun other hpos => ?_, ?_⟩
  · rw [hcomparisons, hnow]
    exact madeBy_compared h.made
  · rw [hnow] at hlater
    rw [hcalls]
    have hcovered := h.covered other later hlater
    have hmore := hunrecorded other
    have hcounted := hcount other later
    split at hcounted
    · next hmark =>
        obtain ⟨hmark, rfl⟩ := hmark
        have hrecord := (hrefused hmark).2
        omega
    · omega
  · rw [hnow]
    have hfewer := hwaiting other
    have hafforded := h.afforded other (by omega)
    have hcounted := hcount other s.shared.now
    split at hcounted
    · next hmark =>
        obtain ⟨hmark, rfl⟩ := hmark
        have hwait := (hrefused hmark).1
        omega
    · omega
  · rw [hcomparisons]
    exact bounds_cons h.bounds hlt

theorem Inv.recorded (h : Inv throttle s) {s' : Guessing}
    (hshared : s'.shared = s.shared.recordFailure source)
    (hwaiting : ∀ other, s'.waiting other ≤ s.waiting other)
    (hunrecorded : ∀ other, s'.unrecorded other + (decide (source = other)).toNat =
      s.unrecorded other) : Inv throttle s' := by
  have hnow : s'.shared.now = s.shared.now := by rw [hshared]; rfl
  refine h.recount (by rw [hshared]; rfl) (Nat.le_of_eq hnow.symm) hwaiting
    fun other later hlater => ?_
  have hcalls : s'.shared.calls = .mark source s.shared.now :: s.shared.calls := by
    rw [hshared]; rfl
  have hcovered := h.covered other later hlater
  have hrecord := hunrecorded other
  rw [FailureThrottle.failures] at hcovered
  rw [hcalls, FailureThrottle.failures]
  by_cases hother : source = other
  · subst hother
    rw [recent_mark_self]
    split
    · rw [decide_eq_true rfl, Bool.toNat_true] at hrecord
      omega
    · next hpassed =>
        have hnone : throttle.failed source later s.shared.comparisons = 0 :=
          recent_eq_zero h.made (Nat.le_of_not_lt hpassed)
        omega
  · rw [decide_eq_false hother, Bool.toNat_false, Nat.add_zero] at hrecord
    rw [recent_mark_of_ne hother]
    omega

theorem Inv.cleared (h : Inv throttle s) {s' : Guessing}
    (hshared : s'.shared = s.shared.clear source)
    (hclear : throttle.failed source s.shared.now s.shared.comparisons ≤ s.unrecorded source)
    (hwaiting : ∀ other, s'.waiting other ≤ s.waiting other)
    (hunrecorded : ∀ other, s.unrecorded other ≤ s'.unrecorded other) : Inv throttle s' := by
  have hnow : s'.shared.now = s.shared.now := by rw [hshared]; rfl
  refine h.recount (by rw [hshared]; rfl) (Nat.le_of_eq hnow.symm) hwaiting
    fun other later hlater => ?_
  have hcalls : s'.shared.calls = .wipe source :: s.shared.calls := by rw [hshared]; rfl
  have hcovered := h.covered other later hlater
  have hmore := hunrecorded other
  rw [FailureThrottle.failures] at hcovered
  rw [hcalls, FailureThrottle.failures]
  by_cases hother : source = other
  · subst hother
    have hearlier : throttle.failed source later s.shared.comparisons ≤
        throttle.failed source s.shared.now s.shared.comparisons := failed_antitone hlater
    omega
  · rw [recent_wipe_of_ne hother]
    omega

theorem Inv.letIn (h : Inv throttle s) {s' : Guessing} (hshared : s'.shared = s.shared)
    (hlt : throttle.failed source s.shared.now s.shared.comparisons + s.waiting source <
      throttle.maxFailures)
    (hwaiting : ∀ other, s'.waiting other = s.waiting other + (decide (source = other)).toNat)
    (hunrecorded : ∀ other, s.unrecorded other ≤ s'.unrecorded other) : Inv throttle s' := by
  refine ⟨?_, fun other later hlater => ?_, fun other hpos => ?_, ?_⟩
  · rw [hshared]
    exact h.made
  · rw [hshared] at hlater ⊢
    have hcovered := h.covered other later hlater
    have hmore := hunrecorded other
    omega
  · rw [hshared]
    have hwait := hwaiting other
    by_cases hother : source = other
    · subst hother
      rw [decide_eq_true rfl, Bool.toNat_true] at hwait
      omega
    · rw [decide_eq_false hother, Bool.toNat_false] at hwait
      have hafforded := h.afforded other (by omega)
      omega
  · rw [hshared]
    exact h.bounds

/-- One action that the address can afford. -/
theorem Inv.advance (h : Inv throttle s) (hlocks : throttle.Locks)
    (htask : s.tasks[index]? = some check) (hok : affords config throttle s check = true)
    (hstep : CredentialStep config throttle s.shared check doors check') :
    Inv throttle ⟨doors, s.tasks.set index check'⟩ := by
  have hwait := waiting_set doors check' htask
  have hrecord := unrecorded_set doors check' htask
  cases hstep with
  | lockedOut =>
      exact h.keep rfl rfl (Nat.le_refl _) (fun other => Nat.le_of_eq (hwait other))
        fun other => Nat.le_of_eq (hrecord other).symm
  | @letIn source presented hunlocked =>
      simp only [CredentialCheck.waits, CredentialCheck.records, Bool.toNat_false,
        Nat.add_zero] at hwait hrecord
      cases hthrottled : presented.throttled with
      | false =>
          simp only [hthrottled, Bool.false_and, Bool.toNat_false, Nat.add_zero] at hwait
          exact h.keep rfl rfl (Nat.le_refl _) (fun other => Nat.le_of_eq (hwait other))
            fun other => Nat.le_of_eq (hrecord other).symm
      | true =>
          simp only [affords, hthrottled, hunlocked hthrottled, Bool.not_true, Bool.false_or,
            Bool.not_eq_true'] at hok
          simp only [hthrottled, Bool.true_and] at hwait
          exact h.letIn rfl (h.afford hlocks hok) hwait
            fun other => Nat.le_of_eq (hrecord other).symm
  | unread =>
      simp only [CredentialCheck.waits, CredentialCheck.records, Bool.toNat_false,
        Nat.add_zero] at hwait hrecord
      exact h.keep rfl rfl (Nat.le_refl _) (fun other => Nat.le.intro (hwait other))
        fun other => Nat.le_of_eq (hrecord other).symm
  | @refused source presented relay error hrefused =>
      have hthrottled : presented.throttled = true := by
        refine hrefused.resolve_right fun hwrong => ?_
        cases presented with
        | changePassword user request =>
            simp only [affords, hwrong, Bool.false_and, Bool.or_false] at hok
            cases hok
        | _ => cases hwrong
      rw [if_pos hthrottled] at hwait hrecord ⊢
      simp only [CredentialCheck.waits, CredentialCheck.records, hthrottled, Bool.true_and,
        Bool.toNat_false, Nat.add_zero] at hwait hrecord
      have hself := hwait source
      rw [decide_eq_true rfl, Bool.toNat_true] at hself
      have hafforded := h.afforded source (by omega)
      refine h.compared source false (by omega) rfl rfl rfl
        (fun other => Nat.le.intro (hwait other)) (fun other => Nat.le.intro (hrecord other).symm)
        fun _ => ⟨Nat.le_of_eq hself, ?_⟩
      rw [hrecord, decide_eq_true rfl, Bool.toNat_true]
  | @accepted source presented relay next hwaits hrecords =>
      simp only [hwaits] at hwait
      simp only [hrecords] at hrecord
      have hlt : throttle.failed source s.shared.now s.shared.comparisons <
          throttle.maxFailures := by
        cases hthrottled : presented.throttled with
        | true =>
            have hself := hwait source
            simp only [CredentialCheck.waits, hthrottled, decide_true, Bool.and_self,
              Bool.toNat_true, Bool.toNat_false, Nat.add_zero] at hself
            have hafforded := h.afforded source (by omega)
            omega
        | false =>
            simp only [affords, hthrottled, Bool.false_or, Bool.and_eq_true,
              Bool.not_eq_true'] at hok
            exact Nat.lt_of_le_of_lt (Nat.le_add_right _ _) (h.afford hlocks hok.2)
      refine h.compared source true hlt rfl rfl rfl
        (fun other => Nat.le.intro (hwait other)) (fun other => Nat.le_of_eq (hrecord other).symm)
        fun hfalse => ?_
      cases hfalse
  | @enrolled source request relay next hwaits =>
      simp only [hwaits] at hwait
      simp only [CredentialCheck.waits, CredentialCheck.records, Bool.toNat_false,
        Nat.add_zero] at hwait hrecord
      exact h.keep rfl rfl (Nat.le_refl _) (fun other => Nat.le_of_eq (hwait other))
        fun other => Nat.le.intro (hrecord other).symm
  | @recorded source error =>
      simp only [CredentialCheck.waits, CredentialCheck.records, Bool.toNat_false,
        Nat.add_zero] at hwait hrecord
      exact h.recorded rfl (fun other => Nat.le_of_eq (hwait other)) hrecord
  | @cleared source accepted =>
      simp only [CredentialCheck.waits, CredentialCheck.records, Bool.toNat_false,
        Nat.add_zero] at hwait hrecord
      exact h.cleared rfl (of_decide_eq_true hok) (fun other => Nat.le_of_eq (hwait other))
        fun other => Nat.le_of_eq (hrecord other).symm

theorem Inv.step (hlocks : throttle.Locks) {label : GuessingLabel} {s' : Guessing}
    (h : Inv throttle s) (hok : Affords config throttle s label)
    (hstep : Guessing.step config throttle s label = some s') : Inv throttle s' := by
  cases label with
  | spawn check =>
      obtain ⟨hstarts, rfl⟩ := poolStep_spawn hstep
      obtain ⟨source, presented, rfl⟩ : ∃ source presented, check = .arriving source presented := by
        cases check with
        | arriving source presented => exact ⟨source, presented, rfl⟩
        | _ => cases hstarts
      refine h.keep rfl rfl (Nat.le_refl _) (fun other => ?_) fun other => ?_
      · simp [waiting, List.countP_append, CredentialCheck.waits]
      · simp [unrecorded, List.countP_append, CredentialCheck.records]
  | advance index choice =>
      obtain ⟨check, doors, check', htask, hadvance, rfl⟩ := poolStep_advance hstep
      rw [Affords, htask] at hok
      exact h.advance hlocks htask hok (CredentialCheck.step_eq_some hadvance)
  | environment event =>
      obtain ⟨doors, hevent, rfl⟩ := poolStep_environment hstep
      cases event with
      | elapse duration =>
          cases hevent
          exact h.keep rfl rfl (Nat.le_add_right _ _) (fun _ => Nat.le_refl _)
            fun _ => Nat.le_refl _
      | change relay =>
          cases hevent
          exact h.keep rfl rfl (Nat.le_refl _) (fun _ => Nat.le_refl _) fun _ => Nat.le_refl _

theorem inv_init (throttle : FailureThrottle) (relay : Relay) (now : Nat) :
    Inv throttle (init relay now) where
  made := fun _ _ hmade => absurd hmade List.not_mem_nil
  covered _ _ _ := Nat.zero_le _
  afforded _ hpos := absurd hpos (Nat.lt_irrefl 0)
  bounds later comparison earlier hsplit := by
    cases later <;> cases hsplit

end Steps

/-- In every run whose steps the address can afford, it never makes a comparison after as many
failures as lock it. -/
theorem guesses_bounded (config : RelayConfig) (throttle : FailureThrottle)
    (hlocks : throttle.Locks) (relay : Relay) (now : Nat) (labels : List GuessingLabel)
    (s : Guessing) (hrun : run (step config throttle) (init relay now) labels = some s)
    (hok : Meets (step config throttle) (Affords config throttle) (init relay now) labels) :
    throttle.Bounds s.shared.comparisons := by
  have hinv : Inv throttle s :=
    run_invariant (fun _ _ _ h hok hstep => h.step hlocks hok hstep) (inv_init throttle relay now)
      hok hrun
  exact hinv.bounds

def alice : UserRecord := ⟨"user-1", "alice", "correct horse", .user, false, 0, none⟩

def aliceRelay : Relay :=
  { Relay.new with
    database := { Database.empty with users := (Rows.empty.insert alice).getD .empty } }

def simultaneous (first count : Nat) (presented : Presented) : List GuessingLabel :=
  List.replicate count (.spawn (.arriving "203.0.113.5" presented)) ++
    (List.range' first count).map (.advance · {}) ++ (List.range' first count).map (.advance · {})

def successive (count actions : Nat) (presented : Presented) : List GuessingLabel :=
  (List.range count).flatMap fun index =>
    .spawn (.arriving "203.0.113.5" presented) :: List.replicate actions (.advance index {})

/-- Two wrong passwords at once, and then the right one. -/
def mistyped : List GuessingLabel :=
  simultaneous 0 2 (.login "alice" "guess") ++ [.advance 0 {}, .advance 1 {},
    .spawn (.arriving "203.0.113.5" (.login "alice" "correct horse")), .advance 2 {},
    .advance 2 {}, .advance 2 {}]

theorem guesses_bounded_mistyped :
    ∃ s, run (step System.plainConfig fiveFailures) (init aliceRelay 0) mistyped = some s ∧
      s.shared.comparisons.map Comparison.accepted = [true, false, false] ∧
      fiveFailures.Bounds s.shared.comparisons := by
  obtain ⟨s, hrun, hcomparisons⟩ := exists_run (step System.plainConfig fiveFailures)
    (init aliceRelay 0) mistyped
    (fun s => s.shared.comparisons.map Comparison.accepted = [true, false, false])
    (by decide)
  exact ⟨s, hrun, hcomparisons, guesses_bounded System.plainConfig fiveFailures
    (FailureThrottle.locks_counting _ _ _) aliceRelay 0 _ s hrun (by decide)⟩

def overlapping : List GuessingLabel :=
  successive 4 3 (.login "alice" "guess") ++ simultaneous 4 2 (.login "alice" "guess")

def uncounted : List GuessingLabel :=
  successive 6 2 (.changePassword alice ⟨"guess", "battery staple"⟩)

/-- Either way a sixth comparison follows five failures. -/
theorem guesses_overrun :
    fiveFailures.Locks ∧
      ∀ labels ∈ [overlapping, uncounted],
        ¬ ∀ s, run (step System.plainConfig fiveFailures) (init aliceRelay 0) labels = some s →
          fiveFailures.Bounds s.shared.comparisons := by
  refine ⟨FailureThrottle.locks_counting _ _ _, fun labels hlabels hbounds => ?_⟩
  obtain ⟨s, hrun, hcomparisons⟩ : ∃ s, run (step System.plainConfig fiveFailures)
      (init aliceRelay 0) labels = some s ∧
      s.shared.comparisons = List.replicate 6 ⟨"203.0.113.5", 0, false⟩ := by
    rcases List.mem_cons.mp hlabels with rfl | hlabels
    · exact exists_run (step System.plainConfig fiveFailures) _ _ _ (by decide)
    · obtain rfl := List.mem_singleton.mp hlabels
      exact exists_run (step System.plainConfig fiveFailures) _ _ _ (by decide)
  have hlt := hbounds s hrun [] ⟨"203.0.113.5", 0, false⟩
    (List.replicate 5 ⟨"203.0.113.5", 0, false⟩) hcomparisons
  exact absurd hlt (by decide)

end Guessing

end TermexoRelay
