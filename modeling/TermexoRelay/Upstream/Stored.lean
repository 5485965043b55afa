import TermexoRelay.Upstream.Reach
import TermexoRelay.Upstream.Running

/-!
# The link and the settings it will be resumed from

The status of the link and the stored settings are written by different actions of a connect, a
disconnect and a supervisor that forgets its upstream. They agree once all of these are over, as
long as connects take the lock in the order in which they stored, a disconnect overlaps no connect
that has stored, and no supervisor acts on what is no longer its own.
-/

namespace TermexoRelay

open Transition

/-- The status is there exactly for the url that is stored. -/
def UpstreamHost.Agrees (host : UpstreamHost) : Prop :=
  host.upstream.url = host.stored.map UpstreamSettings.url

namespace UpstreamTask

def stores (choice : UpstreamChoice) : UpstreamTask → Bool
  | storing _ => choice.fault.isNone
  | _ => false

def queued : UpstreamTask → Bool
  | locking (.start _) => true
  | _ => false

def entered : UpstreamTask → Bool
  | waiting _ (.start _) => true
  | halted (.start _) => true
  | spawning _ => true
  | _ => false

/-- A connect that has stored its upstream and not marked the link with it. -/
def joins : UpstreamTask → Bool
  | locking (.start _) => true
  | waiting _ (.start _) => true
  | halted (.start _) => true
  | _ => false

/-- The upstream a connect has stored, until its link is up. -/
def joined : UpstreamTask → Option UpstreamSettings
  | locking (.start settings) => some settings
  | waiting _ (.start settings) => some settings
  | halted (.start settings) => some settings
  | spawning settings => some settings
  | _ => none

def leaves : UpstreamTask → Bool
  | waiting _ .stop => true
  | halted .stop => true
  | resetting => true
  | clearing => true
  | _ => false

def isFinished : UpstreamTask → Bool
  | finished _ => true
  | _ => false

end UpstreamTask

namespace Linking

/-- The choice of an action in which no statement fails. -/
def Succeeds : LinkingLabel → Prop
  | .spawn _ => True
  | .advance _ choice => choice.fault = none
  | .environment (.supervise _ choice) => choice.fault = false
  | .environment .requestStop => True

/-- No connect and no disconnect is under way, and no upstream is being forgotten. -/
def Idle (p : Linking) : Prop :=
  p.tasks.all UpstreamTask.isFinished = true ∧ p.shared.anyStage Supervise.forgets = false

end Linking

/-- A relay, and the connect that has stored its upstream last. -/
structure TimedLinking where
  linking : Linking
  last : Option Nat
deriving DecidableEq

namespace TimedLinking

open Linking

def init (stored : Option UpstreamSettings) : TimedLinking := ⟨Linking.init stored, none⟩

def lastAfter (s : TimedLinking) : LinkingLabel → Option Nat
  | .advance index choice =>
      if s.linking.tasks[index]?.any (UpstreamTask.stores choice) then some index else s.last
  | _ => s.last

def step (config : LinkConfig) (s : TimedLinking) (label : LinkingLabel) : Option TimedLinking :=
  (Linking.step config s.linking label).map fun linking => ⟨linking, s.lastAfter label⟩

def lastIs (s : TimedLinking) (kind : UpstreamTask → Bool) : Bool :=
  s.last.any fun index => s.linking.tasks[index]?.any kind

/-- A connect stores while no disconnect is under way, and a disconnect takes the lock while no
connect is waiting for it; of the connects that wait, the one that stored last has its turn last. A
start or a stop writes the status while no supervisor is about to. -/
def inTurn (s : TimedLinking) (index : Nat) : UpstreamTask → Bool
  | .storing _ => !s.linking.tasks.any UpstreamTask.leaves
  | .locking (.start _) => decide (s.last = some index) || s.lastIs UpstreamTask.queued
  | .locking .stop => !s.linking.tasks.any UpstreamTask.queued
  | .halted (.start _) => !s.linking.shared.anyStage Supervise.marks
  | .resetting => !s.linking.shared.anyStage Supervise.marks
  | _ => true

/-- A revoked session clears what is stored while its supervisor is still running or waited for, and
no connect has stored since without marking the link. -/
def clearsInTurn (s : TimedLinking) (index : Nat) : Supervise → Bool
  | .ended outcome =>
      decide (nextStep outcome ≠ .revoked) ||
        s.linking.attached index && !s.lastIs UpstreamTask.joins
  | _ => true

def InTurn (s : TimedLinking) : LinkingLabel → Prop
  | .spawn _ => True
  | .advance index _ => s.linking.tasks[index]?.all (s.inTurn index) = true
  | .environment (.supervise index _) =>
      s.linking.shared.supervisors[index]?.all
        (fun supervisor => s.clearsInTurn index supervisor.stage) = true
  | .environment .requestStop => True

instance (s : TimedLinking) : ∀ label, Decidable (s.InTurn label)
  | .spawn _ => .isTrue trivial
  | .advance index _ => inferInstanceAs (Decidable (s.linking.tasks[index]?.all _ = true))
  | .environment (.supervise index _) =>
      inferInstanceAs (Decidable (s.linking.shared.supervisors[index]?.all _ = true))
  | .environment .requestStop => .isTrue trivial

/-- The supervisor `index` has forgotten what is stored, or what is stored is its own. -/
def Serves (stored : Option UpstreamSettings) (supervisor : Supervisor) : Prop :=
  (supervisor.stage.forgets = true → stored = none) ∧
    (supervisor.stage.forgets = false → supervisor.stage ≠ .returned →
      stored = some supervisor.settings)

/-- The status agrees with what is stored, or one of the two is still to be written: by the connect
that stored last, by a disconnect, or by a supervisor that forgets its upstream. -/
def Settled (s : TimedLinking) : Prop :=
  s.linking.shared.Agrees ∨ s.lastIs UpstreamTask.joins = true ∨
    s.linking.tasks.any UpstreamTask.leaves = true ∨
    ∃ index supervisor, s.linking.shared.supervisors[index]? = some supervisor ∧
      s.linking.attached index = true ∧ supervisor.stage.forgets = true

/-- What is stored was joined last and is what the running supervisor serves, or what the connect
that stored last will bring up; the status agrees with it or will. -/
structure Inv (s : TimedLinking) : Prop where
  alone : OneAtATime s.linking
  established : s.linking.shared.stored = s.linking.shared.established
  own : ∀ index task settings, s.last = some index → s.linking.tasks[index]? = some task →
    task.joined = some settings → s.linking.shared.stored = some settings
  ordered : ∀ (index : Nat) task, s.linking.tasks[index]? = some task → task.entered = true →
    s.last = some index ∨ s.lastIs UpstreamTask.queued = true
  leaving : s.linking.tasks.any UpstreamTask.leaves = true →
    ∀ task ∈ s.linking.tasks, task.joined = none
  cleared : .clearing ∈ s.linking.tasks → (∀ index, s.linking.attached index = false) ∧
    (s.linking.shared.upstream.url = none ∨ s.linking.marksNext = true)
  serves : ∀ index supervisor, s.linking.shared.supervisors[index]? = some supervisor →
    s.linking.attached index = true → s.lastIs UpstreamTask.joins = false →
    Serves s.linking.shared.stored supervisor
  settled : s.Settled

section Advance

variable {config : LinkConfig} {s s' : TimedLinking} {index : Nat} {choice : UpstreamChoice}
  {task task' : UpstreamTask} {host' : UpstreamHost} {kind : UpstreamTask → Bool}

def advanced (s : TimedLinking) (index : Nat) (choice : UpstreamChoice) (task : UpstreamTask)
    (host' : UpstreamHost) (task' : UpstreamTask) : TimedLinking :=
  ⟨⟨host', s.linking.tasks.set index task'⟩,
    if task.stores choice = true then some index else s.last⟩

theorem lastIs_iff : s.lastIs kind = true ↔
    ∃ index task, s.last = some index ∧ s.linking.tasks[index]? = some task ∧
      kind task = true := by
  simp only [lastIs, Option.any_eq_true]
  constructor
  · intro ⟨index, hlast, task, htask, hkind⟩
    exact ⟨index, task, hlast, htask, hkind⟩
  · intro ⟨index, task, hlast, htask, hkind⟩
    exact ⟨index, hlast, task, htask, hkind⟩

theorem lastIs_eq (hlast : s.last = some index) (htask : s.linking.tasks[index]? = some task) :
    s.lastIs kind = kind task := by
  rw [lastIs, hlast, Option.any_some, htask, Option.any_some]

theorem lastIs_set_of_eq {host : UpstreamHost} (htask : s.linking.tasks[index]? = some task)
    (hkind : kind task' = kind task) :
    lastIs ⟨⟨host, s.linking.tasks.set index task'⟩, s.last⟩ kind = s.lastIs kind := by
  cases hlast : s.last with
  | none => simp only [lastIs, hlast, Option.any_none]
  | some last =>
      simp only [lastIs, hlast, Option.any_some]
      by_cases hself : last = index
      · subst hself
        rw [List.getElem?_set_self (List.getElem?_eq_some_iff.mp htask).1, htask, Option.any_some,
          Option.any_some, hkind]
      · rw [List.getElem?_set_ne (Ne.symm hself)]

theorem joins_of_queued (h : s.lastIs UpstreamTask.queued = true) :
    s.lastIs UpstreamTask.joins = true := by
  obtain ⟨index, task, hlast, htask, hqueued⟩ := lastIs_iff.mp h
  refine lastIs_iff.mpr ⟨index, task, hlast, htask, ?_⟩
  cases task with
  | locking reason =>
      cases reason with
      | start settings => rfl
      | stop => cases hqueued
  | _ => cases hqueued

theorem lastIs_advanced (htask : s.linking.tasks[index]? = some task)
    (hstores : task.stores choice = false) (hkind : kind task' = kind task) :
    (s.advanced index choice task host' task').lastIs kind = s.lastIs kind := by
  rw [advanced, hstores]
  exact lastIs_set_of_eq htask hkind

theorem holds_of_entered (h : task.entered = true) : task.holds = true := by
  cases task with
  | waiting other reason => rfl
  | halted reason => rfl
  | spawning settings => rfl
  | _ => cases h

theorem queued_or_entered (h : task.joined ≠ none) :
    task.queued = true ∨ task.entered = true := by
  cases task with
  | locking reason =>
      cases reason with
      | start settings => exact .inl rfl
      | stop => exact absurd rfl h
  | waiting other reason =>
      cases reason with
      | start settings => exact .inr rfl
      | stop => exact absurd rfl h
  | halted reason =>
      cases reason with
      | start settings => exact .inr rfl
      | stop => exact absurd rfl h
  | spawning settings => exact .inr rfl
  | _ => exact absurd rfl h

theorem Inv.own_advance (h : Inv s) (htask : s.linking.tasks[index]? = some task)
    (hfault : choice.fault = none) (hstep : UpstreamStep choice s.linking.shared task host' task') :
    ∀ i other settings, (s.advanced index choice task host' task').last = some i →
      (s.linking.tasks.set index task')[i]? = some other → other.joined = some settings →
      host'.stored = some settings := by
  intro i other settings hlast hother hjoined
  have hkept : task.stores choice = false → (∀ joined, task'.joined = some joined →
      task.joined = some joined) → s.linking.shared.stored = some settings := by
    intro hstores hsame
    simp only [advanced, hstores, Bool.false_eq_true, if_false] at hlast
    rcases getElem?_set_cases hother with ⟨rfl, rfl⟩ | ⟨-, hold⟩
    · exact h.own i task settings hlast htask (hsame settings hjoined)
    · exact h.own i other settings hlast hold hjoined
  cases hstep with
  | stored =>
      simp only [advanced, UpstreamTask.stores, hfault, Option.isNone_none, if_true,
        Option.some.injEq] at hlast
      subst hlast
      rcases getElem?_set_cases hother with ⟨-, rfl⟩ | ⟨hne, -⟩
      · exact hjoined
      · exact absurd rfl hne
  | storeFailed hfailed => exact absurd hfault hfailed
  | cleared =>
      have hleaves : s.linking.tasks.any UpstreamTask.leaves = true :=
        List.any_eq_true.mpr ⟨_, List.mem_of_getElem? htask, rfl⟩
      rcases getElem?_set_cases hother with ⟨-, rfl⟩ | ⟨-, hold⟩
      · cases hjoined
      · rw [h.leaving hleaves other (List.mem_of_getElem? hold)] at hjoined
        cases hjoined
  | @cancelling reason _ _ _ => cases reason <;> exact hkept rfl fun _ hjoined => hjoined
  | @unoccupied reason _ _ => cases reason <;> exact hkept rfl fun _ hjoined => hjoined
  | @waited _ reason _ => cases reason <;> exact hkept rfl fun _ hjoined => hjoined
  | connecting => exact hkept rfl fun _ hjoined => hjoined
  | _ => exact hkept rfl fun _ hjoined => by cases hjoined

theorem Inv.ordered_advance (h : Inv s) (hturn : s.inTurn index task = true)
    (htask : s.linking.tasks[index]? = some task) (hfault : choice.fault = none)
    (hstep : UpstreamStep choice s.linking.shared task host' task') :
    ∀ (i : Nat) other, (s.linking.tasks.set index task')[i]? = some other →
      other.entered = true → (s.advanced index choice task host' task').last = some i ∨
      (s.advanced index choice task host' task').lastIs UpstreamTask.queued = true := by
  intro i other hother hentered
  have hkept : task.stores choice = false → (task'.entered = true → task.entered = true) →
      task'.queued = task.queued → (s.advanced index choice task host' task').last = some i ∨
      (s.advanced index choice task host' task').lastIs UpstreamTask.queued = true := by
    intro hstores hsame hqueued
    rw [lastIs_advanced htask hstores hqueued]
    simp only [advanced, hstores, Bool.false_eq_true, if_false]
    rcases getElem?_set_cases hother with ⟨rfl, rfl⟩ | ⟨-, hold⟩
    · exact h.ordered i task htask (hsame hentered)
    · exact h.ordered i other hold hentered
  have htaken : ∀ {settings : UpstreamSettings}, task = .locking (.start settings) →
      s.linking.shared.locked = false → (s.advanced index choice task host' task').last = some i ∨
      (s.advanced index choice task host' task').lastIs UpstreamTask.queued = true := by
    rintro settings rfl hlock
    rcases getElem?_set_cases hother with ⟨rfl, rfl⟩ | ⟨-, hold⟩
    · rw [inTurn, Bool.or_eq_true, decide_eq_true_eq] at hturn
      by_cases hlast : s.last = some i
      · exact .inl hlast
      · obtain ⟨last, task, hself, hold, hqueued⟩ := lastIs_iff.mp (hturn.resolve_left hlast)
        refine .inr (lastIs_iff.mpr ⟨last, task, hself, ?_, hqueued⟩)
        have hne : i ≠ last := by
          rintro rfl
          exact hlast hself
        exact (List.getElem?_set_ne hne).trans hold
    · have hmutex := h.alone.mutex
      rw [hlock] at hmutex
      have hfree := hmutex.not_holds (List.mem_of_getElem? hold)
      rw [holds_of_entered hentered] at hfree
      cases hfree
  cases hstep with
  | stored =>
      refine .inr (lastIs_iff.mpr ⟨index, _, ?_, List.getElem?_set_self ?_, rfl⟩)
      · simp only [advanced, UpstreamTask.stores, hfault, Option.isNone_none, if_true]
      · exact (List.getElem?_eq_some_iff.mp htask).1
  | storeFailed hfailed => exact absurd hfault hfailed
  | @cancelling reason _ hlock _ =>
      cases reason with
      | start settings => exact htaken rfl hlock
      | stop => exact hkept rfl id rfl
  | @unoccupied reason hlock _ =>
      cases reason with
      | start settings => exact htaken rfl hlock
      | stop => exact hkept rfl id rfl
  | @waited _ reason _ => cases reason <;> exact hkept rfl id rfl
  | connecting => exact hkept rfl (fun _ => rfl) rfl
  | _ => exact hkept rfl (fun hentered => by cases hentered) rfl

theorem Inv.leaving_advance (h : Inv s) (hturn : s.inTurn index task = true)
    (htask : s.linking.tasks[index]? = some task)
    (hstep : UpstreamStep choice s.linking.shared task host' task')
    (hleaves : (s.linking.tasks.set index task').any UpstreamTask.leaves = true) :
    ∀ other ∈ s.linking.tasks.set index task', other.joined = none := by
  have hbefore : (task'.leaves = true → task.leaves = true) →
      s.linking.tasks.any UpstreamTask.leaves = true := by
    intro hsame
    obtain ⟨leaver, hmem, hleaver⟩ := List.any_eq_true.mp hleaves
    rcases mem_set_cases hmem with rfl | ⟨i, _, hi⟩
    · exact List.any_eq_true.mpr ⟨task, List.mem_of_getElem? htask, hsame hleaver⟩
    · exact List.any_eq_true.mpr ⟨leaver, List.mem_of_getElem? hi, hleaver⟩
  have hkept : (task'.leaves = true → task.leaves = true) →
      (task'.joined ≠ none → task.joined ≠ none) →
      ∀ other ∈ s.linking.tasks.set index task', other.joined = none := by
    intro hsame hjoined
    have hleft := h.leaving (hbefore hsame)
    refine forall_mem_set hleft ?_
    by_contra hnone
    exact hjoined hnone (hleft task (List.mem_of_getElem? htask))
  have htaken : task = .locking .stop → s.linking.shared.locked = false → task'.joined = none →
      ∀ other ∈ s.linking.tasks.set index task', other.joined = none := by
    rintro rfl hlock hnone
    refine forall_mem_set (fun other hother => ?_) hnone
    have hmutex := h.alone.mutex
    rw [hlock] at hmutex
    by_contra hjoined
    rcases queued_or_entered hjoined with hqueued | hentered
    · rw [inTurn, Bool.not_eq_true', List.any_eq_false] at hturn
      exact hturn other hother hqueued
    · have hfree := hmutex.not_holds hother
      rw [holds_of_entered hentered] at hfree
      cases hfree
  cases hstep with
  | stored =>
      rw [inTurn, Bool.not_eq_true', hbefore fun hleaver => by cases hleaver] at hturn
      cases hturn
  | @cancelling reason _ hlock _ =>
      cases reason with
      | start settings => exact hkept id id
      | stop => exact htaken rfl hlock rfl
  | @unoccupied reason hlock _ =>
      cases reason with
      | start settings => exact hkept id id
      | stop => exact htaken rfl hlock rfl
  | @waited _ reason _ => cases reason <;> exact hkept id id
  | connecting => exact hkept id id
  | withdrawn => exact hkept (fun _ => rfl) id
  | reset => exact hkept (fun _ => rfl) id
  | _ => exact hkept (fun hleaver => by cases hleaver) fun hjoined => absurd rfl hjoined

theorem Inv.joins_of_entered (h : Inv s) (htask : s.linking.tasks[index]? = some task)
    (hentered : task.entered = true) (hjoins : task.joins = true) :
    s.lastIs UpstreamTask.joins = true := by
  rcases h.ordered index task htask hentered with hlast | hqueued
  · exact lastIs_iff.mpr ⟨index, task, hlast, htask, hjoins⟩
  · exact joins_of_queued hqueued

theorem Inv.cleared_advance (h : Inv s) (hturn : s.inTurn index task = true)
    (htask : s.linking.tasks[index]? = some task)
    (hstep : UpstreamStep choice s.linking.shared task host' task')
    (hclearing : .clearing ∈ s.linking.tasks.set index task') :
    (∀ i, attached ⟨host', s.linking.tasks.set index task'⟩ i = false) ∧
      (host'.upstream.url = none ∨
        marksNext ⟨host', s.linking.tasks.set index task'⟩ = true) := by
  have hbefore : task' ≠ .clearing → .clearing ∈ s.linking.tasks := by
    intro hne
    rcases mem_set_cases hclearing with hself | ⟨i, _, hi⟩
    · exact absurd hself.symm hne
    · exact List.mem_of_getElem? hi
  have hleaves : task' ≠ .clearing → s.linking.tasks.any UpstreamTask.leaves = true :=
    fun hne => List.any_eq_true.mpr ⟨_, hbefore hne, rfl⟩
  have hleft : task' ≠ .clearing → task.joined = none :=
    fun hne => h.leaving (hleaves hne) task (List.mem_of_getElem? htask)
  have hsame : host'.upstream.running = s.linking.shared.upstream.running →
      (∀ i, task'.waitsFor i = task.waitsFor i) → ∀ i,
      attached ⟨host', s.linking.tasks.set index task'⟩ i = s.linking.attached i :=
    fun hrunning hwaits _ => attached_set_of_eq htask hrunning hwaits
  have hkept : task' ≠ .clearing → host'.upstream.running = s.linking.shared.upstream.running →
      (∀ i, task'.waitsFor i = task.waitsFor i) →
      host'.upstream.url = s.linking.shared.upstream.url →
      (task.marksNext = true → task'.marksNext = true) →
      (∀ i, attached ⟨host', s.linking.tasks.set index task'⟩ i = false) ∧
        (host'.upstream.url = none ∨
          marksNext ⟨host', s.linking.tasks.set index task'⟩ = true) := by
    intro hne hrunning hwaits hurl hmarks
    obtain ⟨hdetached, hnext⟩ := h.cleared (hbefore hne)
    refine ⟨fun i => (hsame hrunning hwaits i).trans (hdetached i), ?_⟩
    rw [hurl]
    refine hnext.imp_right fun hany => ?_
    rw [marksNext, List.any_eq_true] at hany ⊢
    exact exists_mem_set task' htask hany hmarks
  cases hstep with
  | stored =>
      rw [inTurn, Bool.not_eq_true', hleaves fun hself => by cases hself] at hturn
      cases hturn
  | cancelling hlock hrunning =>
      have hdetached := (h.cleared (hbefore fun hself => by cases hself)).1
      have hattached := attached_iff.mpr (.inl hrunning)
      rw [hdetached] at hattached
      cases hattached
  | unoccupied hlock hrunning =>
      exact hkept (fun hself => by cases hself) rfl (fun _ => rfl) rfl fun _ => rfl
  | @waited running reason hwaited =>
      have hdetached := (h.cleared (hbefore fun hself => by cases hself)).1 running
      have hattached := attached_iff.mpr (.inr ⟨reason, List.mem_of_getElem? htask⟩)
      rw [hdetached] at hattached
      cases hattached
  | connecting => cases hleft fun hself => by cases hself
  | spawned => cases hleft fun hself => by cases hself
  | withdrawn => exact hkept (fun hself => by cases hself) rfl (fun _ => rfl) rfl fun _ => rfl
  | reset =>
      have hdetached := h.alone.not_attached htask rfl fun _ => rfl
      exact ⟨fun i => (hsame rfl (fun _ => rfl) i).trans (hdetached i), .inl rfl⟩
  | _ =>
      exact hkept (fun hself => by cases hself) rfl (fun _ => rfl) rfl fun hnext => by cases hnext

theorem Inv.serves_advance (h : Inv s) (htask : s.linking.tasks[index]? = some task)
    (hfault : choice.fault = none) (hstep : UpstreamStep choice s.linking.shared task host' task')
    {i : Nat} {supervisor : Supervisor} (hget : host'.supervisors[i]? = some supervisor)
    (hattached : attached ⟨host', s.linking.tasks.set index task'⟩ i = true)
    (hjoins : (s.advanced index choice task host' task').lastIs UpstreamTask.joins = false) :
    Serves host'.stored supervisor := by
  have hsame : host'.upstream.running = s.linking.shared.upstream.running →
      (∀ i, task'.waitsFor i = task.waitsFor i) → s.linking.attached i = true :=
    fun hrunning hwaits => (attached_set_of_eq htask hrunning hwaits).symm.trans hattached
  have hdetached : task.holds = true → (∀ i, task.waitsFor i = false) →
      s.linking.attached i = true → Serves host'.stored supervisor := by
    intro hholds hwaits hattached'
    rw [h.alone.not_attached htask hholds hwaits] at hattached'
    cases hattached'
  have hbefore : task.stores choice = false → task'.joins = task.joins →
      s.lastIs UpstreamTask.joins = false :=
    fun hstores hkind => (lastIs_advanced htask hstores hkind).symm.trans hjoins
  cases hstep with
  | @stored settings =>
      have hlast : (s.advanced index choice (.storing settings)
          { s.linking.shared with stored := some settings, established := some settings }
          (.locking (.start settings))).last = some index := by
        simp only [advanced, UpstreamTask.stores, hfault, Option.isNone_none, if_true]
      rw [lastIs_eq hlast (List.getElem?_set_self (List.getElem?_eq_some_iff.mp htask).1)] at hjoins
      cases hjoins
  | storeFailed hfailed => exact absurd hfault hfailed
  | @cancelling reason running hlock hrunning =>
      obtain ⟨before, hold, hsettings, hstage, -, -⟩ := getElem?_cancel hget
      rw [h.alone.attached_cancelling htask hlock hrunning rfl] at hattached
      have hserves : Serves s.linking.shared.stored before :=
        h.serves i before hold hattached (hbefore rfl (by cases reason <;> rfl))
      rwa [Serves, ← hsettings, ← hstage] at hserves
  | @unoccupied reason hlock hrunning =>
      exact h.serves i supervisor hget (hsame rfl fun _ => rfl)
        (hbefore rfl (by cases reason <;> rfl))
  | @waited running reason hwaited =>
      exact h.serves i supervisor hget (attached_of_waited hattached)
        (hbefore rfl (by cases reason <;> rfl))
  | connecting => exact hdetached rfl (fun _ => rfl) (hsame rfl fun _ => rfl)
  | withdrawn => exact hdetached rfl (fun _ => rfl) (hsame rfl fun _ => rfl)
  | @spawned settings =>
      rw [h.alone.attached_spawned htask rfl, decide_eq_true_eq] at hattached
      subst hattached
      rw [List.getElem?_append_right le_rfl, Nat.sub_self] at hget
      cases hget
      have hlast : s.last = some index := by
        refine (h.ordered index _ htask rfl).resolve_right fun hqueued => ?_
        rw [joins_of_queued hqueued] at hbefore
        cases hbefore rfl rfl
      exact ⟨(fun hforgets => by cases hforgets), fun _ _ => h.own index _ settings hlast htask rfl⟩
  | reset => exact hdetached rfl (fun _ => rfl) (hsame rfl fun _ => rfl)
  | clearFailed hfailed => exact absurd hfault hfailed
  | cleared =>
      have hnone := (h.cleared (List.mem_of_getElem? htask)).1 i
      rw [hsame rfl fun _ => rfl] at hnone
      cases hnone
  | _ => exact h.serves i supervisor hget (hsame rfl fun _ => rfl) (hbefore rfl rfl)

theorem leaves_of_marksNext (hmarks : task.marksNext = true) (hjoined : task.joined = none) :
    task.leaves = true := by
  cases task with
  | halted reason =>
      cases reason with
      | start settings => cases hjoined
      | stop => rfl
  | resetting => rfl
  | _ => cases hmarks

theorem settled_of_leaves (htask : s.linking.tasks[index]? = some task)
    (hleaves : task'.leaves = true) : (s.advanced index choice task host' task').Settled :=
  .inr (.inr (.inl (List.any_eq_true.mpr ⟨task', mem_set_self htask, hleaves⟩)))

theorem settled_of_joins (htask : s.linking.tasks[index]? = some task)
    (hstores : task.stores choice = false) (hkind : task'.joins = task.joins)
    (hjoins : s.lastIs UpstreamTask.joins = true) :
    (s.advanced index choice task host' task').Settled :=
  .inr (.inl ((lastIs_advanced htask hstores hkind).trans hjoins))

theorem settled_of_queued (htask : s.linking.tasks[index]? = some task)
    (hstores : task.stores choice = false) (hkind : task'.queued = task.queued)
    (hqueued : s.lastIs UpstreamTask.queued = true) :
    (s.advanced index choice task host' task').Settled :=
  .inr (.inl (joins_of_queued ((lastIs_advanced htask hstores hkind).trans hqueued)))

/-- Whatever supervisor is running or waited for still is, at the same stage. -/
def KeepsAttached (linking linking' : Linking) : Prop :=
  ∀ i supervisor, linking.shared.supervisors[i]? = some supervisor → linking.attached i = true →
    ∃ supervisor', linking'.shared.supervisors[i]? = some supervisor' ∧
      linking'.attached i = true ∧ supervisor'.stage = supervisor.stage

theorem keepsAttached_of_eq (htask : s.linking.tasks[index]? = some task)
    (hrunning : host'.upstream.running = s.linking.shared.upstream.running)
    (hwaits : ∀ i, task'.waitsFor i = task.waitsFor i)
    (hsupervisors : host'.supervisors = s.linking.shared.supervisors) :
    KeepsAttached s.linking ⟨host', s.linking.tasks.set index task'⟩ := by
  intro i supervisor hget hattached
  refine ⟨supervisor, hsupervisors ▸ hget, ?_, rfl⟩
  exact (attached_set_of_eq htask hrunning hwaits).trans hattached

/-- An action that writes neither the status nor what is stored. -/
theorem Inv.settled_keep (h : Inv s) (htask : s.linking.tasks[index]? = some task)
    (hstores : task.stores choice = false) (hkind : task'.joins = task.joins)
    (hleaves : task.leaves = false) (hagrees : s.linking.shared.Agrees → host'.Agrees)
    (hkeeps : KeepsAttached s.linking ⟨host', s.linking.tasks.set index task'⟩) :
    (s.advanced index choice task host' task').Settled := by
  rcases h.settled with hnow | hjoins | hleaver | ⟨i, supervisor, hget, hattached, hforgot⟩
  · exact .inl (hagrees hnow)
  · exact settled_of_joins htask hstores hkind hjoins
  · refine .inr (.inr (.inl ?_))
    rw [List.any_eq_true] at hleaver
    refine List.any_eq_true.mpr (exists_mem_set task' htask hleaver fun hself => ?_)
    rw [hleaves] at hself
    cases hself
  · obtain ⟨supervisor', hget', hattached', hstage⟩ := hkeeps i supervisor hget hattached
    exact .inr (.inr (.inr ⟨i, supervisor', hget', hattached', by rw [hstage]; exact hforgot⟩))

/-- What is stored is cleared: the status is gone, or another disconnect has it still to reset. -/
theorem Inv.settled_cleared (h : Inv s) (htask : s.linking.tasks[index]? = some .clearing)
    (hurl : host'.upstream.url = s.linking.shared.upstream.url) (hstored : host'.stored = none) :
    (s.advanced index choice .clearing host' task').Settled := by
  rcases (h.cleared (List.mem_of_getElem? htask)).2 with hnone | hmarks
  · refine .inl ?_
    rw [advanced, UpstreamHost.Agrees, hurl, hnone, hstored, Option.map_none]
  · have hleaves : s.linking.tasks.any UpstreamTask.leaves = true :=
      List.any_eq_true.mpr ⟨_, List.mem_of_getElem? htask, rfl⟩
    obtain ⟨other, hother, hnext⟩ := List.any_eq_true.mp hmarks
    obtain ⟨i, hi⟩ := List.mem_iff_getElem?.mp hother
    have hne : index ≠ i := by
      rintro rfl
      rw [htask] at hi
      cases hi
      cases hnext
    refine .inr (.inr (.inl (List.any_eq_true.mpr ⟨other, ?_, ?_⟩)))
    · exact List.mem_of_getElem? ((List.getElem?_set_ne hne).trans hi)
    · exact leaves_of_marksNext hnext (h.leaving hleaves other hother)

theorem Inv.settled_advance (h : Inv s) (htask : s.linking.tasks[index]? = some task)
    (hfault : choice.fault = none)
    (hstep : UpstreamStep choice s.linking.shared task host' task') :
    (s.advanced index choice task host' task').Settled := by
  cases hstep with
  | @stored settings =>
      refine .inr (.inl (lastIs_iff.mpr ⟨index, _, ?_, List.getElem?_set_self ?_, rfl⟩))
      · simp only [advanced, UpstreamTask.stores, hfault, Option.isNone_none, if_true]
      · exact (List.getElem?_eq_some_iff.mp htask).1
  | storeFailed hfailed => exact absurd hfault hfailed
  | @cancelling reason running hlock hrunning =>
      cases reason with
      | start settings =>
          refine h.settled_keep htask rfl rfl rfl id fun i supervisor hget hattached => ?_
          refine ⟨_, getElem?_cancel_of hget, ?_, ?_⟩
          · rw [h.alone.attached_cancelling htask hlock hrunning rfl]
            exact hattached
          · split <;> rfl
      | stop => exact settled_of_leaves htask rfl
  | @unoccupied reason hlock hrunning =>
      cases reason with
      | start settings =>
          refine h.settled_keep htask rfl rfl rfl id ?_
          exact keepsAttached_of_eq htask rfl (fun _ => rfl) rfl
      | stop => exact settled_of_leaves htask rfl
  | @waited running reason hwaited =>
      cases reason with
      | start settings => exact settled_of_joins htask rfl rfl (h.joins_of_entered htask rfl rfl)
      | stop => exact settled_of_leaves htask rfl
  | @connecting settings =>
      rcases h.ordered index _ htask rfl with hlast | hqueued
      · have hstored := h.own index _ settings hlast htask rfl
        refine .inl ?_
        simp only [advanced, UpstreamHost.Agrees, UpstreamHost.setUpstream,
          UpstreamLink.url_setConnecting, hstored, Option.map_some]
      · exact settled_of_queued htask rfl rfl hqueued
  | withdrawn => exact settled_of_leaves htask rfl
  | spawned =>
      refine h.settled_keep htask rfl rfl rfl id fun i supervisor hget hattached => ?_
      rw [h.alone.not_attached htask rfl fun _ => rfl] at hattached
      cases hattached
  | reset => exact settled_of_leaves htask rfl
  | clearFailed hfailed => exact absurd hfault hfailed
  | cleared => exact h.settled_cleared htask rfl rfl
  | _ =>
      refine h.settled_keep htask rfl rfl rfl id ?_
      exact keepsAttached_of_eq htask rfl (fun _ => rfl) rfl

end Advance

section Supervise

variable {config : LinkConfig} {s : TimedLinking} {index : Nat} {choice : SessionChoice}
  {settings : UpstreamSettings} {cancelled : Bool} {before stage : Supervise}
  {next : UpstreamHost}

def supervised (s : TimedLinking) (index : Nat) (next : UpstreamHost) (supervisor : Supervisor) :
    TimedLinking :=
  { s with
    linking := { s.linking with
      shared := { next with
        supervisors := s.linking.shared.supervisors.set index supervisor } } }

theorem attached_supervised {supervisor : Supervisor} {i : Nat}
    (hstep : SuperviseStep settings cancelled choice s.linking.shared before next stage) :
    (s.supervised index next supervisor).linking.attached i = s.linking.attached i := by
  simp only [attached, supervised, (locked_running_of_supervised hstep).2]

theorem Inv.clears_own (h : Inv s) {outcome : SessionOutcome}
    (hget : s.linking.shared.supervisors[index]? = some ⟨settings, cancelled, .ended outcome⟩)
    (hrevoked : nextStep outcome = .revoked)
    (hturn : s.clearsInTurn index (.ended outcome) = true) :
    s.linking.attached index = true ∧ s.lastIs UpstreamTask.joins = false ∧
      s.linking.shared.stored = some settings := by
  simp only [clearsInTurn, hrevoked, ne_eq, not_true_eq_false, decide_false, Bool.false_or,
    Bool.and_eq_true, Bool.not_eq_true'] at hturn
  obtain ⟨hattached, hjoins⟩ := hturn
  have hserves := (h.serves index _ hget hattached hjoins).2 rfl fun hreturned => by
    cases hreturned
  exact ⟨hattached, hjoins, hserves⟩

theorem Inv.established_supervise (h : Inv s)
    (hget : s.linking.shared.supervisors[index]? = some ⟨settings, cancelled, before⟩)
    (hturn : s.clearsInTurn index before = true)
    (hstep : SuperviseStep settings cancelled choice s.linking.shared before next stage) :
    next.stored = next.established := by
  cases hstep with
  | revoked hrevoked =>
      cases choice.fault with
      | true => exact h.established
      | false =>
          have hstored := (h.clears_own hget hrevoked hturn).2.2
          rw [h.established] at hstored
          simp [UpstreamHost.forget, hstored, Option.filter]
  | _ => exact h.established

theorem Inv.own_supervise (h : Inv s)
    (hget : s.linking.shared.supervisors[index]? = some ⟨settings, cancelled, before⟩)
    (hturn : s.clearsInTurn index before = true)
    (hstep : SuperviseStep settings cancelled choice s.linking.shared before next stage)
    {i : Nat} {task : UpstreamTask} {joined : UpstreamSettings} (hlast : s.last = some i)
    (htask : s.linking.tasks[i]? = some task) (hjoined : task.joined = some joined) :
    next.stored = some joined := by
  have hstored := h.own i task joined hlast htask hjoined
  cases hstep with
  | revoked hrevoked =>
      obtain ⟨hattached, hjoins, -⟩ := h.clears_own hget hrevoked hturn
      rw [lastIs_eq hlast htask] at hjoins
      have hspawning : task = .spawning joined := by
        cases task with
        | spawning settings =>
            cases hjoined
            rfl
        | locking reason => cases reason <;> cases hjoined; cases hjoins
        | waiting other reason => cases reason <;> cases hjoined; cases hjoins
        | halted reason => cases reason <;> cases hjoined; cases hjoins
        | _ => cases hjoined
      subst hspawning
      rw [h.alone.not_attached htask rfl fun _ => rfl] at hattached
      cases hattached
  | _ => exact hstored

theorem Inv.cleared_supervise (h : Inv s)
    (hget : s.linking.shared.supervisors[index]? = some ⟨settings, cancelled, before⟩)
    (hstep : SuperviseStep settings cancelled choice s.linking.shared before next stage)
    (hclearing : .clearing ∈ s.linking.tasks) :
    next.upstream.url = none ∨ s.linking.marksNext = true := by
  obtain ⟨hdetached, hnext⟩ := h.cleared hclearing
  cases hstep with
  | started =>
      have hreleased := h.alone.released index _ hget (hdetached index)
      rcases hreleased with hreturned | ⟨-, hmarks⟩
      · cases hreturned
      · exact .inr (hmarks rfl)
  | announced =>
      simpa only [UpstreamHost.setUpstream, UpstreamLink.url_setConnected] using hnext
  | failed => simpa only [UpstreamHost.setUpstream, UpstreamLink.url_setError] using hnext
  | revoked => simpa only [UpstreamHost.upstream_forget] using hnext
  | cleared => exact .inl rfl
  | _ => exact hnext

theorem Inv.serves_supervise (h : Inv s)
    (hget : s.linking.shared.supervisors[index]? = some ⟨settings, cancelled, before⟩)
    (hfault : choice.fault = false) (hturn : s.clearsInTurn index before = true)
    (hstep : SuperviseStep settings cancelled choice s.linking.shared before next stage)
    {i : Nat} {supervisor : Supervisor}
    (hafter : (s.linking.shared.supervisors.set index ⟨settings, cancelled, stage⟩)[i]? =
      some supervisor)
    (hattached : s.linking.attached i = true) (hjoins : s.lastIs UpstreamTask.joins = false) :
    Serves next.stored supervisor := by
  rcases getElem?_set_cases hafter with ⟨rfl, rfl⟩ | ⟨hne, hold⟩
  · obtain ⟨hforgot, hserves⟩ := h.serves i _ hget hattached hjoins
    have hkept : before.forgets = false → before ≠ .returned → stage.forgets = false →
        Serves s.linking.shared.stored ⟨settings, cancelled, stage⟩ :=
      fun hbefore hreturned hstage =>
        ⟨fun hforgets => absurd hforgets (by simp [hstage]), fun _ _ => hserves hbefore hreturned⟩
    have hunmarked : stage.marks = false → stage.forgets = false := by
      cases stage <;> simp [Supervise.marks, Supervise.forgets]
    cases hstep with
    | selected hnext => exact hkept rfl (by simp) (hunmarked hnext)
    | dialed hnext => exact hkept rfl (by simp) (hunmarked hnext)
    | failed hnext => exact hkept rfl (by simp) (hunmarked hnext)
    | slept hnext =>
        rcases hnext with rfl | ⟨-, rfl⟩
        · exact hkept rfl (by simp) rfl
        · exact hkept rfl (by simp) rfl
    | revoked hrevoked => simp [Serves, UpstreamHost.forget, hfault, Supervise.forgets]
    | forgot => exact ⟨hforgot, fun hforgets => by cases hforgets⟩
    | cleared =>
        exact ⟨(fun hforgets => by cases hforgets), fun _ hreturned => absurd rfl hreturned⟩
    | _ => exact hkept rfl (by simp) rfl
  · have hserves := h.serves i supervisor hold hattached hjoins
    cases hstep with
    | revoked hrevoked =>
        have hself := (h.clears_own hget hrevoked hturn).1
        exact absurd (h.alone.attached_unique hattached hself) hne
    | _ => exact hserves

/-- While a request marks the link next, the status is to be written. -/
theorem Inv.settled_of_marksNext (h : Inv s) (hmarks : s.linking.marksNext = true) :
    s.lastIs UpstreamTask.joins = true ∨ s.linking.tasks.any UpstreamTask.leaves = true := by
  obtain ⟨task, hmem, hnext⟩ := List.any_eq_true.mp hmarks
  obtain ⟨i, hi⟩ := List.mem_iff_getElem?.mp hmem
  cases task with
  | halted reason =>
      cases reason with
      | start settings => exact .inl (h.joins_of_entered hi rfl rfl)
      | stop => exact .inr (List.any_eq_true.mpr ⟨_, hmem, rfl⟩)
  | resetting => exact .inr (List.any_eq_true.mpr ⟨_, hmem, rfl⟩)
  | _ => cases hnext

/-- What a supervisor writes to the status is what is stored then, or is to be overwritten. -/
theorem Inv.agrees_of_marks (h : Inv s)
    (hget : s.linking.shared.supervisors[index]? = some ⟨settings, cancelled, before⟩)
    (hmarks : before.marks = true) :
    Serves s.linking.shared.stored ⟨settings, cancelled, before⟩ ∨
      s.lastIs UpstreamTask.joins = true ∨ s.linking.tasks.any UpstreamTask.leaves = true := by
  by_cases hattached : s.linking.attached index = true
  · by_cases hjoins : s.lastIs UpstreamTask.joins = true
    · exact .inr (.inl hjoins)
    · exact .inl (h.serves index _ hget hattached (Bool.not_eq_true _ ▸ hjoins))
  · rw [Bool.not_eq_true] at hattached
    rcases h.alone.released index _ hget hattached with hreturned | ⟨-, hnext⟩
    · subst hreturned
      cases hmarks
    · exact .inr (h.settled_of_marksNext (hnext hmarks))

theorem Inv.settled_supervise (h : Inv s)
    (hget : s.linking.shared.supervisors[index]? = some ⟨settings, cancelled, before⟩)
    (hturn : s.clearsInTurn index before = true)
    (hstep : SuperviseStep settings cancelled choice s.linking.shared before next stage) :
    (s.supervised index next ⟨settings, cancelled, stage⟩).Settled := by
  have hlt := (List.getElem?_eq_some_iff.mp hget).1
  have hsame : ∀ i, (s.supervised index next ⟨settings, cancelled, stage⟩).linking.attached i =
      s.linking.attached i := fun _ => attached_supervised hstep
  have hkept : next.stored = s.linking.shared.stored →
      next.upstream.url = s.linking.shared.upstream.url →
      (before.forgets = true → stage.forgets = true) →
      (s.supervised index next ⟨settings, cancelled, stage⟩).Settled := by
    intro hstored hurl hforgets
    rcases h.settled with hnow | hjoins | hleaves | ⟨i, supervisor, hold, hattached, hforgot⟩
    · refine .inl ?_
      simpa only [supervised, UpstreamHost.Agrees, hstored, hurl] using hnow
    · exact .inr (.inl hjoins)
    · exact .inr (.inr (.inl hleaves))
    · rw [← hsame] at hattached
      by_cases hself : index = i
      · subst hself
        rw [hget, Option.some.injEq] at hold
        subst hold
        exact .inr (.inr (.inr ⟨index, _, List.getElem?_set_self hlt, hattached,
          hforgets hforgot⟩))
      · exact .inr (.inr (.inr ⟨i, supervisor, (List.getElem?_set_ne hself).trans hold, hattached,
          hforgot⟩))
  have hwritten : before.marks = true → (Serves s.linking.shared.stored
      ⟨settings, cancelled, before⟩ → next.Agrees) →
      (s.supervised index next ⟨settings, cancelled, stage⟩).Settled := by
    intro hmarks hagrees
    rcases h.agrees_of_marks hget hmarks with hserves | hjoins | hleaves
    · exact .inl (hagrees hserves)
    · exact .inr (.inl hjoins)
    · exact .inr (.inr (.inl hleaves))
  cases hstep with
  | started =>
      refine hwritten rfl fun hserves => ?_
      have hstored := hserves.2 rfl (by simp)
      simp only [UpstreamHost.Agrees, UpstreamHost.setUpstream, UpstreamLink.url_setConnecting,
        hstored, Option.map_some]
  | announced => exact hkept rfl (UpstreamLink.url_setConnected _ _) fun hforgets => hforgets
  | failed => exact hkept rfl (UpstreamLink.url_setError _ _) fun hforgets => by cases hforgets
  | revoked hrevoked =>
      have hattached := (h.clears_own hget hrevoked hturn).1
      rw [← hsame] at hattached
      exact .inr (.inr (.inr ⟨index, _, List.getElem?_set_self hlt, hattached, rfl⟩))
  | forgot => exact hkept rfl rfl fun _ => rfl
  | cleared =>
      refine hwritten rfl fun hserves => ?_
      have hstored : s.linking.shared.stored = none := hserves.1 rfl
      simp only [UpstreamHost.Agrees, UpstreamHost.setUpstream, hstored, UpstreamLink.url,
        Option.map_none]
  | _ => exact hkept rfl rfl fun hforgets => by cases hforgets

end Supervise

section Runs

variable {config : LinkConfig} {s s' : TimedLinking}

theorem map_linking_step (config : LinkConfig) (s : TimedLinking) (label : LinkingLabel) :
    (s.step config label).map linking = Linking.step config s.linking label := by
  unfold step
  cases Linking.step config s.linking label with
  | none => rfl
  | some linking => rfl

theorem inv_advance {index : Nat} {choice : UpstreamChoice} {task task' : UpstreamTask}
    {host' : UpstreamHost} (h : Inv s) (hfault : choice.fault = none)
    (hturn : s.inTurn index task = true) (htask : s.linking.tasks[index]? = some task)
    (hstep : UpstreamStep choice s.linking.shared task host' task') :
    Inv (s.advanced index choice task host' task') := by
  have hmarks : task.marks = true → s.linking.shared.anyStage Supervise.marks = false := by
    intro hmarks
    cases task with
    | halted reason =>
        cases reason with
        | start settings => simpa [inTurn] using hturn
        | stop => cases hmarks
    | resetting => simpa [inTurn] using hturn
    | _ => cases hmarks
  constructor
  · exact h.alone.advanced htask hmarks hstep
  · cases hstep with
    | stored => rfl
    | cleared => rfl
    | _ => exact h.established
  · exact h.own_advance htask hfault hstep
  · exact h.ordered_advance hturn htask hfault hstep
  · exact h.leaving_advance hturn htask hstep
  · exact h.cleared_advance hturn htask hstep
  · exact fun i supervisor => h.serves_advance htask hfault hstep
  · exact h.settled_advance htask hfault hstep

theorem inv_supervise {index : Nat} {choice : SessionChoice} {settings : UpstreamSettings}
    {cancelled : Bool} {before stage : Supervise} {next : UpstreamHost} (h : Inv s)
    (hfault : choice.fault = false) (hturn : s.clearsInTurn index before = true)
    (hget : s.linking.shared.supervisors[index]? = some ⟨settings, cancelled, before⟩)
    (hstep : before.step config.relayId s.linking.shared settings cancelled choice =
      some (next, stage)) :
    Inv (s.supervised index next ⟨settings, cancelled, stage⟩) := by
  have hrule := Supervise.step_eq_some hstep
  have hsame : ∀ i, (s.supervised index next ⟨settings, cancelled, stage⟩).linking.attached i =
      s.linking.attached i := fun _ => attached_supervised hrule
  constructor
  · refine h.alone.supervised hget (fun outcome hended hrevoked => ?_) hstep
    obtain rfl : before = .ended outcome := hended
    exact (h.clears_own hget hrevoked hturn).1
  · have hestablished : next.stored = next.established :=
      h.established_supervise hget hturn hrule
    exact hestablished
  · exact fun i task joined => h.own_supervise hget hturn hrule
  · exact h.ordered
  · exact h.leaving
  · intro hclearing
    have hurl : next.upstream.url = none ∨ s.linking.marksNext = true :=
      h.cleared_supervise hget hrule hclearing
    exact ⟨fun i => (hsame i).trans ((h.cleared hclearing).1 i), hurl⟩
  · intro i supervisor hafter hattached hjoins
    exact h.serves_supervise hget hfault hturn hrule hafter ((hsame i).symm.trans hattached) hjoins
  · exact h.settled_supervise hget hturn hrule

theorem lastIs_append {task : UpstreamTask} {kind : UpstreamTask → Bool}
    (hkind : kind task = false) :
    lastIs ⟨⟨s.linking.shared, s.linking.tasks ++ [task]⟩, s.last⟩ kind = s.lastIs kind := by
  cases hlast : s.last with
  | none => simp only [lastIs, hlast, Option.any_none]
  | some last =>
      simp only [lastIs, hlast, Option.any_some]
      rw [Bool.eq_iff_iff, Option.any_eq_true, Option.any_eq_true]
      constructor
      · intro ⟨other, hother, hhas⟩
        rcases getElem?_append_cases hother with hold | rfl
        · exact ⟨other, hold, hhas⟩
        · rw [hkind] at hhas
          cases hhas
      · intro ⟨other, hother, hhas⟩
        exact ⟨other, getElem?_append_of_some hother, hhas⟩

theorem inv_spawn {task : UpstreamTask} (h : Inv s) (hstarts : task.starts = true) :
    Inv ⟨⟨s.linking.shared, s.linking.tasks ++ [task]⟩, s.last⟩ := by
  have hidle : task.joins = false ∧ task.queued = false ∧ task.entered = false ∧
      task.leaves = false ∧ task.joined = none ∧ task.holds = false ∧ task.marksNext = false ∧
      task ≠ .clearing ∧ ∀ i, task.waitsFor i = false := by
    cases task with
    | joining origin certificateFingerprint => simp [UpstreamTask.joins, UpstreamTask.queued,
        UpstreamTask.entered, UpstreamTask.leaves, UpstreamTask.joined, UpstreamTask.holds,
        UpstreamTask.marksNext, UpstreamTask.waitsFor]
    | locking reason =>
        cases reason with
        | start settings => cases hstarts
        | stop => simp [UpstreamTask.joins, UpstreamTask.queued,
            UpstreamTask.entered, UpstreamTask.leaves, UpstreamTask.joined, UpstreamTask.holds,
            UpstreamTask.marksNext, UpstreamTask.waitsFor]
    | _ => cases hstarts
  obtain ⟨hjoins, hqueued, hentered, hleaves, hjoined, hholds, hmarks, hclearing, hwaits⟩ := hidle
  constructor
  · exact h.alone.append hholds hwaits hmarks
  · exact h.established
  · intro i other settings hlast hother hsettings
    rcases getElem?_append_cases hother with hold | rfl
    · exact h.own i other settings hlast hold hsettings
    · rw [hjoined] at hsettings
      cases hsettings
  · intro i other hother hhas
    rw [lastIs_append hqueued]
    rcases getElem?_append_cases hother with hold | rfl
    · exact h.ordered i other hold hhas
    · rw [hentered] at hhas
      cases hhas
  · intro hany other hother
    simp only [List.any_append, List.any_cons, hleaves, List.any_nil, Bool.or_false] at hany
    rcases List.mem_append.mp hother with hold | hself
    · exact h.leaving hany other hold
    · exact List.mem_singleton.mp hself ▸ hjoined
  · intro hmem
    rcases List.mem_append.mp hmem with hold | hself
    · obtain ⟨hdetached, hnext⟩ := h.cleared hold
      rw [marksNext_append hmarks]
      exact ⟨fun i => (attached_append hwaits i).trans (hdetached i), hnext⟩
    · exact absurd (List.mem_singleton.mp hself).symm hclearing
  · intro i supervisor hget hattached hnone
    rw [attached_append hwaits] at hattached
    rw [lastIs_append hjoins] at hnone
    exact h.serves i supervisor hget hattached hnone
  · simpa [Settled, lastIs_append hjoins, attached_append hwaits, hleaves] using h.settled

theorem inv_requestStop {index : Nat} (h : Inv s) :
    Inv { s with linking := { s.linking with shared := s.linking.shared.cancel index } } := by
  constructor
  · exact h.alone.stopRequested
  · exact h.established
  · exact h.own
  · exact h.ordered
  · exact h.leaving
  · exact h.cleared
  · intro i supervisor hget hattached hjoins
    obtain ⟨before, hbefore, hsettings, hstage, -, -⟩ := getElem?_cancel hget
    have hserves := h.serves i before hbefore hattached hjoins
    rwa [Serves, ← hsettings, ← hstage] at hserves
  · rcases h.settled with hnow | hjoins | hleaves | ⟨i, supervisor, hget, hattached, hforgets⟩
    · exact .inl hnow
    · exact .inr (.inl hjoins)
    · exact .inr (.inr (.inl hleaves))
    · refine .inr (.inr (.inr ⟨i, _, getElem?_cancel_of hget, hattached, ?_⟩))
      split <;> exact hforgets

theorem inv_step {label : LinkingLabel} (h : Inv s) (hok : s.InTurn label ∧ Succeeds label)
    (hstep : s.step config label = some s') : Inv s' := by
  obtain ⟨hturn, hsucceeds⟩ := hok
  obtain ⟨p', hp', rfl⟩ := Option.map_eq_some_iff.mp hstep
  cases label with
  | spawn task =>
      obtain ⟨hstarts, rfl⟩ := poolStep_spawn hp'
      exact inv_spawn h hstarts
  | advance index choice =>
      obtain ⟨task, host', task', htask, hadvance, rfl⟩ := poolStep_advance hp'
      rw [InTurn, htask, Option.all_some] at hturn
      rw [lastAfter, htask, Option.any_some]
      exact inv_advance h hsucceeds hturn htask (UpstreamTask.step_eq_some hadvance)
  | environment event =>
      obtain ⟨host', hevent, rfl⟩ := poolStep_environment hp'
      obtain ⟨index, choice, ⟨settings, cancelled, before⟩, next, stage, rfl, hget, hadvance, rfl⟩ |
        ⟨rfl, index, rfl⟩ := UpstreamHost.event_eq_some hevent
      · rw [InTurn, hget, Option.all_some] at hturn
        exact inv_supervise h hsucceeds hturn hget hadvance
      · exact inv_requestStop h

theorem inv_init (stored : Option UpstreamSettings) : Inv (init stored) := by
  have hrunning : ∀ (i : Nat) supervisor,
      (init stored).linking.shared.supervisors[i]? = some supervisor →
      (init stored).linking.shared.upstream.running = some i ∧
        Serves (init stored).linking.shared.stored supervisor := by
    intro i supervisor hget
    cases stored with
    | none => cases hget
    | some settings =>
        cases i with
        | zero =>
            cases hget
            exact ⟨rfl, (fun hforgets => by cases hforgets), fun _ _ => rfl⟩
        | succ i => cases hget
  have htasks : (init stored).linking.tasks = [] := by cases stored <;> rfl
  constructor
  · have hidle : OneAtATime ⟨(init stored).linking.shared, []⟩ :=
      oneAtATime_of_idle (by cases stored <;> rfl) fun i supervisor hget =>
        (hrunning i supervisor hget).1
    rwa [← htasks] at hidle
  · cases stored <;> rfl
  · intro i task joined hlast
    cases hlast
  · intro i task htask
    simp [htasks] at htask
  · simp [htasks]
  · simp [htasks]
  · exact fun i supervisor hget _ _ => (hrunning i supervisor hget).2
  · refine .inl ?_
    cases stored with
    | none => rfl
    | some settings =>
        have hurl : (UpstreamLink.new.setConnecting settings.url).url = some settings.url :=
          UpstreamLink.url_setConnecting _ _
        exact hurl

/-- Between the operations the two agree. -/
theorem Inv.agrees (h : Inv s) (hidle : Idle s.linking) : s.linking.shared.Agrees := by
  obtain ⟨hfinished, hforgets⟩ := hidle
  have hdone : ∀ {task : UpstreamTask}, task ∈ s.linking.tasks → task.isFinished = true :=
    fun htask => List.all_eq_true.mp hfinished _ htask
  rcases h.settled with hnow | hjoins | hleaves | ⟨i, supervisor, hget, -, hforgot⟩
  · exact hnow
  · obtain ⟨i, task, -, htask, hjoins⟩ := lastIs_iff.mp hjoins
    have hfinal := hdone (List.mem_of_getElem? htask)
    cases task with
    | finished outcome => cases hjoins
    | _ => cases hfinal
  · obtain ⟨task, htask, hleaver⟩ := List.any_eq_true.mp hleaves
    have hfinal := hdone htask
    cases task with
    | finished outcome => cases hleaver
    | _ => cases hfinal
  · exact absurd hforgot (List.any_eq_false.mp hforgets supervisor (List.mem_of_getElem? hget))

end Runs

end TimedLinking

namespace Linking

/-- As long as no statement fails: between the operations the link has a status exactly for the url
that is stored, and what is stored is always the upstream joined last, unless it was left or its
own credential revoked since. -/
theorem link_status_matches_stored (config : LinkConfig) (stored : Option UpstreamSettings)
    (labels : List LinkingLabel) (p : Linking)
    (hrun : run (step config) (init stored) labels = some p)
    (hsucceeds : ∀ label ∈ labels, Succeeds label)
    (hturn : Meets (TimedLinking.step config) TimedLinking.InTurn (.init stored) labels) :
    p.shared.stored = p.shared.established ∧ (Idle p → ∀ url,
      (∃ status, p.shared.upstream.status = some status ∧ status.url = url) ↔
        ∃ settings, p.shared.stored = some settings ∧ settings.url = url) := by
  have hmap := run_map (TimedLinking.map_linking_step config) (.init stored) labels
  obtain ⟨s, htimed, rfl⟩ := Option.map_eq_some_iff.mp (hmap.trans hrun)
  have hinv : s.Inv :=
    run_invariant (fun _ _ _ h hok hstep => TimedLinking.inv_step h hok hstep)
      (TimedLinking.inv_init stored) (hturn.and_forall hsucceeds) htimed
  refine ⟨hinv.established, fun hidle url => ?_⟩
  have hagree : s.linking.shared.upstream.url =
      s.linking.shared.stored.map UpstreamSettings.url := hinv.agrees hidle
  rw [← Option.map_eq_some_iff, ← Option.map_eq_some_iff, ← hagree]
  rfl

instance (p : Linking) : Decidable (Idle p) := inferInstanceAs (Decidable (_ ∧ _))

instance : DecidablePred Succeeds
  | .spawn _ => .isTrue trivial
  | .advance _ choice => inferInstanceAs (Decidable (choice.fault = none))
  | .environment (.supervise _ choice) => inferInstanceAs (Decidable (choice.fault = false))
  | .environment .requestStop => .isTrue trivial

def joinUpTo (index : Nat) (host : String) (hplain : '/' ∉ host.toList) : List LinkingLabel :=
  [.spawn (.joining (relayUrl host hplain) none),
    .advance index { response := .ok "tdc1.new.secret" }, .advance index {}]

def joinAnother : List LinkingLabel :=
  connectSession 0 "relay-b" ++ joinUpTo 0 "c.example.com" nextHost_plain ++
    [.advance 0 {}, .environment (.supervise 0 { event := .dropped }), .advance 0 {},
      .advance 0 {}, .advance 0 {}, .advance 0 {}]

theorem link_status_matches_stored_joined :
    ∃ p, run (step exampleConfig) (init (some (settingsOf "b.example.com"))) joinAnother = some p ∧
      p.shared.stored = some ⟨"https://c.example.com", "tdc1.new.secret", none⟩ ∧
      ∃ status, p.shared.upstream.status = some status ∧ status.url = "https://c.example.com" := by
  obtain ⟨p, hrun, hidle, hstored⟩ := exists_run (step exampleConfig)
    (init (some (settingsOf "b.example.com"))) joinAnother
    (fun p => Idle p ∧
      p.shared.stored = some ⟨"https://c.example.com", "tdc1.new.secret", none⟩)
    (by decide)
  have hmatches := (link_status_matches_stored exampleConfig (some (settingsOf "b.example.com"))
    joinAnother p hrun (by decide) (by decide)).2 hidle
  exact ⟨p, hrun, hstored, (hmatches "https://c.example.com").mpr ⟨_, hstored, rfl⟩⟩

/-- The upstream before revokes the relay after the settings of the next one are stored. -/
def joinDuringRevocation : List LinkingLabel :=
  joinUpTo 0 "c.example.com" nextHost_plain ++
    [.environment (.supervise 0 {}), .environment (.supervise 0 {}),
      .environment (.supervise 0 { event := .ended (.revoked "revoked") }),
      .environment (.supervise 0 {}), .environment (.supervise 0 {}),
      .environment (.supervise 0 {}), .advance 0 {}, .advance 0 {}, .advance 0 {}, .advance 0 {},
      .advance 0 {}]

/-- The new link is up, and the next start finds nothing stored. -/
theorem revocation_erases_newer_upstream :
    ¬ ∀ (config : LinkConfig) (stored : Option UpstreamSettings) (labels : List LinkingLabel)
      (p : Linking), run (step config) (init stored) labels = some p →
        (∀ label ∈ labels, Succeeds label) → Idle p →
        p.shared.stored = p.shared.established ∧ ∀ url,
          (∃ status, p.shared.upstream.status = some status ∧ status.url = url) ↔
            ∃ settings, p.shared.stored = some settings ∧ settings.url = url := by
  intro h
  obtain ⟨p, hrun, hidle, hstored, hestablished⟩ := exists_run (step exampleConfig)
    (init (some (settingsOf "b.example.com"))) joinDuringRevocation
    (fun p => Idle p ∧ p.shared.stored = none ∧
      p.shared.established = some ⟨"https://c.example.com", "tdc1.new.secret", none⟩)
    (by decide)
  have hsame := (h exampleConfig _ joinDuringRevocation p hrun (by decide) hidle).1
  rw [hstored, hestablished] at hsame
  cases hsame

end Linking

end TermexoRelay
