import TermexoRelay.Registry.Publication

/-!
# The numbers of updates

Tunnels and announcements are numbered by one counter, and the number is drawn before the lock is
taken. Whatever runs in between, no two operations that wait for the lock hold the same number, and
none holds the number of an entry in the table.
-/

namespace TermexoRelay

open Transition

/-- Every entry has the kind of route its origin says, and a number the counter has passed. -/
structure Registry.Sound (registry : Registry) : Prop where
  formed : registry.state.WellFormed
  bounded : ∀ deviceId entry, registry.state.entries.lookup deviceId = some entry →
    entry.sequence < registry.sequence

/-- The number a job has drawn and not used yet. -/
def Job.holds : Job → Option Nat
  | .connecting _ serial => some serial
  | .announcing _ _ _ _ sequence => some sequence
  | _ => none

/-- Every number is drawn once: those that wait for the lock are passed by the counter, differ from
each other and stand in no entry. -/
structure NumbersDistinct (registry : Registry) (tasks : List Job) : Prop where
  sound : registry.Sound
  drawn : ∀ job ∈ tasks, ∀ sequence, job.holds = some sequence → sequence < registry.sequence
  distinct : DistinctKeys Job.holds tasks
  unused : ∀ job ∈ tasks, ∀ deviceId entry, registry.state.entries.lookup deviceId = some entry →
    job.holds ≠ some entry.sequence

section Actions

variable {relayId : String} {maxHops : Nat} {registry registry' : Registry} {choice : JobChoice}
  {job job' : Job} {changes : List RegistryChange}

theorem holds_starts (h : job.starts = true) : job.holds = none := by
  cases job with
  | connecting presence serial => cases h
  | announcing linkDeviceId link device batch sequence => cases h
  | _ => rfl

theorem Job.holds_step {sequence : Nat}
    (h : job.step relayId maxHops registry choice = some (registry', job', changes))
    (hholds : job'.holds = some sequence) :
    sequence = registry.sequence ∧ registry'.sequence = registry.sequence + 1 := by
  have hnone : ∀ linkDeviceId link deviceId batch accepted,
      (resume linkDeviceId link deviceId batch accepted).holds = none := fun _ link =>
    resume_property (P := fun job => job.holds = none) rfl (fun _ _ => rfl) link fun _ _ => rfl
  cases step_cases h with
  | numbered =>
      cases hholds
      exact ⟨rfl, rfl⟩
  | routable hroutable =>
      cases hholds
      exact ⟨rfl, rfl⟩
  | connected => cases hholds
  | disconnected hperm hlocked => cases hholds
  | displaced hlocked => cases hholds
  | unroutable hroutable | installed hlocked | outrun hlocked =>
      rw [hnone] at hholds
      cases hholds
  | withdrawn hlocked | absent hlocked =>
      rw [sweep_property (P := fun job => job.holds = none) rfl fun _ _ => rfl] at hholds
      cases hholds
  | listed hperm =>
      rw [proceed_property (P := fun job => job.holds = none) rfl (fun _ _ => rfl) _
        fun _ _ => rfl] at hholds
      cases hholds

theorem Job.lookup_step {deviceId : String} {entry : Entry}
    (h : job.step relayId maxHops registry choice = some (registry', job', changes))
    (hentry : registry'.state.entries.lookup deviceId = some entry) :
    registry.state.entries.lookup deviceId = some entry ∨ job.holds = some entry.sequence := by
  cases step_cases h with
  | connected =>
      simp only [RegistryState.connectLocked_entries] at hentry
      rcases Table.lookup_insert_cases hentry with ⟨-, rfl⟩ | ⟨-, hold⟩
      · exact .inr rfl
      · exact .inl hold
  | disconnected hperm hlocked =>
      exact .inl (RegistryState.lookup_of_disconnectLocked hlocked hentry)
  | installed hlocked =>
      obtain ⟨-, hentries, -, -⟩ := RegistryState.announceLocked_eq_some hlocked
      rw [hentries] at hentry
      rcases Table.lookup_insert_cases hentry with ⟨-, rfl⟩ | ⟨-, hold⟩
      · exact .inr rfl
      · exact .inl hold
  | withdrawn hlocked =>
      exact .inl (RegistryState.lookup_of_withdrawLocked hlocked hentry)
  | _ => exact .inl hentry

theorem Registry.Sound.step (hregistry : registry.Sound)
    (hholds : ∀ sequence, job.holds = some sequence → sequence < registry.sequence)
    (h : job.step relayId maxHops registry choice = some (registry', job', changes)) :
    registry'.Sound := by
  refine ⟨(Job.step_tableUpdate h).wellFormed hregistry.formed, fun id entry hentry => ?_⟩
  refine lt_of_lt_of_le ?_ (Job.step_sequence_le h)
  rcases Job.lookup_step h hentry with hold | hused
  · exact hregistry.bounded id entry hold
  · exact hholds entry.sequence hused

theorem NumbersDistinct.append {tasks : List Job} (h : NumbersDistinct registry tasks)
    (hstarts : job.starts = true) : NumbersDistinct registry (tasks ++ [job]) := by
  have hnone : job.holds = none := holds_starts hstarts
  have hall : ∀ {P : Job → Prop}, (∀ other ∈ tasks, P other) → P job →
      ∀ other ∈ tasks ++ [job], P other := by
    intro P hP hjob other hother
    rcases List.mem_append.mp hother with hother | hother
    · exact hP other hother
    · rw [List.mem_singleton.mp hother]
      exact hjob
  refine ⟨h.sound, hall h.drawn fun sequence hholds => ?_, h.distinct.append hnone,
    hall h.unused fun id entry _ hholds => ?_⟩
  · rw [hnone] at hholds
    cases hholds
  · rw [hnone] at hholds
    cases hholds

theorem NumbersDistinct.set {tasks : List Job} {index : Nat} (h : NumbersDistinct registry tasks)
    (htask : tasks[index]? = some job)
    (hjob : job.step relayId maxHops registry choice = some (registry', job', changes)) :
    NumbersDistinct registry' (tasks.set index job') := by
  have hmem : job ∈ tasks := List.mem_of_getElem? htask
  have hfresh : ∀ {sequence}, job'.holds = some sequence → ∀ other ∈ tasks,
      other.holds ≠ some sequence := by
    intro sequence hholds other hother hsame
    obtain ⟨rfl, -⟩ := Job.holds_step hjob hholds
    exact absurd (h.drawn other hother _ hsame) (lt_irrefl _)
  refine ⟨h.sound.step (h.drawn job hmem) hjob, ?_, ?_, ?_⟩
  · refine forall_mem_set (fun other hother sequence hholds => ?_) fun sequence hholds => ?_
    · exact lt_of_lt_of_le (h.drawn other hother sequence hholds) (Job.step_sequence_le hjob)
    · obtain ⟨rfl, hnext⟩ := Job.holds_step hjob hholds
      exact hnext ▸ Nat.lt_succ_self _
  · exact h.distinct.set htask fun k hk => .inr fun i other hi =>
      hfresh hk other (List.mem_of_getElem? hi)
  · intro other hother id entry hentry hholds
    rcases Job.lookup_step hjob hentry with hold | hused
    · rcases mem_set_cases hother with rfl | ⟨i, -, hi⟩
      · obtain ⟨hsequence, -⟩ := Job.holds_step hjob hholds
        exact absurd (h.sound.bounded id entry hold) (hsequence ▸ lt_irrefl _)
      · exact h.unused other (List.mem_of_getElem? hi) id entry hold hholds
    · rcases mem_set_cases hother with rfl | ⟨i, hne, hi⟩
      · exact hfresh hholds job hmem hused
      · exact hne (h.distinct i index other job _ hi htask hholds hused)

end Actions

section Publication

variable {relayId : String} {maxHops : Nat} {p p' : PublicationState} {label : PublicationLabel}

theorem numbersDistinct_new : NumbersDistinct .new [] where
  sound := ⟨RegistryState.wellFormed_empty, fun _ _ hentry => by cases hentry⟩
  drawn := fun job hjob => absurd hjob List.not_mem_nil
  distinct := fun i j t t' k hi => by cases hi
  unused := fun job hjob => absurd hjob List.not_mem_nil

theorem numbersDistinct_step (h : NumbersDistinct p.shared.registry p.tasks)
    (hstep : Publication.step relayId maxHops p label = some p') :
    NumbersDistinct p'.shared.registry p'.tasks := by
  cases label with
  | environment event => cases event
  | spawn job =>
      obtain ⟨hstarts, rfl⟩ := poolStep_spawn hstep
      exact h.append hstarts
  | advance index choice =>
      obtain ⟨job, shared, job', htask, hadvance, rfl⟩ := poolStep_advance hstep
      simp only [Publication.advance] at hadvance
      split at hadvance
      · cases hadvance
        obtain ⟨hindex, rfl⟩ := List.getElem?_eq_some_iff.mp htask
        rwa [List.set_getElem_self hindex]
      · obtain ⟨⟨registry, moved, changes⟩, hjob, heq⟩ := Option.map_eq_some_iff.mp hadvance
        cases heq
        exact h.set htask hjob

/-- The numbers are distinct whatever operations run and however their actions interleave. -/
theorem numbersDistinct_of_reachable
    (h : Reachable (Publication.step relayId maxHops) Publication.init p) :
    NumbersDistinct p.shared.registry p.tasks :=
  h.invariant (P := fun p : PublicationState => NumbersDistinct p.shared.registry p.tasks)
    numbersDistinct_new fun _ _ _ hdistinct hstep => numbersDistinct_step hdistinct hstep

theorem sound_of_reachable (h : Reachable (Publication.step relayId maxHops) Publication.init p) :
    p.shared.registry.Sound :=
  (numbersDistinct_of_reachable h).sound

end Publication

end TermexoRelay
