import TermexoRelay.Library.Run

/-!
# Tasks interleaved over a shared state

A pool is a shared state and the tasks started so far. A step starts a task, lets one task
take one atomic action on the shared state, or lets the environment act on the shared state
alone. Finished tasks stay in the list, so an index names a task for the whole run.
-/

namespace Transition

/-- A shared state and the tasks that act on it. -/
structure Pool (σ τ : Type*) where
  shared : σ
  tasks : List τ
deriving DecidableEq

/-- One step of a pool; `κ` and `ε` are what the environment chooses. -/
inductive PoolLabel (τ κ ε : Type*) where
  | spawn (task : τ)
  | advance (index : Nat) (choice : κ)
  | environment (event : ε)

section Step

variable {σ τ κ ε : Type*}

/-- The step function of a pool, from what a task may start as (`starts`), one action of a
task, which knows its own index, and one action of the environment. -/
def poolStep (starts : σ → τ → Bool) (advance : Nat → σ → τ → κ → Option (σ × τ))
    (environment : σ → ε → Option σ) (p : Pool σ τ) : PoolLabel τ κ ε → Option (Pool σ τ)
  | .spawn task => if starts p.shared task then some ⟨p.shared, p.tasks ++ [task]⟩ else none
  | .advance index choice =>
      match p.tasks[index]? with
      | none => none
      | some task =>
          match advance index p.shared task choice with
          | none => none
          | some (shared, task') => some ⟨shared, p.tasks.set index task'⟩
  | .environment event =>
      match environment p.shared event with
      | none => none
      | some shared => some { p with shared }

variable {starts : σ → τ → Bool} {advance : Nat → σ → τ → κ → Option (σ × τ)}
  {environment : σ → ε → Option σ} {p p' : Pool σ τ}

theorem poolStep_spawn {task : τ}
    (h : poolStep starts advance environment p (.spawn task) = some p') :
    starts p.shared task = true ∧ p' = ⟨p.shared, p.tasks ++ [task]⟩ := by
  simp only [poolStep] at h
  split at h
  · next ha => exact ⟨ha, (Option.some.inj h).symm⟩
  · cases h

theorem poolStep_advance {index : Nat} {choice : κ}
    (h : poolStep starts advance environment p (.advance index choice) = some p') :
    ∃ task shared task', p.tasks[index]? = some task ∧
      advance index p.shared task choice = some (shared, task') ∧
      p' = ⟨shared, p.tasks.set index task'⟩ := by
  simp only [poolStep] at h
  cases ht : p.tasks[index]? with
  | none => simp [ht] at h
  | some task =>
      cases ha : advance index p.shared task choice with
      | none => simp [ht, ha] at h
      | some next =>
          simp only [ht, ha, Option.some.injEq] at h
          exact ⟨task, next.1, next.2, rfl, ha, h.symm⟩

theorem poolStep_environment {event : ε}
    (h : poolStep starts advance environment p (.environment event) = some p') :
    ∃ shared, environment p.shared event = some shared ∧ p' = { p with shared } := by
  simp only [poolStep] at h
  cases he : environment p.shared event with
  | none => simp [he] at h
  | some shared =>
      simp only [he, Option.some.injEq] at h
      exact ⟨shared, rfl, h.symm⟩

end Step

section Tasks

variable {τ : Type*} {tasks : List τ} {index : Nat} {task task' : τ}

theorem mem_set_cases {other : τ} (h : other ∈ tasks.set index task') :
    other = task' ∨ ∃ i, i ≠ index ∧ tasks[i]? = some other := by
  obtain ⟨i, hi⟩ := List.mem_iff_getElem?.mp h
  by_cases hne : i = index
  · subst hne
    rw [List.getElem?_set_self'] at hi
    cases hb : tasks[i]? with
    | none => simp [hb] at hi
    | some _ =>
        left
        simp only [hb, Option.map_eq_map, Option.map_some, Function.const_apply,
          Option.some.injEq] at hi
        exact hi.symm
  · right
    rw [List.getElem?_set_ne (Ne.symm hne)] at hi
    exact ⟨i, hne, hi⟩

/-- A property of all tasks survives a move when the moved task still has it. -/
theorem forall_mem_set {P : τ → Prop} (h : ∀ t ∈ tasks, P t) (hmoved : P task') :
    ∀ t ∈ tasks.set index task', P t := by
  intro t ht
  rcases mem_set_cases ht with rfl | ⟨i, _, hi⟩
  · exact hmoved
  · exact h t (List.mem_of_getElem? hi)

theorem exists_mem_set {P : τ → Prop} (task' : τ) (htask : tasks[index]? = some task)
    (h : ∃ t ∈ tasks, P t) (hmoved : P task → P task') :
    ∃ t ∈ tasks.set index task', P t := by
  obtain ⟨t, ht, hp⟩ := h
  obtain ⟨i, hi⟩ := List.mem_iff_getElem?.mp ht
  by_cases hne : i = index
  · subst hne
    rw [htask, Option.some.injEq] at hi
    subst hi
    exact ⟨task', List.mem_set (List.getElem?_eq_some_iff.mp htask).1 _, hmoved hp⟩
  · refine ⟨t, List.mem_iff_getElem?.mpr ⟨i, ?_⟩, hp⟩
    rw [List.getElem?_set_ne (Ne.symm hne)]
    exact hi

theorem mem_set_self (htask : tasks[index]? = some task) : task' ∈ tasks.set index task' :=
  List.mem_set (List.getElem?_eq_some_iff.mp htask).1 _

theorem mem_set_of_mem_eraseIdx {other : τ} (task' : τ) (h : other ∈ tasks.eraseIdx index) :
    other ∈ tasks.set index task' := by
  obtain ⟨i, hi, hget⟩ := List.mem_eraseIdx_iff_getElem?.mp h
  refine List.mem_iff_getElem?.mpr ⟨i, ?_⟩
  rw [List.getElem?_set_ne (Ne.symm hi)]
  exact hget

theorem getElem?_set_cases {i : Nat} {other : τ} (h : (tasks.set index task')[i]? = some other) :
    (i = index ∧ other = task') ∨ (i ≠ index ∧ tasks[i]? = some other) := by
  by_cases hne : i = index
  · subst hne
    left
    rw [List.getElem?_set_self'] at h
    cases hb : tasks[i]? with
    | none => simp [hb] at h
    | some _ =>
        simp only [hb, Option.map_eq_map, Option.map_some, Function.const_apply,
          Option.some.injEq] at h
        exact ⟨rfl, h.symm⟩
  · right
    rw [List.getElem?_set_ne (Ne.symm hne)] at h
    exact ⟨hne, h⟩

theorem getElem?_append_cases {i : Nat} {other : τ} (h : (tasks ++ [task])[i]? = some other) :
    tasks[i]? = some other ∨ other = task := by
  rcases Nat.lt_or_ge i tasks.length with hlt | hge
  · exact .inl (by rwa [List.getElem?_append_left hlt] at h)
  · rw [List.getElem?_append_right hge, List.getElem?_singleton] at h
    split at h
    · exact .inr (Option.some.inj h).symm
    · cases h

theorem getElem?_append_of_some {i : Nat} {other : τ} (h : tasks[i]? = some other) :
    (tasks ++ [task])[i]? = some other := by
  rw [List.getElem?_append_left (List.getElem?_eq_some_iff.mp h).1]
  exact h

theorem countP_set_add (p : τ → Bool) (task' : τ) (htask : tasks[index]? = some task) :
    (tasks.set index task').countP p + (p task).toNat = tasks.countP p + (p task').toNat := by
  obtain ⟨hlt, hget⟩ := List.getElem?_eq_some_iff.mp htask
  have htoNat : ∀ t, (p t).toNat = if p t then 1 else 0 := by
    intro t
    cases p t <;> rfl
  have hpos : (p task).toNat ≤ tasks.countP p := by
    cases hp : p task with
    | false => exact Nat.zero_le _
    | true => exact List.countP_pos_iff.mpr ⟨task, List.mem_of_getElem? htask, hp⟩
  rw [List.countP_set hlt, hget, ← htoNat, ← htoNat]
  omega

/-- No two tasks have the same key; a task may have none. -/
def DistinctKeys {κ : Type*} (key : τ → Option κ) (tasks : List τ) : Prop :=
  ∀ (i j : Nat) t t' k, tasks[i]? = some t → tasks[j]? = some t' →
    key t = some k → key t' = some k → i = j

section DistinctKeys

variable {κ : Type*} {key : τ → Option κ}

theorem DistinctKeys.eq_of_mem {other : τ} {k : κ} (h : DistinctKeys key tasks)
    (htask : task ∈ tasks) (hother : other ∈ tasks) (hkey : key task = some k)
    (hkey' : key other = some k) : task = other := by
  obtain ⟨i, hi⟩ := List.mem_iff_getElem?.mp htask
  obtain ⟨j, hj⟩ := List.mem_iff_getElem?.mp hother
  obtain rfl : i = j := h i j task other k hi hj hkey hkey'
  exact Option.some.inj (hi.symm.trans hj)

theorem DistinctKeys.set (h : DistinctKeys key tasks) (htask : tasks[index]? = some task)
    (hkey : ∀ k, key task' = some k →
      key task = some k ∨ ∀ (i : Nat) t, tasks[i]? = some t → key t ≠ some k) :
    DistinctKeys key (tasks.set index task') := by
  intro i j t t' k hi hj ht ht'
  rcases getElem?_set_cases hi with ⟨hi', rfl⟩ | ⟨-, hold⟩
  · rcases getElem?_set_cases hj with ⟨hj', rfl⟩ | ⟨-, hold'⟩
    · exact hi'.trans hj'.symm
    · rcases hkey k ht with hsame | hfresh
      · exact hi'.trans (h index j task t' k htask hold' hsame ht')
      · exact absurd ht' (hfresh j t' hold')
  · rcases getElem?_set_cases hj with ⟨hj', rfl⟩ | ⟨-, hold'⟩
    · rcases hkey k ht' with hsame | hfresh
      · exact (h i index t task k hold htask ht hsame).trans hj'.symm
      · exact absurd ht (hfresh i t hold)
    · exact h i j t t' k hold hold' ht ht'

theorem DistinctKeys.append (h : DistinctKeys key tasks) (hkey : key task = none) :
    DistinctKeys key (tasks ++ [task]) := by
  intro i j t t' k hi hj ht ht'
  rcases getElem?_append_cases hi with hi | rfl
  · rcases getElem?_append_cases hj with hj | rfl
    · exact h i j t t' k hi hj ht ht'
    · rw [hkey] at ht'
      cases ht'
  · rw [hkey] at ht
    cases ht

end DistinctKeys

theorem any_set_of_eq (p : τ → Bool) (task' : τ) (htask : tasks[index]? = some task)
    (h : p task' = p task) : (tasks.set index task').any p = tasks.any p := by
  rw [Bool.eq_iff_iff, List.any_eq_true, List.any_eq_true]
  constructor
  · intro ⟨t, ht, hp⟩
    rcases mem_set_cases ht with rfl | ⟨i, _, hi⟩
    · exact ⟨task, List.mem_of_getElem? htask, h ▸ hp⟩
    · exact ⟨t, List.mem_of_getElem? hi, hp⟩
  · intro hany
    exact exists_mem_set task' htask hany fun hp => h.trans hp

/-- A lock is taken exactly while a task holds it, and by one task at a time. -/
structure Mutex (holds : τ → Bool) (locked : Bool) (tasks : List τ) : Prop where
  unique : ∀ (i j : Nat) t t', tasks[i]? = some t → tasks[j]? = some t' →
    holds t = true → holds t' = true → i = j
  locked : locked = tasks.any holds

section Mutex

variable {holds : τ → Bool} {locked : Bool}

theorem Mutex.locked_of_holds (h : Mutex holds locked tasks) (htask : tasks[index]? = some task)
    (hholds : holds task = true) : locked = true := by
  rw [h.locked]
  exact List.any_eq_true.mpr ⟨task, List.mem_of_getElem? htask, hholds⟩

theorem Mutex.not_holds (h : Mutex holds false tasks) {other : τ} (hother : other ∈ tasks) :
    holds other = false := by
  have hnone := List.any_eq_false.mp h.locked.symm other hother
  simpa using hnone

theorem Mutex.append (h : Mutex holds locked tasks) (hstarts : holds task = false) :
    Mutex holds locked (tasks ++ [task]) := by
  constructor
  · intro i j t t' hi hj ht ht'
    rcases getElem?_append_cases hi with hi | rfl
    · rcases getElem?_append_cases hj with hj | rfl
      · exact h.unique i j t t' hi hj ht ht'
      · rw [hstarts] at ht'
        cases ht'
    · rw [hstarts] at ht
      cases ht
  · simp [h.locked, hstarts]

theorem Mutex.keep (h : Mutex holds locked tasks) (htask : tasks[index]? = some task)
    (hsame : holds task' = holds task) : Mutex holds locked (tasks.set index task') := by
  constructor
  · intro i j t t' hi hj ht ht'
    have hold : ∀ {i : Nat} {t : τ}, (tasks.set index task')[i]? = some t → holds t = true →
        ∃ t, tasks[i]? = some t ∧ holds t = true := by
      intro i t hi ht
      rcases getElem?_set_cases hi with ⟨rfl, rfl⟩ | ⟨-, hi⟩
      · exact ⟨task, htask, hsame ▸ ht⟩
      · exact ⟨t, hi, ht⟩
    obtain ⟨u, hu, hholds⟩ := hold hi ht
    obtain ⟨u', hu', hholds'⟩ := hold hj ht'
    exact h.unique i j u u' hu hu' hholds hholds'
  · rw [any_set_of_eq holds task' htask hsame]
    exact h.locked

theorem Mutex.take (h : Mutex holds false tasks) (htask : tasks[index]? = some task)
    (htakes : holds task' = true) : Mutex holds true (tasks.set index task') := by
  constructor
  · intro i j t t' hi hj ht ht'
    have hself : ∀ {i : Nat} {t : τ}, (tasks.set index task')[i]? = some t → holds t = true →
        i = index := by
      intro i t hi ht
      rcases getElem?_set_cases hi with ⟨hi, -⟩ | ⟨-, hi⟩
      · exact hi
      · rw [h.not_holds (List.mem_of_getElem? hi)] at ht
        cases ht
    exact (hself hi ht).trans (hself hj ht').symm
  · exact (List.any_eq_true.mpr ⟨task', mem_set_self htask, htakes⟩).symm

theorem Mutex.release (h : Mutex holds locked tasks) (htask : tasks[index]? = some task)
    (hholds : holds task = true) (hleaves : holds task' = false) :
    Mutex holds false (tasks.set index task') := by
  have hnone : ∀ {i : Nat} {t : τ}, (tasks.set index task')[i]? = some t → holds t = false := by
    intro i t hi
    rcases getElem?_set_cases hi with ⟨-, rfl⟩ | ⟨hne, hi⟩
    · exact hleaves
    · rw [← Bool.not_eq_true]
      intro ht
      exact hne (h.unique i index t task hi htask ht hholds)
  constructor
  · intro i j t t' hi _ ht _
    rw [hnone hi] at ht
    cases ht
  · symm
    rw [List.any_eq_false]
    intro t ht
    obtain ⟨i, hi⟩ := List.mem_iff_getElem?.mp ht
    simp [hnone hi]

end Mutex

end Tasks

end Transition
