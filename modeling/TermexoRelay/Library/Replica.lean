import Mathlib.Logic.Function.Basic

/-!
# Replicas fed by a change log

A change names a key and the value it leaves there (`none` removes the key). A replica replays
changes one by one. The rules below are about logs that are delivered late: a change may overtake
the ones before it as long as none of those is about the same key.
-/

namespace Replica

variable {χ κ ν : Type*} [DecidableEq κ] (key : χ → κ) (value : χ → Option ν)

def apply (replica : κ → Option ν) (change : χ) : κ → Option ν :=
  Function.update replica (key change) (value change)

/-- Apply the changes in order. -/
def replay (replica : κ → Option ν) (changes : List χ) : κ → Option ν :=
  changes.foldl (apply key value) replica

/-- Every change is already in the map: replaying them all once more does nothing. -/
def Settled (map : κ → Option ν) (changes : List χ) : Prop := replay key value map changes = map

variable {key value} {replica replica' map map' : κ → Option ν}
  {changes changes' before after : List χ} {change : χ} {k : κ}

@[simp] theorem replay_nil : replay key value replica [] = replica := rfl

@[simp] theorem replay_cons : replay key value replica (change :: changes) =
    replay key value (apply key value replica change) changes := rfl

theorem replay_append : replay key value replica (changes ++ changes') =
    replay key value (replay key value replica changes) changes' :=
  List.foldl_append

theorem apply_of_ne (h : k ≠ key change) : apply key value replica change k = replica k :=
  Function.update_of_ne h ..

@[simp] theorem apply_self : apply key value replica change (key change) = value change :=
  Function.update_self ..

theorem replay_of_not_mem (h : ∀ c ∈ changes, key c ≠ k) :
    replay key value replica changes k = replica k := by
  induction changes generalizing replica with
  | nil => rfl
  | cons c cs ih =>
      rw [replay_cons, ih fun c' hc' => h c' (List.mem_cons_of_mem _ hc')]
      exact apply_of_ne (Ne.symm (h c List.mem_cons_self))

theorem replay_congr (h : replica k = replica' k) :
    replay key value replica changes k = replay key value replica' changes k := by
  induction changes generalizing replica replica' with
  | nil => exact h
  | cons c cs ih =>
      refine ih ?_
      by_cases hk : k = key c
      · subst hk
        rw [apply_self, apply_self]
      · rw [apply_of_ne hk, apply_of_ne hk, h]

theorem replay_of_mem (h : ∃ c ∈ changes, key c = k) :
    replay key value replica changes k = replay key value replica' changes k := by
  induction changes generalizing replica replica' with
  | nil =>
      obtain ⟨c, hc, _⟩ := h
      exact absurd hc List.not_mem_nil
  | cons c cs ih =>
      by_cases hk : key c = k
      · subst hk
        rw [replay_cons, replay_cons]
        exact replay_congr (by rw [apply_self, apply_self])
      · obtain ⟨c', hc', hkey⟩ := h
        rcases List.mem_cons.mp hc' with rfl | hc'
        · exact absurd hkey hk
        · exact ih ⟨c', hc', hkey⟩

theorem apply_comm {c c' : χ} (h : key c ≠ key c') :
    apply key value (apply key value replica c) c' =
      apply key value (apply key value replica c') c :=
  Function.update_comm h _ _ _

theorem replay_middle (h : ∀ c ∈ before, key c ≠ key change) :
    replay key value replica (before ++ change :: after) =
      replay key value (apply key value replica change) (before ++ after) := by
  induction before generalizing replica with
  | nil => rfl
  | cons c cs ih =>
      rw [List.cons_append, List.cons_append, replay_cons, replay_cons,
        ih fun c' hc' => h c' (List.mem_cons_of_mem _ hc'), apply_comm (h c List.mem_cons_self)]

theorem replay_removals (h : ∀ c ∈ changes, value c = none) :
    replay key value replica changes k =
      if ∃ c ∈ changes, key c = k then none else replica k := by
  induction changes generalizing replica with
  | nil => simp
  | cons c cs ih =>
      rw [replay_cons, ih fun c' hc' => h c' (List.mem_cons_of_mem _ hc')]
      by_cases hk : key c = k
      · subst hk
        simp [h c List.mem_cons_self]
      · simp [hk, apply_of_ne (Ne.symm hk)]

theorem Settled.append (h : Settled key value map changes)
    (hupdate : replay key value map changes' = map') :
    Settled key value map' (changes ++ changes') := by
  rw [Settled, replay_append]
  funext k
  by_cases hk : ∃ c ∈ changes', key c = k
  · rw [replay_of_mem hk, hupdate]
  · simp only [not_exists, not_and] at hk
    have hkeep : map' k = map k := by rw [← hupdate, replay_of_not_mem hk]
    rw [replay_of_not_mem hk, replay_congr hkeep, h, hkeep]

theorem Settled.remove (h : Settled key value map (before ++ change :: after))
    (hbefore : ∀ c ∈ before, key c ≠ key change) : Settled key value map (before ++ after) := by
  rw [Settled, replay_middle hbefore] at h
  rw [Settled]
  funext k
  by_cases hk : k = key change
  · subst hk
    by_cases hlater : ∃ c ∈ before ++ after, key c = key change
    · rw [replay_of_mem hlater, h]
    · simp only [not_exists, not_and] at hlater
      exact replay_of_not_mem hlater
  · rw [← replay_congr (apply_of_ne hk), h]

theorem Settled.of_append (h : Settled key value map (before ++ after)) :
    Settled key value map after := by
  rw [Settled, replay_append] at h
  rw [Settled]
  funext k
  by_cases hk : ∃ c ∈ after, key c = k
  · rw [replay_of_mem hk, h]
  · simp only [not_exists, not_and] at hk
    exact replay_of_not_mem hk

/-- A change that overtakes none about its key leaves the outcome of a log as it is. -/
theorem replay_overtake (hbefore : ∀ c ∈ before, key c ≠ key change) :
    replay key value replica (changes ++ change :: (before ++ after)) =
      replay key value replica (changes ++ (before ++ change :: after)) := by
  rw [replay_append, replay_append, replay_middle hbefore, replay_cons]

end Replica
