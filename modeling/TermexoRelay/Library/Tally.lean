import Mathlib.Data.List.Count

/-!
# Marks that count for a while

Marks are put against keys as time goes on, and all marks of one key may be wiped. Of a history,
newest note first, only the marks made since the last wipe and not yet outside a window count.
-/

namespace Tally

/-- One more mark against a key, or none left. -/
inductive Note (κ : Type*) where
  | mark (key : κ) (time : Nat)
  | wipe (key : κ)
deriving DecidableEq, Repr

variable {κ : Type*} {window now : Nat} {key key' : κ} {notes : List (Note κ)}

def MadeBy (time : Nat) (notes : List (Note κ)) : Prop :=
  ∀ key made, .mark key made ∈ notes → made ≤ time

theorem MadeBy.mono {time later : Nat} (h : MadeBy time notes) (hle : time ≤ later) :
    MadeBy later notes :=
  fun key made hmade => Nat.le_trans (h key made hmade) hle

theorem madeBy_mark {time : Nat} (h : MadeBy time notes) :
    MadeBy time (.mark key time :: notes) := by
  intro other made hmade
  rcases List.mem_cons.mp hmade with heq | hmade
  · cases heq
    exact Nat.le_refl _
  · exact h other made hmade

theorem madeBy_wipe {time : Nat} (h : MadeBy time notes) : MadeBy time (.wipe key :: notes) := by
  intro other made hmade
  rcases List.mem_cons.mp hmade with heq | hmade
  · cases heq
  · exact h other made hmade

variable [DecidableEq κ]

/-- The marks against the key that still count at the given time. -/
def recent (window : Nat) (key : κ) (now : Nat) : List (Note κ) → Nat
  | [] => 0
  | .mark key' time :: notes =>
      recent window key now notes + if key' = key ∧ now < time + window then 1 else 0
  | .wipe key' :: notes => if key' = key then 0 else recent window key now notes

@[simp] theorem recent_wipe_self : recent window key now (.wipe key :: notes) = 0 :=
  if_pos rfl

theorem recent_wipe_of_ne (h : key' ≠ key) :
    recent window key now (.wipe key' :: notes) = recent window key now notes :=
  if_neg h

theorem recent_mark_of_ne (h : key' ≠ key) (time : Nat) :
    recent window key now (.mark key' time :: notes) = recent window key now notes := by
  simp [recent, h]

theorem recent_mark_self (time : Nat) :
    recent window key now (.mark key time :: notes) =
      recent window key now notes + if now < time + window then 1 else 0 := by
  simp [recent]

theorem recent_mark_le (time : Nat) :
    recent window key now (.mark key time :: notes) ≤ recent window key now notes + 1 := by
  rw [recent_mark_self]
  split <;> omega

theorem recent_antitone {later : Nat} (h : now ≤ later) :
    recent window key later notes ≤ recent window key now notes := by
  induction notes with
  | nil => exact Nat.le_refl _
  | cons note notes ih =>
      cases note with
      | wipe key' =>
          simp only [recent]
          split
          · exact Nat.le_refl _
          · exact ih
      | mark key' time =>
          simp only [recent]
          refine Nat.add_le_add ih ?_
          split
          · next hcounts =>
              have hearlier : now < time + window := Nat.lt_of_le_of_lt h hcounts.2
              exact Nat.le_of_eq (if_pos ⟨hcounts.1, hearlier⟩).symm
          · exact Nat.zero_le _

theorem recent_eq_zero {time : Nat} (h : MadeBy time notes) (hnow : time + window ≤ now) :
    recent window key now notes = 0 := by
  induction notes with
  | nil => rfl
  | cons note notes ih =>
      have hrest : recent window key now notes = 0 :=
        ih fun key made hmade => h key made (List.mem_cons_of_mem _ hmade)
      cases note with
      | wipe key' =>
          simp only [recent, hrest, ite_self]
      | mark key' made =>
          have hmade : made ≤ time := h key' made List.mem_cons_self
          simp only [recent, hrest, Nat.zero_add, ite_eq_right_iff]
          rintro ⟨-, hcounts⟩
          omega

theorem recent_replicate (hwindow : 0 < window) (count : Nat) :
    recent window key now (List.replicate count (.mark key now) ++ notes) =
      recent window key now notes + count := by
  induction count with
  | zero => rfl
  | succ count ih =>
      rw [List.replicate_succ, List.cons_append, recent_mark_self, ih, if_pos (by omega)]
      omega

end Tally
