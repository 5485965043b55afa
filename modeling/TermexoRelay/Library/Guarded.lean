import Mathlib.Data.List.Basic

/-!
# Commands that can be run again

Commands that may fail and that are run in order, from the first one on, whenever a program starts.
If a command that has run has nothing left to do, and no other command gives it something to do,
then it does not matter how often and how far they have been run before.
-/

namespace Guarded

variable {σ κ ε : Type*}

def runAll (exec : κ → σ → Except ε σ) : List κ → σ → σ × Option ε
  | [], s => (s, none)
  | c :: cs, s =>
      match exec c s with
      | .ok s' => runAll exec cs s'
      | .error e => (s, some e)

/-- A command with nothing left to do. -/
def Done (exec : κ → σ → Except ε σ) (c : κ) (s : σ) : Prop := exec c s = .ok s

/-- What has run is done, and stays so. -/
structure Settles (exec : κ → σ → Except ε σ) : Prop where
  settled : ∀ c s s', exec c s = .ok s' → Done exec c s'
  kept : ∀ c d s s', Done exec c s → exec d s = .ok s' → Done exec c s'

variable {exec : κ → σ → Except ε σ} {c : κ} {cs : List κ} {s s' : σ}

@[simp] theorem runAll_nil (s : σ) : runAll exec [] s = (s, none) := rfl

theorem runAll_cons_of_ok (h : exec c s = .ok s') :
    runAll exec (c :: cs) s = runAll exec cs s' := by
  simp [runAll, h]

theorem runAll_cons_of_error {e : ε} (h : exec c s = .error e) :
    runAll exec (c :: cs) s = (s, some e) := by
  simp [runAll, h]

theorem runAll_induction {R : σ → σ → Prop} (hrefl : ∀ s, R s s)
    (htrans : ∀ s t u, R s t → R t u → R s u) (hstep : ∀ c s s', exec c s = .ok s' → R s s')
    (cs : List κ) (s : σ) : R s (runAll exec cs s).1 := by
  induction cs generalizing s with
  | nil => exact hrefl s
  | cons c cs ih =>
      cases hexec : exec c s with
      | error e =>
          rw [runAll_cons_of_error hexec]
          exact hrefl s
      | ok s' =>
          rw [runAll_cons_of_ok hexec]
          exact htrans s s' _ (hstep c s s' hexec) (ih s')

namespace Settles

variable (h : Settles exec)

include h

theorem done_runAll (hdone : Done exec c s) (cs : List κ) : Done exec c (runAll exec cs s).1 := by
  have hkept := runAll_induction (R := fun s s' => Done exec c s → Done exec c s')
    (fun _ hs => hs) (fun _ _ _ hst htu hs => htu (hst hs))
    (fun d s s' hexec hs => h.kept c d s s' hs hexec) cs s
  exact hkept hdone

theorem runAll_take (k : Nat) (cs : List κ) (s : σ) :
    runAll exec cs (runAll exec (cs.take k) s).1 = runAll exec cs s := by
  induction cs generalizing k s with
  | nil => simp
  | cons c cs ih =>
      cases k with
      | zero => simp
      | succ k =>
          rw [List.take_succ_cons]
          cases hexec : exec c s with
          | error e => rw [runAll_cons_of_error hexec]
          | ok s' =>
              have hdone : Done exec c (runAll exec (cs.take k) s').1 :=
                h.done_runAll (h.settled c s s' hexec) _
              rw [runAll_cons_of_ok hexec, runAll_cons_of_ok hdone, ih, runAll_cons_of_ok hexec]

/-- Any number of runs that were cut short make no difference. -/
theorem runAll_interrupted (ks : List Nat) (cs : List κ) (s : σ) :
    runAll exec cs (ks.foldl (fun s k => (runAll exec (cs.take k) s).1) s) = runAll exec cs s := by
  induction ks generalizing s with
  | nil => rfl
  | cons k ks ih => rw [List.foldl_cons, ih, h.runAll_take]

end Settles

/-- Which commands fail is decided one after the other. -/
theorem runAll_snd_eq_none_iff : (runAll exec (c :: cs) s).2 = none ↔
    ∃ s', exec c s = .ok s' ∧ (runAll exec cs s').2 = none := by
  cases hexec : exec c s with
  | error e => simp [runAll_cons_of_error hexec]
  | ok s' => simp [runAll_cons_of_ok hexec]

end Guarded
