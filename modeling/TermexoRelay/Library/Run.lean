import Mathlib.Logic.Basic
import Mathlib.Data.List.Basic

/-!
# Runs of a labelled step function

A label resolves every choice the environment has, so a step is a partial function of the
state. A run takes a list of labels in order. The rules below turn facts about one step into
facts about every run, with or without a condition on the steps taken.
-/

namespace Transition

variable {σ ℓ : Type*}

/-- Take the labels in order; `none` as soon as one of them is not enabled. -/
def run (step : σ → ℓ → Option σ) : σ → List ℓ → Option σ
  | s, [] => some s
  | s, l :: ls => (step s l).bind fun s' => run step s' ls

/-- The states some run from `init` ends in. -/
def Reachable (step : σ → ℓ → Option σ) (init s : σ) : Prop :=
  ∃ ls, run step init ls = some s

/-- Every step of the run meets the condition in the state it is taken in. -/
def Meets (step : σ → ℓ → Option σ) (ok : σ → ℓ → Prop) : σ → List ℓ → Prop
  | _, [] => True
  | s, l :: ls => ok s l ∧ match step s l with
      | some s' => Meets step ok s' ls
      | none => True

instance Meets.decidable (step : σ → ℓ → Option σ) (ok : σ → ℓ → Prop)
    [∀ s l, Decidable (ok s l)] : ∀ s ls, Decidable (Meets step ok s ls)
  | _, [] => .isTrue trivial
  | s, l :: ls =>
      have : Decidable (match step s l with
          | some s' => Meets step ok s' ls
          | none => True) :=
        match step s l with
        | some s' => Meets.decidable step ok s' ls
        | none => .isTrue trivial
      inferInstanceAs (Decidable (_ ∧ _))

variable {step : σ → ℓ → Option σ} {ok : σ → ℓ → Prop}

@[simp] theorem run_nil (s : σ) : run step s [] = some s := rfl

theorem run_cons_eq_some {s s' : σ} {l : ℓ} {ls : List ℓ} :
    run step s (l :: ls) = some s' ↔ ∃ m, step s l = some m ∧ run step m ls = some s' := by
  simp only [run, Option.bind_eq_some_iff]

theorem run_append (s : σ) (ls ls' : List ℓ) :
    run step s (ls ++ ls') = (run step s ls).bind fun m => run step m ls' := by
  induction ls generalizing s with
  | nil => rfl
  | cons l ls ih =>
      simp only [List.cons_append, run]
      cases step s l with
      | none => rfl
      | some m => exact ih m

/-- What a step keeps besides the states of another step function changes none of its runs. -/
theorem run_map {σ' : Type*} {step' : σ' → ℓ → Option σ'} {project : σ → σ'}
    (hstep : ∀ s l, (step s l).map project = step' (project s) l) (s : σ) (ls : List ℓ) :
    (run step s ls).map project = run step' (project s) ls := by
  induction ls generalizing s with
  | nil => rfl
  | cons l ls ih =>
      rw [run, run, ← hstep]
      cases step s l with
      | none => rfl
      | some m => exact ih m

theorem meets_cons {s : σ} {l : ℓ} {ls : List ℓ} :
    Meets step ok s (l :: ls) ↔ ok s l ∧ ∀ m, step s l = some m → Meets step ok m ls := by
  simp only [Meets]
  cases step s l <;> simp

theorem meets_append {s m : σ} {ls ls' : List ℓ} (hrun : run step s ls = some m) :
    Meets step ok s (ls ++ ls') ↔ Meets step ok s ls ∧ Meets step ok m ls' := by
  induction ls generalizing s with
  | nil =>
      rw [run_nil, Option.some.injEq] at hrun
      subst hrun
      simp [Meets]
  | cons l ls ih =>
      obtain ⟨m', hm', hrest⟩ := run_cons_eq_some.mp hrun
      rw [List.cons_append, meets_cons, meets_cons]
      simp only [hm', Option.some.injEq, forall_eq', ih hrest, and_assoc]

theorem meets_true (s : σ) (ls : List ℓ) : Meets step (fun _ _ => True) s ls := by
  induction ls generalizing s with
  | nil => trivial
  | cons l ls ih => exact meets_cons.mpr ⟨trivial, fun m _ => ih m⟩

theorem Meets.and_forall {q : ℓ → Prop} {s : σ} {ls : List ℓ} (h : Meets step ok s ls)
    (hq : ∀ l ∈ ls, q l) : Meets step (fun s l => ok s l ∧ q l) s ls := by
  induction ls generalizing s with
  | nil => trivial
  | cons l ls ih =>
      obtain ⟨hl, hls⟩ := meets_cons.mp h
      obtain ⟨hql, hqls⟩ := List.forall_mem_cons.mp hq
      exact meets_cons.mpr ⟨⟨hl, hql⟩, fun m hm => ih (hls m hm) hqls⟩

/-- What every step that meets the condition preserves holds after every run that meets it. -/
theorem run_invariant {P : σ → Prop}
    (hstep : ∀ s l s', P s → ok s l → step s l = some s' → P s')
    {s s' : σ} {ls : List ℓ} (hs : P s) (hok : Meets step ok s ls)
    (hrun : run step s ls = some s') : P s' := by
  induction ls generalizing s with
  | nil =>
      rw [run_nil, Option.some.injEq] at hrun
      exact hrun ▸ hs
  | cons l ls ih =>
      obtain ⟨m, hm, hrest⟩ := run_cons_eq_some.mp hrun
      obtain ⟨hl, hls⟩ := meets_cons.mp hok
      exact ih (hstep s l m hs hl hm) (hls m hm) hrest

/-- What every step preserves holds in every reachable state. -/
theorem Reachable.invariant {P : σ → Prop} {init s : σ} (hr : Reachable step init s)
    (hinit : P init) (hstep : ∀ s l s', P s → step s l = some s' → P s') : P s := by
  obtain ⟨ls, hrun⟩ := hr
  exact run_invariant (fun s l s' hs _ hm => hstep s l s' hs hm) hinit (meets_true init ls) hrun

/-- Where every step that meets the condition takes something from a measure, a run of such steps
takes at least its own length from it. -/
theorem length_add_measure_le {measure : σ → Nat}
    (hstep : ∀ s l s', ok s l → step s l = some s' → measure s' < measure s)
    {s s' : σ} {ls : List ℓ} (hok : Meets step ok s ls) (hrun : run step s ls = some s') :
    ls.length + measure s' ≤ measure s := by
  induction ls generalizing s with
  | nil =>
      rw [run_nil, Option.some.injEq] at hrun
      simp [hrun]
  | cons l ls ih =>
      obtain ⟨m, hm, hrest⟩ := run_cons_eq_some.mp hrun
      obtain ⟨hl, hls⟩ := meets_cons.mp hok
      have hdecrease : measure m < measure s := hstep s l m hl hm
      have hlength : ls.length + measure s' ≤ measure m := ih (hls m hm) hrest
      rw [List.length_cons]
      omega

/-- `P` holds in every state of the run. -/
def Throughout (step : σ → ℓ → Option σ) (P : σ → Prop) (s : σ) (ls : List ℓ) : Prop :=
  ∀ before after m, ls = before ++ after → run step s before = some m → P m

theorem throughout_cons {P : σ → Prop} {s : σ} {l : ℓ} {ls : List ℓ} :
    Throughout step P s (l :: ls) ↔ P s ∧ ∀ m, step s l = some m → Throughout step P m ls := by
  constructor
  · intro h
    refine ⟨h [] (l :: ls) s rfl rfl, fun m hm before after m' hsplit hrun => ?_⟩
    exact h (l :: before) after m' (by rw [hsplit, List.cons_append])
      (run_cons_eq_some.mpr ⟨m, hm, hrun⟩)
  · rintro ⟨hs, hrest⟩ before after m hsplit hrun
    cases before with
    | nil =>
        rw [run_nil, Option.some.injEq] at hrun
        exact hrun ▸ hs
    | cons l' before =>
        rw [List.cons_append, List.cons.injEq] at hsplit
        obtain ⟨m', hm', hrun⟩ := run_cons_eq_some.mp hrun
        rw [← hsplit.1] at hm'
        exact hrest m' hm' before after m hsplit.2 hrun

theorem Meets.imp {ok' : σ → ℓ → Prop} {P : σ → Prop} {s : σ} {ls : List ℓ}
    (hP : Throughout step P s ls) (himp : ∀ s l, P s → ok s l → ok' s l)
    (h : Meets step ok s ls) : Meets step ok' s ls := by
  induction ls generalizing s with
  | nil => trivial
  | cons l ls ih =>
      obtain ⟨hs, hrest⟩ := throughout_cons.mp hP
      obtain ⟨hl, hls⟩ := meets_cons.mp h
      exact meets_cons.mpr ⟨himp s l hs hl, fun m hm => ih (hrest m hm) (hls m hm)⟩

def Visited (step : σ → ℓ → Option σ) (s : σ) (ls : List ℓ) (m : σ) : Prop :=
  ∃ before after, ls = before ++ after ∧ run step s before = some m

theorem throughout_visited (step : σ → ℓ → Option σ) (s : σ) (ls : List ℓ) :
    Throughout step (Visited step s ls) s ls :=
  fun before after _ hsplit hrun => ⟨before, after, hsplit, hrun⟩

/-- Where each step keeps `P` exactly when it meets the condition and never restores it, `P` holds
after a run exactly when it held before and all steps meet the condition. Steps may use what holds
throughout the run, such as being visited by it. -/
theorem holds_iff_meets {V I P : σ → Prop}
    (hinv : ∀ s l s', V s → I s → step s l = some s' → I s')
    (hstep : ∀ s l s', V s → I s → step s l = some s' → (P s' ↔ P s ∧ ok s l))
    {s s' : σ} {ls : List ℓ} (hV : Throughout step V s ls) (hI : I s)
    (hrun : run step s ls = some s') : P s' ↔ P s ∧ Meets step ok s ls := by
  induction ls generalizing s with
  | nil =>
      rw [run_nil, Option.some.injEq] at hrun
      subst hrun
      exact (and_iff_left trivial).symm
  | cons l ls ih =>
      obtain ⟨m, hm, hrest⟩ := run_cons_eq_some.mp hrun
      obtain ⟨hVs, hVls⟩ := throughout_cons.mp hV
      have hnext : (∀ m', step s l = some m' → Meets step ok m' ls) ↔ Meets step ok m ls := by
        simp only [hm, Option.some.injEq, forall_eq']
      rw [ih (hVls m hm) (hinv s l m hVs hI hm) hrest, hstep s l m hVs hI hm, meets_cons, hnext,
        and_assoc]

/-- Where a step keeps `P` exactly when it meets the condition, a run keeps it throughout exactly
when all its steps do. -/
theorem throughout_iff_meets {P I : σ → Prop}
    (hinv : ∀ s l s', I s → step s l = some s' → I s')
    (hstep : ∀ s l s', I s → P s → step s l = some s' → (P s' ↔ ok s l))
    {s s' : σ} {ls : List ℓ} (hI : I s) (hP : P s) (hrun : run step s ls = some s') :
    Throughout step P s ls ↔ Meets step ok s ls := by
  induction ls generalizing s with
  | nil =>
      refine ⟨fun _ => trivial, fun _ before after m hsplit hm => ?_⟩
      obtain ⟨rfl, -⟩ := List.append_eq_nil_iff.mp hsplit.symm
      rw [run_nil, Option.some.injEq] at hm
      exact hm ▸ hP
  | cons l ls ih =>
      obtain ⟨m, hm, hrest⟩ := run_cons_eq_some.mp hrun
      have hnext : ∀ (Q : σ → Prop), (∀ m', step s l = some m' → Q m') ↔ Q m := by
        intro Q
        simp only [hm, Option.some.injEq, forall_eq']
      rw [throughout_cons, meets_cons, hnext, hnext]
      constructor
      · rintro ⟨-, hthrough⟩
        have hPm : P m := hthrough [] ls m rfl rfl
        exact ⟨(hstep s l m hI hP hm).mp hPm, (ih (hinv s l m hI hm) hPm hrest).mp hthrough⟩
      · rintro ⟨hok, hmeets⟩
        have hPm : P m := (hstep s l m hI hP hm).mpr hok
        exact ⟨hP, (ih (hinv s l m hI hm) hPm hrest).mpr hmeets⟩

/-- Where a run ends with what it did not start with, some step of it brings it about. -/
theorem exists_step_of_run {P : σ → Prop} {s s' : σ} {ls : List ℓ} (hs : ¬ P s) (hs' : P s')
    (hrun : run step s ls = some s') :
    ∃ before l after m m', ls = before ++ l :: after ∧ run step s before = some m ∧
      step m l = some m' ∧ run step m' after = some s' ∧ ¬ P m ∧ P m' := by
  induction ls generalizing s with
  | nil =>
      rw [run_nil, Option.some.injEq] at hrun
      exact absurd (hrun ▸ hs') hs
  | cons l ls ih =>
      obtain ⟨m, hm, hrest⟩ := run_cons_eq_some.mp hrun
      by_cases hP : P m
      · exact ⟨[], l, ls, s, m, rfl, rfl, hm, hrest, hs, hP⟩
      · obtain ⟨before, l', after, m', m'', rfl, hbefore, hstep⟩ := ih hP hrest
        exact ⟨l :: before, l', after, m', m'', rfl, run_cons_eq_some.mpr ⟨m, hm, hbefore⟩, hstep⟩

theorem exists_run (step : σ → ℓ → Option σ) (s : σ) (ls : List ℓ) (P : σ → Prop)
    [DecidablePred P] (h : (run step s ls).any (fun s' => decide (P s')) = true) :
    ∃ s', run step s ls = some s' ∧ P s' := by
  obtain ⟨s', hrun, hs'⟩ := (Option.any_eq_true _ _).mp h
  exact ⟨s', hrun, of_decide_eq_true hs'⟩

theorem Reachable.refl (init : σ) : Reachable step init init := ⟨[], rfl⟩

theorem Reachable.tail {init s s' : σ} {l : ℓ} (hr : Reachable step init s)
    (hl : step s l = some s') : Reachable step init s' := by
  obtain ⟨ls, hrun⟩ := hr
  exact ⟨ls ++ [l], by rw [run_append, hrun]; simp [run, hl]⟩

end Transition
