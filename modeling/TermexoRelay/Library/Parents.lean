import Mathlib.Logic.Function.Basic
import Mathlib.Logic.Relation

/-!
# Graphs in which every node has at most one parent

Taking a parent away never closes a cycle. Giving a parent to a node without one closes a cycle
exactly when the node is the new parent or stands above it.
-/

namespace Parents

open Relation

variable {κ : Type*} (parent : κ → Option κ)

def Link (lower upper : κ) : Prop := parent lower = some upper

/-- `upper` is met on the way up from `lower`. -/
def Above (lower upper : κ) : Prop := TransGen (Link parent) lower upper

def Acyclic : Prop := ∀ node, ¬ Above parent node node

variable {parent} {lower upper node : κ}

theorem Above.head (hlink : parent lower = some upper) (h : ReflTransGen (Link parent) upper node) :
    Above parent lower node :=
  TransGen.head' hlink h

theorem Acyclic.subset {parent' : κ → Option κ} (h : Acyclic parent)
    (hsubset : ∀ lower upper, parent' lower = some upper → parent lower = some upper) :
    Acyclic parent' :=
  fun node habove => h node (TransGen.mono hsubset _ _ habove)

theorem not_above_of_none (h : parent lower = none) : ¬ Above parent lower upper := by
  intro habove
  obtain ⟨next, hlink, -⟩ := TransGen.head'_iff.mp habove
  rw [Link, h] at hlink
  cases hlink

theorem acyclic_of_none (h : ∀ node, parent node = none) : Acyclic parent :=
  fun node => not_above_of_none (h node)

section Along

/-- Every link on the way up from a node is of that kind. -/
def Along (parent : κ → Option κ) (kind : κ → κ → Prop) (node : κ) : Prop :=
  ∀ lower upper, ReflTransGen (Link parent) node lower → Link parent lower upper → kind lower upper

variable {kind : κ → κ → Prop}

theorem along_of_none (h : parent node = none) : Along parent kind node := by
  intro lower upper hway hlink
  rcases hway.cases_head with rfl | ⟨next, hnext, -⟩
  · rw [Link, h] at hlink
    cases hlink
  · rw [Link, h] at hnext
    cases hnext

theorem along_iff_of_some (h : parent lower = some upper) :
    Along parent kind lower ↔ kind lower upper ∧ Along parent kind upper := by
  constructor
  · intro halong
    refine ⟨halong lower upper .refl h, fun lower' upper' hway hlink => ?_⟩
    exact halong lower' upper' (.head h hway) hlink
  · intro ⟨hkind, halong⟩ lower' upper' hway hlink
    rcases hway.cases_head with rfl | ⟨next, hnext, hway⟩
    · obtain rfl : upper = upper' := Option.some.inj (h.symm.trans hlink)
      exact hkind
    · obtain rfl : upper = next := Option.some.inj (h.symm.trans hnext)
      exact halong lower' upper' hway hlink

end Along

section Update

variable [DecidableEq κ]

theorem Acyclic.update_none (h : Acyclic parent) (node : κ) :
    Acyclic (Function.update parent node none) := by
  refine h.subset fun lower upper hlink => ?_
  by_cases hlower : lower = node
  · rw [hlower, Function.update_self] at hlink
    cases hlink
  · rwa [Function.update_of_ne hlower] at hlink

private theorem link_update (hroot : parent node = none) (hlink : Link parent lower upper)
    (above : κ) : Link (Function.update parent node (some above)) lower upper := by
  have hlower : lower ≠ node := by
    rintro rfl
    rw [Link, hroot] at hlink
    cases hlink
  rw [Link, Function.update_of_ne hlower]
  exact hlink

/-- A way up after the new link either does not use it or goes to its lower end first and on from
its upper end. -/
private theorem above_update {above : κ} (hfree : ¬ ReflTransGen (Link parent) above node)
    (h : Above (Function.update parent node (some above)) lower upper) :
    Above parent lower upper ∨
      ReflTransGen (Link parent) lower node ∧ ReflTransGen (Link parent) above upper := by
  have hlink : ∀ x y, Link (Function.update parent node (some above)) x y →
      (x = node ∧ y = above) ∨ Link parent x y := by
    intro x y hxy
    by_cases hx : x = node
    · subst hx
      rw [Link, Function.update_self, Option.some.injEq] at hxy
      exact .inl ⟨rfl, hxy.symm⟩
    · rw [Link, Function.update_of_ne hx] at hxy
      exact .inr hxy
  induction h with
  | single hstep =>
      rcases hlink _ _ hstep with ⟨rfl, rfl⟩ | hold
      · exact .inr ⟨.refl, .refl⟩
      · exact .inl (.single hold)
  | tail _ hstep ih =>
      rcases hlink _ _ hstep with ⟨rfl, rfl⟩ | hold
      · rcases ih with hbelow | ⟨-, hcycle⟩
        · exact .inr ⟨hbelow.to_reflTransGen, .refl⟩
        · exact absurd hcycle hfree
      · rcases ih with hbelow | ⟨hbelow, habove⟩
        · exact .inl (hbelow.tail hold)
        · exact .inr ⟨hbelow, habove.tail hold⟩

theorem Acyclic.update_some_iff (h : Acyclic parent) (hroot : parent node = none) (above : κ) :
    Acyclic (Function.update parent node (some above)) ↔
      node ≠ above ∧ ¬ Above parent above node := by
  constructor
  · intro hacyclic
    have hnew : Link (Function.update parent node (some above)) node above :=
      Function.update_self ..
    constructor
    · rintro rfl
      exact hacyclic node (.single hnew)
    · intro habove
      have hkept : Above (Function.update parent node (some above)) above node :=
        TransGen.mono (fun _ _ hlink => link_update hroot hlink above) _ _ habove
      exact hacyclic node (TransGen.head hnew hkept)
  · rintro ⟨hne, hnot⟩ start hcycle
    have hfree : ¬ ReflTransGen (Link parent) above node := by
      intro hway
      rcases reflTransGen_iff_eq_or_transGen.mp hway with heq | hway
      · exact hne heq
      · exact hnot hway
    rcases above_update hfree hcycle with hold | ⟨hbelow, habove⟩
    · exact h start hold
    · exact hfree (habove.trans hbelow)

end Update

end Parents
