import Mathlib.Order.Lattice
import Mathlib.Data.List.Infix

/-!
# Pages of a list that is sorted by a key

A list is read in pages, newest first: a page holds the first entries below a cursor, and the cursor
of the next page is the key of the last entry read. Pages read so are the list itself, and entries
that are put in front of it do not disturb them.
-/

namespace Paging

variable {α β κ : Type*} [LinearOrder κ] (key : α → κ)

/-- Every entry has a larger key than those behind it. -/
def Descending (l : List α) : Prop := l.Pairwise fun a b => key b < key a

def page (before : Option κ) (limit : Nat) (l : List α) : List α :=
  (l.filter fun a => before.all fun c => decide (key a < c)).take limit

variable {key} {l l' shown rest : List α} {a : α} {c : κ} {limit : Nat}

theorem Descending.sublist (h : Descending key l') (hl : l.Sublist l') : Descending key l :=
  List.Pairwise.sublist hl h

theorem Descending.map {key' : β → κ} {f : α → β} (hf : ∀ a, key' (f a) = key a)
    (h : Descending key l) : Descending key' (l.map f) := by
  refine List.pairwise_map.mpr (List.Pairwise.imp ?_ h)
  intro a b hlt
  rw [hf, hf]
  exact hlt

theorem page_none : page key none limit l = l.take limit := by
  simp [page]

theorem length_page_le (before : Option κ) : (page key before limit l).length ≤ limit :=
  List.length_take_le _ _

theorem page_map {key' : β → κ} {f : α → β} (hf : ∀ a, key' (f a) = key a) (before : Option κ) :
    page key' before limit (l.map f) = (page key before limit l).map f := by
  simp only [page, List.filter_map, List.map_take, Function.comp_def, hf]

theorem page_cons_of_le (h : c ≤ key a) :
    page key (some c) limit (a :: l) = page key (some c) limit l := by
  simp [page, not_lt.mpr h]

theorem filter_lt_getLast (h : Descending key (shown ++ rest)) (hlast : shown.getLast? = some a) :
    ((shown ++ rest).filter fun b => decide (key b < key a)) = rest := by
  obtain ⟨front, rfl⟩ := List.getLast?_eq_some_iff.mp hlast
  obtain ⟨hshown, -, hrest⟩ := List.pairwise_append.mp h
  obtain ⟨-, -, hfront⟩ := List.pairwise_append.mp hshown
  have hgone : ((front ++ [a]).filter fun b => decide (key b < key a)) = [] := by
    refine List.filter_eq_nil_iff.mpr fun b hb => ?_
    rw [decide_eq_true_eq, not_lt]
    rcases List.mem_append.mp hb with hb | hb
    · exact (hfront b hb a List.mem_cons_self).le
    · rw [List.mem_singleton.mp hb]
  have hkept : (rest.filter fun b => decide (key b < key a)) = rest := by
    refine List.filter_eq_self.mpr fun b hb => decide_eq_true ?_
    exact hrest a (List.mem_append_right _ List.mem_cons_self) b hb
  rw [List.filter_append, hgone, hkept, List.nil_append]

theorem append_page (hl : Descending key l) (h : shown <+: l) (hlast : shown.getLast? = some a) :
    shown ++ page key (some (key a)) limit l <+: l := by
  obtain ⟨rest, rfl⟩ := h
  have hpage : page key (some (key a)) limit (shown ++ rest) = rest.take limit :=
    congrArg (List.take limit) (filter_lt_getLast hl hlast)
  rw [hpage, List.prefix_append_right_inj]
  exact List.take_prefix _ _

theorem append_short_page (hl : Descending key l) (h : shown <+: l)
    (hlast : shown.getLast? = some a)
    (hshort : (page key (some (key a)) limit l).length < limit) :
    shown ++ page key (some (key a)) limit l = l := by
  obtain ⟨rest, rfl⟩ := h
  have hpage : page key (some (key a)) limit (shown ++ rest) = rest.take limit :=
    congrArg (List.take limit) (filter_lt_getLast hl hlast)
  rw [hpage, List.length_take] at hshort
  rw [hpage, List.take_of_length_le (by omega)]

theorem page_of_suffix (hl : Descending key l') (h : l <:+ l') (ha : a ∈ l) :
    page key (some (key a)) limit l' = page key (some (key a)) limit l := by
  obtain ⟨newer, rfl⟩ := h
  obtain ⟨-, -, hnewer⟩ := List.pairwise_append.mp hl
  have hgone : (newer.filter fun b => decide (key b < key a)) = [] := by
    refine List.filter_eq_nil_iff.mpr fun b hb => ?_
    rw [decide_eq_true_eq, not_lt]
    exact (hnewer b hb a ha).le
  simp only [page, Option.all_some, List.filter_append, hgone, List.nil_append]

end Paging
