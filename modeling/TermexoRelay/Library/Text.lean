import Mathlib.Data.List.DropRight
import Mathlib.Data.List.Infix

/-!
# Splitting, trimming and joining

Strings over any alphabet, as lists. The core library's `List.splitOn` splits at one separator;
this module adds the split at the first separator, trimming at both ends, and what a join of
trimmed pieces splits back into.
-/

namespace Text

variable {α : Type*}

section Trim

variable (space : α → Bool)

def trim (s : List α) : List α := (s.dropWhile space).rdropWhile space

variable {space}

theorem trim_sublist (s : List α) : (trim space s).Sublist s :=
  (List.rdropWhile_prefix space _).sublist.trans (List.dropWhile_sublist space)

theorem mem_of_mem_trim {s : List α} {x : α} (h : x ∈ trim space s) : x ∈ s :=
  (trim_sublist s).mem h

private theorem dropWhile_eq_self_of_prefix {s t : List α} (h : s.dropWhile space = s)
    (hp : t <+: s) : t.dropWhile space = t := by
  rw [List.dropWhile_eq_self_iff] at h ⊢
  intro ht
  obtain ⟨rest, rfl⟩ := hp
  have hlen : 0 < (t ++ rest).length := by
    rw [List.length_append]
    omega
  have hhead := h hlen
  rwa [List.getElem_append_left ht] at hhead

theorem trim_trim (s : List α) : trim space (trim space s) = trim space s := by
  have hhead : (trim space s).dropWhile space = trim space s :=
    dropWhile_eq_self_of_prefix (List.dropWhile_idempotent space s)
      (List.rdropWhile_prefix space _)
  rw [trim, hhead]
  exact List.rdropWhile_idempotent space _

theorem trim_append_left {w : List α} (hw : ∀ x ∈ w, space x = true) (s : List α) :
    trim space (w ++ s) = trim space s := by
  rw [trim, List.dropWhile_append_of_pos hw, trim]

theorem trim_eq_self_iff {s : List α} :
    trim space s = s ↔ s.dropWhile space = s ∧ s.rdropWhile space = s := by
  constructor
  · intro h
    have hsuffix : s.dropWhile space <:+ s := List.dropWhile_suffix space
    have hprefix : trim space s <+: s.dropWhile space := List.rdropWhile_prefix space _
    rw [h] at hprefix
    have hdrop : s.dropWhile space = s :=
      hsuffix.eq_of_length (le_antisymm hsuffix.length_le hprefix.length_le)
    rw [trim, hdrop] at h
    exact ⟨hdrop, h⟩
  · rintro ⟨hdrop, hrdrop⟩
    rw [trim, hdrop, hrdrop]

theorem trim_eq_self_iff_ends {s : List α} :
    trim space s = s ↔
      (∀ x, s.head? = some x → space x = false) ∧ ∀ x, s.getLast? = some x → space x = false := by
  rw [trim_eq_self_iff]
  apply and_congr
  · cases s with
    | nil => simp
    | cons x xs => simp [List.dropWhile_eq_self_iff]
  · rw [List.rdropWhile_eq_self_iff]
    constructor
    · intro h x hx
      obtain ⟨front, rfl⟩ := List.getLast?_eq_some_iff.mp hx
      simpa using h (by simp)
    · intro h hne
      simpa using h _ (List.getLast?_eq_some_getLast hne)

theorem trim_append_cons {s t : List α} {x : α} (hs : trim space s = s) (hx : space x = false)
    (ht : trim space t = t) : trim space (s ++ x :: t) = s ++ x :: t := by
  rw [trim_eq_self_iff] at hs ht ⊢
  constructor
  · cases s with
    | nil => rw [List.nil_append, List.dropWhile_cons_of_neg (by simp [hx])]
    | cons y ys =>
        have hy := List.dropWhile_eq_self_iff.mp hs.1 (by simp)
        rw [List.getElem_cons_zero] at hy
        rw [List.cons_append, List.dropWhile_cons_of_neg hy]
  · rw [List.rdropWhile_eq_self_iff]
    intro _
    by_cases hnil : t = []
    · simp [hnil, hx]
    · have hlast := (List.rdropWhile_eq_self_iff.mp ht.2) hnil
      rw [List.getLast_append_of_ne_nil _ (List.cons_ne_nil x t), List.getLast_cons hnil]
      exact hlast

theorem trim_eq_self {s : List α} (h : ∀ x ∈ s, space x = false) : trim space s = s := by
  rw [trim_eq_self_iff, List.dropWhile_eq_self_iff, List.rdropWhile_eq_self_iff]
  constructor
  · intro hlen
    rw [h _ (List.getElem_mem hlen)]
    exact Bool.false_ne_true
  · intro hne
    rw [h _ (List.getLast_mem hne)]
    exact Bool.false_ne_true

theorem rdropWhile_append_cons (space : α → Bool) (s t : List α) {x : α} (hx : space x = false) :
    (s ++ x :: t).rdropWhile space = s ++ x :: t.rdropWhile space := by
  have hfirst : (x :: s.reverse).dropWhile space = x :: s.reverse :=
    List.dropWhile_cons_of_neg (by simp [hx])
  rw [List.rdropWhile, List.reverse_append, List.reverse_cons, List.append_assoc,
    List.singleton_append, List.dropWhile_append, hfirst]
  split
  · next hnil =>
      rw [List.isEmpty_iff] at hnil
      simp [List.rdropWhile, hnil]
  · simp [List.rdropWhile]

theorem trim_congr {space' : α → Bool} {s : List α} (h : ∀ x ∈ s, space x = space' x) :
    trim space s = trim space' s := by
  have hdrop : ∀ {t : List α}, (∀ x ∈ t, space x = space' x) →
      t.dropWhile space = t.dropWhile space' := by
    intro t ht
    induction t with
    | nil => rfl
    | cons x xs ih =>
        rw [List.dropWhile_cons, List.dropWhile_cons, ht x List.mem_cons_self,
          ih fun y hy => ht y (List.mem_cons_of_mem _ hy)]
  have hrest : ∀ x ∈ (s.dropWhile space).reverse, space x = space' x := fun x hx =>
    h x ((List.dropWhile_sublist space).mem (List.mem_reverse.mp hx))
  rw [trim, trim, List.rdropWhile, List.rdropWhile, hdrop hrest, hdrop h]

end Trim

section Ends

variable [DecidableEq α]

def stripPrefix (before s : List α) : Option (List α) :=
  if before <+: s then some (s.drop before.length) else none

theorem stripPrefix_eq_some {before s t : List α} :
    stripPrefix before s = some t ↔ s = before ++ t := by
  unfold stripPrefix
  split
  · next hbegins =>
      obtain ⟨rest, rfl⟩ := hbegins
      rw [List.drop_left, Option.some.injEq, List.append_cancel_left_eq, eq_comm]
  · next hbegins =>
      constructor
      · intro h
        cases h
      · rintro rfl
        exact absurd (List.prefix_append before t) hbegins

theorem stripPrefix_eq_none {before s : List α} :
    stripPrefix before s = none ↔ ¬ before <+: s := by
  unfold stripPrefix
  split
  · next hbegins => simp [hbegins]
  · next hbegins => simp [hbegins]

def stripSuffix (after s : List α) : Option (List α) :=
  if after <:+ s then some (s.take (s.length - after.length)) else none

theorem stripSuffix_eq_some {after s t : List α} :
    stripSuffix after s = some t ↔ s = t ++ after := by
  unfold stripSuffix
  split
  · next h =>
      obtain ⟨rest, rfl⟩ := h
      simp
  · next h =>
      refine ⟨fun hnone => (by cases hnone), fun hs => absurd ⟨t, hs.symm⟩ h⟩

end Ends

theorem eq_of_append_cons_eq {separator : α} {before before' after after' : List α}
    (h : separator ∉ after) (h' : separator ∉ after')
    (heq : before ++ separator :: after = before' ++ separator :: after') : after = after' := by
  rcases List.append_eq_append_iff.mp heq with ⟨rest, -, hrest⟩ | ⟨rest, -, hrest⟩
  · cases rest with
    | nil => exact (List.cons.inj hrest).2
    | cons x rest =>
        rw [List.cons_append, List.cons.injEq] at hrest
        rw [hrest.2] at h
        exact absurd (List.mem_append_right _ List.mem_cons_self) h
  · cases rest with
    | nil => exact (List.cons.inj hrest).2.symm
    | cons x rest =>
        rw [List.cons_append, List.cons.injEq] at hrest
        rw [hrest.2] at h'
        exact absurd (List.mem_append_right _ List.mem_cons_self) h'

section Last

variable {separator : α}

theorem exists_eq_append_cons {s : List α} (h : separator ∈ s) :
    ∃ before after, s = before ++ separator :: after ∧ separator ∉ after := by
  induction s with
  | nil => cases h
  | cons x xs ih =>
      by_cases hxs : separator ∈ xs
      · obtain ⟨before, after, rfl, hafter⟩ := ih hxs
        exact ⟨x :: before, after, rfl, hafter⟩
      · rcases List.mem_cons.mp h with rfl | h
        · exact ⟨[], xs, rfl, hxs⟩
        · exact absurd h hxs

theorem dropLast_rdropWhile_ne [DecidableEq α] {before after : List α} (h : separator ∉ after) :
    ((before ++ separator :: after).rdropWhile (· ≠ separator)).dropLast = before := by
  have hafter : ∀ x ∈ after.reverse, decide (x ≠ separator) = true := by
    intro x hx
    exact decide_eq_true fun heq => h (heq ▸ List.mem_reverse.mp hx)
  have hdrop : (before ++ separator :: after).rdropWhile (· ≠ separator) =
      before ++ [separator] := by
    rw [List.rdropWhile, List.reverse_append, List.reverse_cons, List.append_assoc,
      List.dropWhile_append_of_pos hafter]
    simp
  rw [hdrop, List.dropLast_concat]

end Last

section Join

private theorem mem_modifyHead_cases {f : List α → List α} {pieces : List (List α)}
    {piece : List α} (h : piece ∈ pieces.modifyHead f) :
    piece ∈ pieces ∨ ∃ first ∈ pieces, piece = f first := by
  cases pieces with
  | nil => exact .inl h
  | cons first rest =>
      rcases List.mem_cons.mp h with rfl | h
      · exact .inr ⟨first, List.mem_cons_self, rfl⟩
      · exact .inl (List.mem_cons_of_mem _ h)

theorem mem_intercalate_cases {separator : List α} {pieces : List (List α)} {x : α}
    (h : x ∈ separator.intercalate pieces) : x ∈ separator ∨ ∃ piece ∈ pieces, x ∈ piece := by
  induction pieces with
  | nil => simp at h
  | cons piece rest ih =>
      cases rest with
      | nil =>
          rw [List.intercalate_singleton] at h
          exact .inr ⟨piece, List.mem_cons_self, h⟩
      | cons next rest =>
          rw [List.intercalate_cons_cons, List.mem_append, List.mem_append] at h
          rcases h with (h | h) | h
          · exact .inr ⟨piece, List.mem_cons_self, h⟩
          · exact .inl h
          · exact (ih h).imp_right fun ⟨p, hp, hx⟩ => ⟨p, List.mem_cons_of_mem _ hp, hx⟩

theorem filter_intercalate {keep : α → Bool} {separator : List α}
    (h : separator.filter keep = []) (pieces : List (List α)) :
    (separator.intercalate pieces).filter keep = pieces.flatten.filter keep := by
  induction pieces with
  | nil => rfl
  | cons piece rest ih =>
      cases rest with
      | nil => simp
      | cons next rest =>
          rw [List.intercalate_cons_cons, List.filter_append, List.filter_append, h, ih,
            List.append_nil]
          simp only [List.flatten_cons, List.filter_append]

theorem intercalate_eq_nil_iff {separator : List α} {pieces : List (List α)}
    (hpieces : ∀ piece ∈ pieces, piece ≠ []) : separator.intercalate pieces = [] ↔ pieces = [] := by
  cases pieces with
  | nil => simp
  | cons piece rest =>
      have hpiece : piece ≠ [] := hpieces piece List.mem_cons_self
      cases rest <;> simp [hpiece]

theorem intercalate_append {separator : List α} {pieces rest : List (List α)}
    (hpieces : pieces ≠ []) (hrest : rest ≠ []) :
    separator.intercalate (pieces ++ rest) =
      separator.intercalate pieces ++ separator ++ separator.intercalate rest := by
  induction pieces with
  | nil => exact absurd rfl hpieces
  | cons piece pieces ih =>
      cases pieces with
      | nil =>
          obtain ⟨first, others, rfl⟩ := List.exists_cons_of_ne_nil hrest
          rw [List.singleton_append, List.intercalate_cons_cons, List.intercalate_singleton]
      | cons next pieces =>
          have hjoin := ih (List.cons_ne_nil _ _)
          rw [List.cons_append] at hjoin
          rw [List.cons_append, List.cons_append, List.intercalate_cons_cons, hjoin,
            List.intercalate_cons_cons]
          simp only [List.append_assoc]

theorem exists_getLast?_intercalate (separator : List α) {pieces : List (List α)}
    (hne : pieces ≠ []) (hpieces : ∀ piece ∈ pieces, piece ≠ []) :
    ∃ piece ∈ pieces, (separator.intercalate pieces).getLast? = piece.getLast? := by
  induction pieces with
  | nil => exact absurd rfl hne
  | cons piece rest ih =>
      cases rest with
      | nil => exact ⟨piece, List.mem_cons_self, by rw [List.intercalate_singleton]⟩
      | cons next rest =>
          have hrest : ∀ p ∈ next :: rest, p ≠ [] := fun p hp =>
            hpieces p (List.mem_cons_of_mem _ hp)
          obtain ⟨last, hlast, heq⟩ := ih (List.cons_ne_nil _ _) hrest
          have hjoin : separator.intercalate (next :: rest) ≠ [] := fun h =>
            List.cons_ne_nil _ _ ((intercalate_eq_nil_iff hrest).mp h)
          refine ⟨last, List.mem_cons_of_mem _ hlast, ?_⟩
          rw [List.intercalate_cons_cons, List.getLast?_append_of_ne_nil _ hjoin, heq]

end Join

section Split

variable [DecidableEq α]

def splitOnce (separator : α) : List α → Option (List α × List α)
  | [] => none
  | x :: xs =>
      if x = separator then some ([], xs)
      else (splitOnce separator xs).map fun parts => (x :: parts.1, parts.2)

theorem splitOnce_eq_some {separator : α} {s before after : List α} :
    splitOnce separator s = some (before, after) ↔
      s = before ++ separator :: after ∧ separator ∉ before := by
  induction s generalizing before with
  | nil => simp [splitOnce]
  | cons x xs ih =>
      rw [splitOnce]
      split
      · next hx =>
          subst hx
          constructor
          · rintro ⟨⟩
            exact ⟨rfl, List.not_mem_nil⟩
          · rintro ⟨heq, hbefore⟩
            cases before with
            | nil => rw [List.nil_append, List.cons.injEq] at heq; rw [heq.2]
            | cons y ys =>
                rw [List.cons_append, List.cons.injEq] at heq
                exact absurd (heq.1 ▸ List.mem_cons_self) hbefore
      · next hx =>
          rw [Option.map_eq_some_iff]
          constructor
          · rintro ⟨⟨first, second⟩, hparts, heq⟩
            cases heq
            obtain ⟨rfl, hfirst⟩ := ih.mp hparts
            rw [List.mem_cons, not_or]
            exact ⟨rfl, Ne.symm hx, hfirst⟩
          · rintro ⟨heq, hbefore⟩
            cases before with
            | nil => exact absurd (List.cons.inj heq).1 hx
            | cons y ys =>
                rw [List.cons_append, List.cons.injEq] at heq
                rw [List.mem_cons, not_or] at hbefore
                obtain ⟨rfl, hxs⟩ := heq
                exact ⟨(ys, after), ih.mpr ⟨hxs, hbefore.2⟩, rfl⟩

theorem append_cons_inj {separator : α} {before before' after after' : List α}
    (hbefore : separator ∉ before) (hbefore' : separator ∉ before')
    (h : before ++ separator :: after = before' ++ separator :: after') :
    before = before' ∧ after = after' := by
  have hfirst : splitOnce separator (before ++ separator :: after) = some (before, after) :=
    splitOnce_eq_some.mpr ⟨rfl, hbefore⟩
  have hsecond : splitOnce separator (before ++ separator :: after) = some (before', after') :=
    splitOnce_eq_some.mpr ⟨h, hbefore'⟩
  exact Prod.mk.inj (Option.some.inj (hfirst.symm.trans hsecond))

theorem splitOnce_eq_none {separator : α} {s : List α} :
    splitOnce separator s = none ↔ separator ∉ s := by
  induction s with
  | nil => simp [splitOnce]
  | cons x xs ih =>
      rw [splitOnce, List.mem_cons, not_or]
      split
      · next hx => simp [hx]
      · next hx =>
          rw [Option.map_eq_none_iff, ih]
          exact ⟨fun h => ⟨Ne.symm hx, h⟩, And.right⟩

theorem splitOn_cons (separator x : α) (xs : List α) :
    (x :: xs).splitOn separator =
      if x = separator then [] :: xs.splitOn separator
      else (xs.splitOn separator).modifyHead (x :: ·) := by
  rw [List.splitOn_cons_eq_if_modifyHead]
  simp

theorem splitOn_append_left {separator : α} {w : List α} (hw : separator ∉ w) (s : List α) :
    (w ++ s).splitOn separator = (s.splitOn separator).modifyHead (w ++ ·) := by
  induction w with
  | nil =>
      rw [List.nil_append]
      cases s.splitOn separator <;> rfl
  | cons x xs ih =>
      rw [List.mem_cons, not_or] at hw
      rw [List.cons_append, splitOn_cons, if_neg (Ne.symm hw.1), ih hw.2]
      cases s.splitOn separator <;> rfl

theorem head?_splitOn (separator : α) (s : List α) :
    (s.splitOn separator).head? = some (s.takeWhile fun x => x ≠ separator) := by
  induction s with
  | nil => rfl
  | cons x xs ih =>
      rw [splitOn_cons]
      split
      · next hx => simp [hx]
      · next hx =>
          rw [List.takeWhile_cons_of_pos (by simpa using hx)]
          cases hpieces : xs.splitOn separator with
          | nil =>
              rw [hpieces] at ih
              cases ih
          | cons first others =>
              rw [hpieces] at ih
              have hfirst : first = xs.takeWhile fun x => x ≠ separator := Option.some.inj ih
              rw [List.modifyHead_cons, List.head?_cons, hfirst]

theorem prefix_iff_splitOn {separator : α} {w s : List α} :
    w ++ [separator] <+: s ↔
      ∃ rest, rest ≠ [] ∧ s.splitOn separator = w.splitOn separator ++ rest := by
  constructor
  · rintro ⟨t, rfl⟩
    refine ⟨t.splitOn separator, List.splitOn_ne_nil _ _, ?_⟩
    rw [List.append_assoc, List.singleton_append, List.splitOn_append_cons_self]
  · rintro ⟨rest, hrest, hsplit⟩
    refine ⟨[separator].intercalate rest, ?_⟩
    have hjoin := congrArg [separator].intercalate hsplit
    rw [List.intercalate_splitOn, intercalate_append (List.splitOn_ne_nil _ _) hrest,
      List.intercalate_splitOn] at hjoin
    exact hjoin.symm

theorem not_mem_of_mem_splitOn {separator : α} {s piece : List α}
    (h : piece ∈ s.splitOn separator) : separator ∉ piece := by
  induction s generalizing piece with
  | nil =>
      rw [List.splitOn_nil, List.mem_singleton] at h
      simp [h]
  | cons x xs ih =>
      rw [splitOn_cons] at h
      split at h
      · rcases List.mem_cons.mp h with rfl | h
        · exact List.not_mem_nil
        · exact ih h
      · next hx =>
          rcases mem_modifyHead_cases h with h | ⟨first, hfirst, rfl⟩
          · exact ih h
          · rw [List.mem_cons, not_or]
            exact ⟨Ne.symm hx, ih hfirst⟩

theorem mem_of_mem_splitOn {separator : α} {s piece : List α} {x : α}
    (h : piece ∈ s.splitOn separator) (hx : x ∈ piece) : x ∈ s := by
  induction s generalizing piece with
  | nil =>
      rw [List.splitOn_nil, List.mem_singleton] at h
      exact h ▸ hx
  | cons y ys ih =>
      rw [splitOn_cons] at h
      split at h
      · rcases List.mem_cons.mp h with rfl | h
        · exact absurd hx List.not_mem_nil
        · exact List.mem_cons_of_mem _ (ih h hx)
      · rcases mem_modifyHead_cases h with h | ⟨first, hfirst, rfl⟩
        · exact List.mem_cons_of_mem _ (ih h hx)
        · rcases List.mem_cons.mp hx with rfl | hx
          · exact List.mem_cons_self
          · exact List.mem_cons_of_mem _ (ih hfirst hx)

theorem map_trim_splitOn_intercalate {separator : α} {w : List α} {space : α → Bool}
    (hw : ∀ x ∈ w, space x = true) (hsep : separator ∉ w) {pieces : List (List α)}
    (hne : pieces ≠ []) (hpieces : ∀ piece ∈ pieces, separator ∉ piece) :
    (((separator :: w).intercalate pieces).splitOn separator).map (trim space) =
      pieces.map (trim space) := by
  induction pieces with
  | nil => exact absurd rfl hne
  | cons piece rest ih =>
      have hpiece : separator ∉ piece := hpieces piece List.mem_cons_self
      cases rest with
      | nil => rw [List.intercalate_singleton, List.splitOn_eq_singleton hpiece]
      | cons next rest =>
          have hrest : ∀ p ∈ next :: rest, separator ∉ p := fun p hp =>
            hpieces p (List.mem_cons_of_mem _ hp)
          have hlead : ∀ pieces : List (List α),
              (pieces.modifyHead (w ++ ·)).map (trim space) = pieces.map (trim space) := by
            intro pieces
            cases pieces with
            | nil => rfl
            | cons first others => simp [trim_append_left hw]
          rw [List.intercalate_cons_cons, List.append_assoc, List.cons_append,
            List.splitOn_append_cons_self_of_not_mem hpiece, splitOn_append_left hsep,
            List.map_cons, List.map_cons, hlead, ih (by simp) hrest]

def find (pattern : List α) : List α → Option Nat
  | [] => if pattern = [] then some 0 else none
  | x :: xs => if pattern <+: x :: xs then some 0 else (find pattern xs).map (· + 1)

theorem find_of_prefix {pattern s : List α} (h : pattern <+: s) : find pattern s = some 0 := by
  cases s with
  | nil => rw [find, if_pos (List.prefix_nil.mp h)]
  | cons x xs => rw [find, if_pos h]

theorem find_append {pattern before after : List α}
    (h : ∀ first rest, before = first ++ rest → rest ≠ [] →
      ¬ pattern <+: rest ++ (pattern ++ after)) :
    find pattern (before ++ (pattern ++ after)) = some before.length := by
  induction before with
  | nil => exact find_of_prefix (List.prefix_append pattern after)
  | cons x xs ih =>
      have hhere : ¬ pattern <+: x :: (xs ++ (pattern ++ after)) := h [] (x :: xs) rfl (by simp)
      have hlater := ih fun first rest heq hne =>
        h (x :: first) rest (by rw [heq, List.cons_append]) hne
      rw [List.cons_append, find, if_neg hhere, hlater]
      rfl

end Split

section WhiteSpace

/-- The characters with the Unicode property `White_Space`. -/
def isWhitespace (c : Char) : Bool :=
  (9 ≤ c.val && c.val ≤ 13) || (0x2000 ≤ c.val && c.val ≤ 0x200A) ||
    c.val ∈ [0x20, 0x85, 0xA0, 0x1680, 0x2028, 0x2029, 0x202F, 0x205F, 0x3000]

def trimString (s : String) : String := String.ofList (trim isWhitespace s.toList)

end WhiteSpace

section Case

theorem isUpper_toLower (c : Char) : c.toLower.isUpper = false := by
  by_cases hupper : c.val ≥ 'A'.val ∧ c.val ≤ 'Z'.val
  · have hval : c.toLower.val = c.val + ('a'.val - 'A'.val) := congrArg Char.val (dif_pos hupper)
    refine decide_eq_false ?_
    rintro ⟨-, hle⟩
    rw [hval] at hle
    simp only [ge_iff_le, UInt32.le_iff_toNat_le, UInt32.toNat_add] at hupper hle
    have hA : 'A'.val.toNat = 65 := rfl
    have hZ : 'Z'.val.toNat = 90 := rfl
    have hshift : ('a'.val - 'A'.val).toNat = 32 := rfl
    omega
  · have hsame : c.toLower = c := dif_neg hupper
    rw [hsame]
    exact decide_eq_false hupper

theorem forall_ascii {P : Char → Prop} (h : ∀ n < 128, P (Char.ofNat n)) {c : Char}
    (hc : c.toNat < 128) : P c := by
  have hchar := h c.toNat hc
  rwa [Char.ofNat_toNat] at hchar

theorem toNat_lt_of_le {c last : Char} (hle : c.val ≤ last.val) (hlast : last.toNat < 128) :
    c.toNat < 128 :=
  Nat.lt_of_le_of_lt (UInt32.le_iff_toNat_le.mp hle) hlast

theorem toNat_lt_of_isAlphanum {c : Char} (h : c.isAlphanum = true) : c.toNat < 128 := by
  have hkinds : c.isAlphanum = (c.isUpper || c.isLower || c.isDigit) := rfl
  rw [hkinds, Bool.or_eq_true, Bool.or_eq_true] at h
  rcases h with (hupper | hlower) | hdigit
  · have hle : c.val ≤ 'Z'.val := (of_decide_eq_true hupper).2
    exact toNat_lt_of_le hle (by decide)
  · have hrange : c.isLower = (decide (c.val ≥ 'a'.val) && decide (c.val ≤ 'z'.val)) := rfl
    rw [hrange, Bool.and_eq_true] at hlower
    have hle : c.val ≤ 'z'.val := of_decide_eq_true hlower.2
    exact toNat_lt_of_le hle (by decide)
  · have hrange : c.isDigit = (decide (c.val ≥ '0'.val) && decide (c.val ≤ '9'.val)) := rfl
    rw [hrange, Bool.and_eq_true] at hdigit
    have hle : c.val ≤ '9'.val := of_decide_eq_true hdigit.2
    exact toNat_lt_of_le hle (by decide)

theorem toUpper_eq_self {c : Char} (h : 128 ≤ c.toNat) : c.toUpper = c := by
  refine dif_neg ?_
  rintro ⟨-, hle⟩
  have hle : c.val ≤ 'z'.val := hle
  exact absurd (toNat_lt_of_le hle (by decide)) (Nat.not_lt.mpr h)

theorem isAlphanum_toUpper (c : Char) : c.toUpper.isAlphanum = c.isAlphanum := by
  by_cases hc : c.toNat < 128
  · exact forall_ascii (P := fun c => c.toUpper.isAlphanum = c.isAlphanum) (by decide) hc
  · rw [toUpper_eq_self (Nat.not_lt.mp hc)]

theorem toUpper_toUpper (c : Char) : c.toUpper.toUpper = c.toUpper := by
  by_cases hc : c.toNat < 128
  · exact forall_ascii (P := fun c => c.toUpper.toUpper = c.toUpper) (by decide) hc
  · rw [toUpper_eq_self (Nat.not_lt.mp hc), toUpper_eq_self (Nat.not_lt.mp hc)]

/-- A way of writing texts in lower case. Which characters of other scripts it replaces, and by how
many, is left open. -/
structure Lowercase where
  apply : List Char → List Char
  ascii : ∀ text, (∀ c ∈ text, c.toNat < 128) → apply text = text.map Char.toLower
  lower : ∀ text, ∀ c ∈ apply text, c.isUpper = false

/-- A way of writing single characters in lower case. Beyond ASCII it only leaves characters of the
kind, but for the dotted capital I and the kelvin sign. -/
structure CharLowercase where
  apply : Char → List Char
  ascii : ∀ c, c.toNat < 128 → apply c = [c.toLower]
  other : ∀ c, 128 ≤ c.toNat →
    apply c ≠ [] ∧ ∀ d ∈ apply c, 128 ≤ d.toNat ∨ d = 'i' ∨ d = 'k'

end Case

end Text
