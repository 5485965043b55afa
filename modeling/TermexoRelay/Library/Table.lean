import Mathlib.Data.List.AList

/-!
# Finite tables

A hash map or a database table is an association list with distinct keys. Mathlib's `AList`
has lookup, insertion and removal; this module adds the bulk operations (retaining, updating
and listing rows) with what each of them does to a lookup.
-/

/-- A finite map from `κ` to `ν`. -/
abbrev Table (κ ν : Type*) := AList fun _ : κ => ν

namespace Table

variable {κ ν : Type*}

theorem lookup_eq_some_iff [DecidableEq κ] {t : Table κ ν} {k : κ} {v : ν} :
    t.lookup k = some v ↔ ⟨k, v⟩ ∈ t.entries :=
  AList.mem_lookup_iff (β := fun _ : κ => ν)

theorem lookup_insert_cases [DecidableEq κ] {t : Table κ ν} {k k' : κ} {v w : ν}
    (h : (t.insert k v).lookup k' = some w) :
    (k' = k ∧ w = v) ∨ (k' ≠ k ∧ t.lookup k' = some w) := by
  by_cases hk : k' = k
  · subst hk
    rw [AList.lookup_insert, Option.some.injEq] at h
    exact .inl ⟨rfl, h.symm⟩
  · rw [AList.lookup_insert_ne hk] at h
    exact .inr ⟨hk, h⟩

theorem lookup_erase_cases [DecidableEq κ] {t : Table κ ν} {k k' : κ} {w : ν}
    (h : (t.erase k).lookup k' = some w) : k' ≠ k ∧ t.lookup k' = some w := by
  by_cases hk : k' = k
  · subst hk
    rw [AList.lookup_erase] at h
    cases h
  · rw [AList.lookup_erase_ne hk] at h
    exact ⟨hk, h⟩

def rows (t : Table κ ν) : List ν := t.entries.map Sigma.snd

theorem mem_rows [DecidableEq κ] {t : Table κ ν} {v : ν} :
    v ∈ t.rows ↔ ∃ k, t.lookup k = some v := by
  simp only [rows, List.mem_map, lookup_eq_some_iff]
  constructor
  · rintro ⟨⟨k, _⟩, hm, rfl⟩
    exact ⟨k, hm⟩
  · rintro ⟨k, hm⟩
    exact ⟨⟨k, v⟩, hm, rfl⟩

def retain (p : κ → ν → Bool) (t : Table κ ν) : Table κ ν where
  entries := t.entries.filter fun e => p e.1 e.2
  nodupKeys := t.nodupKeys.sublist List.filter_sublist

theorem lookup_retain_eq_some [DecidableEq κ] {p : κ → ν → Bool} {t : Table κ ν} {k : κ} {v : ν} :
    (t.retain p).lookup k = some v ↔ t.lookup k = some v ∧ p k v = true := by
  simp only [lookup_eq_some_iff, retain, List.mem_filter]

theorem lookup_retain [DecidableEq κ] (p : κ → ν → Bool) (t : Table κ ν) (k : κ) :
    (t.retain p).lookup k = (t.lookup k).filter (p k) :=
  Option.ext fun v => by rw [lookup_retain_eq_some, Option.filter_eq_some_iff]

def keysWhere (p : κ → ν → Bool) (t : Table κ ν) : List κ :=
  (t.entries.filter fun e => p e.1 e.2).map Sigma.fst

theorem mem_keysWhere [DecidableEq κ] {p : κ → ν → Bool} {t : Table κ ν} {k : κ} :
    k ∈ t.keysWhere p ↔ ∃ v, t.lookup k = some v ∧ p k v = true := by
  simp only [keysWhere, List.mem_map, List.mem_filter, lookup_eq_some_iff]
  constructor
  · rintro ⟨⟨_, v⟩, hm, rfl⟩
    exact ⟨v, hm⟩
  · rintro ⟨v, hm⟩
    exact ⟨⟨k, v⟩, hm, rfl⟩

def eraseAll [DecidableEq κ] (ks : List κ) (t : Table κ ν) : Table κ ν :=
  t.retain fun k _ => k ∉ ks

theorem lookup_eraseAll [DecidableEq κ] (ks : List κ) (t : Table κ ν) (k : κ) :
    (t.eraseAll ks).lookup k = if k ∈ ks then none else t.lookup k := by
  rw [eraseAll, lookup_retain]
  by_cases hk : k ∈ ks <;> cases t.lookup k <;> simp [hk]

def update (f : κ → ν → ν) (t : Table κ ν) : Table κ ν where
  entries := t.entries.map fun e => ⟨e.1, f e.1 e.2⟩
  nodupKeys := by
    have hkeys : (t.entries.map fun e => (⟨e.1, f e.1 e.2⟩ : Σ _ : κ, ν)).keys =
        t.entries.keys := by
      simp [List.keys, Function.comp_def]
    rw [List.NodupKeys, hkeys]
    exact t.nodupKeys

theorem lookup_update_eq_some [DecidableEq κ] {f : κ → ν → ν} {t : Table κ ν} {k : κ} {w : ν} :
    (t.update f).lookup k = some w ↔ ∃ v, t.lookup k = some v ∧ w = f k v := by
  simp only [lookup_eq_some_iff, update, List.mem_map]
  constructor
  · rintro ⟨⟨k', v⟩, hm, he⟩
    cases he
    exact ⟨v, hm, rfl⟩
  · rintro ⟨v, hm, rfl⟩
    exact ⟨⟨k, v⟩, hm, rfl⟩

theorem lookup_update [DecidableEq κ] (f : κ → ν → ν) (t : Table κ ν) (k : κ) :
    (t.update f).lookup k = (t.lookup k).map (f k) :=
  Option.ext fun w => by
    rw [lookup_update_eq_some, Option.map_eq_some_iff]
    exact exists_congr fun v => and_congr_right fun _ => eq_comm

theorem map_rows_of_keyed [DecidableEq κ] {t : Table κ ν} {key : ν → κ}
    (hkeyed : ∀ k v, t.lookup k = some v → key v = k) : t.rows.map key = t.keys := by
  rw [rows, AList.keys, List.keys, List.map_map]
  refine List.map_congr_left fun e he => ?_
  exact hkeyed e.1 e.2 (lookup_eq_some_iff.mpr he)

theorem map_filterMap_lookup [DecidableEq κ] {t : Table κ ν} {key : ν → κ}
    (hkeyed : ∀ k v, t.lookup k = some v → key v = k) {ks : List κ}
    (h : ∀ k ∈ ks, (t.lookup k).isSome = true) :
    (ks.filterMap fun k => t.lookup k).map key = ks := by
  induction ks with
  | nil => rfl
  | cons k ks ih =>
      obtain ⟨v, hv⟩ := Option.isSome_iff_exists.mp (h k List.mem_cons_self)
      rw [List.filterMap_cons, hv, List.map_cons, hkeyed k v hv,
        ih fun other hother => h other (List.mem_cons_of_mem _ hother)]

/-- Collect pairs; a later one overwrites an earlier one under the same key. -/
def collect [DecidableEq κ] (pairs : List (κ × ν)) : Table κ ν :=
  pairs.foldl (fun t pair => t.insert pair.1 pair.2) ∅

private theorem lookup_foldl_insert [DecidableEq κ] {pairs : List (κ × ν)}
    (hkeys : (pairs.map Prod.fst).Nodup) (t : Table κ ν) (k : κ) :
    (pairs.foldl (fun t pair => t.insert pair.1 pair.2) t).lookup k =
      ((pairs.find? fun pair => pair.1 = k).map Prod.snd).or (t.lookup k) := by
  induction pairs generalizing t with
  | nil => rfl
  | cons pair pairs ih =>
      rw [List.map_cons, List.nodup_cons] at hkeys
      rw [List.foldl_cons, ih hkeys.2]
      by_cases hk : pair.1 = k
      · subst hk
        have hnone : pairs.find? (fun other => other.1 = pair.1) = none := by
          rw [List.find?_eq_none]
          intro other hother heq
          exact hkeys.1 (List.mem_map.mpr ⟨other, hother, of_decide_eq_true heq⟩)
        simp [hnone]
      · rw [List.find?_cons_of_neg (by simpa using hk), AList.lookup_insert_ne (Ne.symm hk)]

theorem lookup_collect [DecidableEq κ] {pairs : List (κ × ν)}
    (hkeys : (pairs.map Prod.fst).Nodup) {k : κ} {v : ν} :
    (collect pairs).lookup k = some v ↔ (k, v) ∈ pairs := by
  rw [collect, lookup_foldl_insert hkeys, AList.lookup_empty, Option.or_none,
    Option.map_eq_some_iff]
  constructor
  · rintro ⟨⟨k', v'⟩, hfind, rfl⟩
    obtain rfl : k' = k := by simpa using List.find?_some hfind
    exact List.mem_of_find?_eq_some hfind
  · intro hmem
    cases hfind : pairs.find? fun pair => pair.1 = k with
    | none => exact absurd (decide_eq_true rfl) (List.find?_eq_none.mp hfind (k, v) hmem)
    | some pair =>
        have hk : pair.1 = k := by simpa using List.find?_some hfind
        have hpair := List.inj_on_of_nodup_map hkeys (List.mem_of_find?_eq_some hfind) hmem hk
        exact ⟨pair, rfl, congrArg Prod.snd hpair⟩

end Table
