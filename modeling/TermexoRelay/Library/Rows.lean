import TermexoRelay.Library.Table

/-!
# Rows under a primary key

A database table holds each row under the row's own key. Inserting refuses a key that is taken,
an update rewrites the rows that satisfy a condition and keeps their keys, and a deletion drops
the rows that satisfy one.
-/

/-- A table in which every row is filed under its own key. -/
structure Rows {κ ν : Type*} [DecidableEq κ] (key : ν → κ) where
  table : Table κ ν
  keyed : ∀ k v, table.lookup k = some v → key v = k

namespace Rows

variable {κ ν : Type*} [DecidableEq κ] {key : ν → κ}

instance [DecidableEq ν] : DecidableEq (Rows key) := fun a b =>
  decidable_of_iff (a.table = b.table) ⟨fun h => by cases a; cases b; cases h; rfl, congrArg _⟩

def empty : Rows key where
  table := ∅
  keyed k v h := by
    rw [AList.lookup_empty] at h
    cases h

def find (rows : Rows key) (k : κ) : Option ν := rows.table.lookup k

theorem key_of_find {rows : Rows key} {k : κ} {v : ν} (h : rows.find k = some v) : key v = k :=
  rows.keyed k v h

def findWhere (p : ν → Bool) (rows : Rows key) : Option ν := rows.table.rows.find? p

theorem findWhere_eq_some {p : ν → Bool} {rows : Rows key} {row : ν}
    (h : rows.findWhere p = some row) : rows.find (key row) = some row ∧ p row = true := by
  obtain ⟨k, hk⟩ := Table.mem_rows.mp (List.mem_of_find?_eq_some h)
  rw [key_of_find hk]
  exact ⟨hk, List.find?_some h⟩

theorem findWhere_of_unique {p : ν → Bool} {rows : Rows key} {k : κ} {row : ν}
    (hrow : rows.find k = some row) (hp : p row = true)
    (hunique : ∀ k' other, rows.find k' = some other → p other = true → k' = k) :
    rows.findWhere p = some row := by
  cases hfind : rows.findWhere p with
  | none =>
      have hnone := List.find?_eq_none.mp hfind row (Table.mem_rows.mpr ⟨k, hrow⟩)
      exact absurd hp hnone
  | some other =>
      obtain ⟨hother, hpother⟩ := findWhere_eq_some hfind
      have hk := hunique _ other hother hpother
      rw [hk, hrow] at hother
      exact hother.symm

def anyRow (p : ν → Bool) (rows : Rows key) : Bool := rows.table.rows.any p

theorem anyRow_eq_false {p : ν → Bool} {rows : Rows key} :
    rows.anyRow p = false ↔ ∀ k v, rows.find k = some v → p v = false := by
  simp only [anyRow, List.any_eq_false, Table.mem_rows, find]
  constructor
  · intro h k v hv
    simpa using h v ⟨k, hv⟩
  · rintro h v ⟨k, hv⟩
    simp [h k v hv]

theorem anyRow_iff {p : ν → Bool} {rows : Rows key} :
    rows.anyRow p = true ↔ ∃ k v, rows.find k = some v ∧ p v = true := by
  simp only [anyRow, List.any_eq_true, Table.mem_rows, find]
  constructor
  · rintro ⟨v, ⟨k, hv⟩, hp⟩
    exact ⟨k, v, hv, hp⟩
  · rintro ⟨k, v, hv, hp⟩
    exact ⟨v, ⟨k, hv⟩, hp⟩

def keysWhere (p : ν → Bool) (rows : Rows key) : List κ := rows.table.keysWhere fun _ v => p v

theorem mem_keysWhere {p : ν → Bool} {rows : Rows key} {k : κ} :
    k ∈ rows.keysWhere p ↔ ∃ v, rows.find k = some v ∧ p v = true :=
  Table.mem_keysWhere

theorem nodup_keysWhere (p : ν → Bool) (rows : Rows key) : (rows.keysWhere p).Nodup :=
  rows.table.nodupKeys.sublist List.filter_sublist

/-- `none` when the key is taken. -/
def insert (row : ν) (rows : Rows key) : Option (Rows key) :=
  if (rows.find (key row)).isSome then none
  else some
    { table := rows.table.insert (key row) row
      keyed := fun k v h => by
        rcases Table.lookup_insert_cases h with ⟨rfl, rfl⟩ | ⟨-, h⟩
        · rfl
        · exact rows.keyed k v h }

theorem insert_eq_some {row : ν} {rows rows' : Rows key} (h : rows.insert row = some rows') :
    rows.find (key row) = none ∧
      ∀ k, rows'.find k = if k = key row then some row else rows.find k := by
  unfold insert at h
  split at h
  · cases h
  · next hfree =>
      refine ⟨by simpa using hfree, fun k => ?_⟩
      rw [← Option.some.inj h]
      by_cases hk : k = key row
      · rw [if_pos hk, hk]
        exact AList.lookup_insert _
      · rw [if_neg hk]
        exact AList.lookup_insert_ne hk

theorem insert_of_free (row : ν) {rows : Rows key} (h : rows.find (key row) = none) :
    ∃ rows', rows.insert row = some rows' := by
  rw [insert, h]
  exact ⟨_, rfl⟩

def update (p : ν → Bool) (f : ν → ν) (hf : ∀ v, key (f v) = key v) (rows : Rows key) :
    Rows key where
  table := rows.table.update fun _ v => if p v then f v else v
  keyed k v h := by
    obtain ⟨w, hw, rfl⟩ := Table.lookup_update_eq_some.mp h
    split
    · exact (hf w).trans (rows.keyed k w hw)
    · exact rows.keyed k w hw

@[simp] theorem find_update (p : ν → Bool) (f : ν → ν) (hf : ∀ v, key (f v) = key v)
    (rows : Rows key) (k : κ) :
    (rows.update p f hf).find k = (rows.find k).map fun v => if p v then f v else v :=
  Table.lookup_update _ _ _

theorem map_find_update {γ : Type*} {g : ν → γ} {p : ν → Bool} {f : ν → ν}
    (hf : ∀ v, key (f v) = key v) (hg : ∀ v, g (f v) = g v) (rows : Rows key) (k : κ) :
    ((rows.update p f hf).find k).map g = (rows.find k).map g := by
  rw [find_update, Option.map_map]
  congr 1
  funext v
  rw [Function.comp_apply]
  split
  · exact hg v
  · rfl

/-- The row under one key is rewritten and every other row is kept. -/
def Patched (k : κ) (f : ν → ν) (rows rows' : Rows key) : Prop :=
  ∀ k', rows'.find k' = (rows.find k').map fun v => if key v = k then f v else v

theorem Patched.refl (k : κ) (rows : Rows key) : Patched k id rows rows := by
  intro k'
  cases rows.find k' <;> simp

theorem Patched.trans {k : κ} {f g : ν → ν} {rows rows' rows'' : Rows key}
    (hf : ∀ v, key (f v) = key v) (h : Patched k f rows rows') (h' : Patched k g rows' rows'') :
    Patched k (g ∘ f) rows rows'' := by
  intro k'
  rw [h' k', h k', Option.map_map]
  congr 1
  funext v
  by_cases hv : key v = k
  · simp [hv, hf v]
  · simp [hv]

theorem patched_update (k : κ) (f : ν → ν) (hf : ∀ v, key (f v) = key v) (rows : Rows key) :
    Patched k f rows (rows.update (fun v => key v = k) f hf) := by
  intro k'
  rw [find_update]
  simp

def delete (p : ν → Bool) (rows : Rows key) : Rows key where
  table := rows.table.retain fun _ v => !p v
  keyed k v h := rows.keyed k v (Table.lookup_retain_eq_some.mp h).1

@[simp] theorem find_delete (p : ν → Bool) (rows : Rows key) (k : κ) :
    (rows.delete p).find k = (rows.find k).filter fun v => !p v :=
  Table.lookup_retain _ _ _

end Rows
