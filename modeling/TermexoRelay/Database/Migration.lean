import TermexoRelay.Library.Guarded
import Mathlib.Data.List.Nodup
import Mathlib.Logic.Function.Basic

/-!
# Bringing a database up to date

There is no version table: every statement runs on every start, guarded so that it does nothing the
second time. Each statement is committed on its own, so a start that is cut short leaves some of
them behind. Names are compared as they are written; the database was made by an earlier start.
-/

namespace TermexoRelay

open Guarded

inductive SqlValue where
  | null
  | integer (value : Int)
  | text (value : String)
deriving DecidableEq, Repr

structure Column where
  name : String
  declaration : String
  default : SqlValue
deriving DecidableEq, Repr

def Column.nullable (name declaration : String) : Column := ⟨name, declaration, .null⟩

/-- A table whose rows have a value for every column. -/
structure SqlTable where
  columns : List Column
  rows : List (List SqlValue)
  width : ∀ row ∈ rows, row.length = columns.length

namespace SqlTable

def empty (columns : List Column) : SqlTable where
  columns := columns
  rows := []
  width := by simp

def names (table : SqlTable) : List String := table.columns.map Column.name

/-- Every row gets the defaults of the columns that are added. -/
def extend (table : SqlTable) (added : List Column) : SqlTable where
  columns := table.columns ++ added
  rows := table.rows.map fun row => row ++ added.map Column.default
  width := by
    intro row hrow
    obtain ⟨row', hmem, rfl⟩ := List.mem_map.mp hrow
    simp [table.width row' hmem]

def ensure (table : SqlTable) (column : Column) : SqlTable :=
  if column.name ∈ table.names then table else table.extend [column]

end SqlTable

@[ext] structure Schema where
  tables : String → Option SqlTable
  indexes : String → Option (String × String)

inductive SqlError where
  | noSuchTable (table : String)
  | noSuchColumn (column : String)
deriving DecidableEq, Repr

inductive Statement where
  | createTable (name : String) (columns : List Column)
  | createIndex (name table column : String)
  | ensureColumn (table : String) (column : Column)

namespace Statement

def exec : Statement → Schema → Except SqlError Schema
  | createTable name columns, s =>
      match s.tables name with
      | some _ => .ok s
      | none => .ok { s with tables := Function.update s.tables name (some (.empty columns)) }
  | createIndex name table column, s =>
      match s.indexes name, s.tables table with
      | some _, _ => .ok s
      | none, none => .error (.noSuchTable table)
      | none, some t =>
          if column ∈ t.names then
            .ok { s with indexes := Function.update s.indexes name (some (table, column)) }
          else .error (.noSuchColumn column)
  | ensureColumn table column, s =>
      match s.tables table with
      | none => .error (.noSuchTable table)
      | some t => .ok { s with tables := Function.update s.tables table (some (t.ensure column)) }

end Statement

/-! ## The migration -/

def USERS : List Column :=
  [.nullable "id" "TEXT PRIMARY KEY",
    .nullable "username" "TEXT NOT NULL UNIQUE",
    .nullable "password_hash" "TEXT NOT NULL",
    .nullable "role" "TEXT NOT NULL",
    ⟨"disabled", "INTEGER NOT NULL DEFAULT 0", .integer 0⟩,
    .nullable "created_at" "INTEGER NOT NULL",
    .nullable "last_login_at" "INTEGER"]

def ACCESS : Column := ⟨"access", "TEXT NOT NULL DEFAULT 'public'", .text "public"⟩

def DEVICES : List Column :=
  [.nullable "id" "TEXT PRIMARY KEY",
    .nullable "kind" "TEXT NOT NULL",
    .nullable "name" "TEXT NOT NULL",
    .nullable "owner_user_id" "TEXT REFERENCES users(id)",
    .nullable "secret_hash" "TEXT NOT NULL",
    .nullable "note" "TEXT",
    .nullable "created_at" "INTEGER NOT NULL",
    .nullable "revoked_at" "INTEGER",
    .nullable "last_seen_at" "INTEGER",
    .nullable "last_ip" "TEXT",
    .nullable "last_version" "TEXT",
    ACCESS]

def CANCELLED_AT : Column := .nullable "cancelled_at" "INTEGER"
def CREATED_AT : Column := ⟨"created_at", "INTEGER NOT NULL DEFAULT 0", .integer 0⟩

def ENROLLMENT_CODES : List Column :=
  [.nullable "id" "TEXT PRIMARY KEY",
    .nullable "code_hash" "TEXT NOT NULL UNIQUE",
    .nullable "kind" "TEXT NOT NULL",
    .nullable "owner_user_id" "TEXT",
    .nullable "created_by" "TEXT NOT NULL",
    .nullable "note" "TEXT",
    CREATED_AT,
    .nullable "expires_at" "INTEGER NOT NULL",
    .nullable "used_at" "INTEGER",
    .nullable "used_by_device_id" "TEXT",
    CANCELLED_AT]

def RELAY_SETTINGS : List Column :=
  [.nullable "key" "TEXT PRIMARY KEY",
    .nullable "value" "TEXT NOT NULL",
    .nullable "updated_at" "INTEGER NOT NULL"]

def CONSOLE_SESSIONS : List Column :=
  [.nullable "id" "TEXT PRIMARY KEY",
    .nullable "user_id" "TEXT NOT NULL",
    .nullable "created_at" "INTEGER NOT NULL",
    .nullable "expires_at" "INTEGER NOT NULL",
    .nullable "ip" "TEXT"]

def AUDIT_EVENTS : List Column :=
  [.nullable "id" "INTEGER PRIMARY KEY AUTOINCREMENT",
    .nullable "at" "INTEGER NOT NULL",
    .nullable "actor_kind" "TEXT NOT NULL",
    .nullable "actor_id" "TEXT",
    .nullable "action" "TEXT NOT NULL",
    .nullable "target_kind" "TEXT",
    .nullable "target_id" "TEXT",
    .nullable "ip" "TEXT",
    .nullable "detail" "TEXT"]

def INITIAL_MIGRATION : List Statement :=
  [.createTable "relay_settings" RELAY_SETTINGS,
    .createTable "users" USERS,
    .createTable "devices" DEVICES,
    .createIndex "idx_devices_owner" "devices" "owner_user_id",
    .createTable "enrollment_codes" ENROLLMENT_CODES,
    .createTable "console_sessions" CONSOLE_SESSIONS,
    .createIndex "idx_console_sessions_user" "console_sessions" "user_id",
    .createTable "audit_events" AUDIT_EVENTS,
    .createIndex "idx_audit_events_at" "audit_events" "at",
    .createIndex "idx_audit_events_target" "audit_events" "target_id"]

def MIGRATION : List Statement :=
  INITIAL_MIGRATION ++
    [.ensureColumn "enrollment_codes" CANCELLED_AT,
      .ensureColumn "enrollment_codes" CREATED_AT,
      .ensureColumn "devices" ACCESS]

/-- The schema after a migration, and why it stopped if it did. -/
def migrate (s : Schema) : Schema × Option SqlError := runAll Statement.exec MIGRATION s

/-- Starts that were cut short, each after a number of statements. -/
def migrateInterrupted (stops : List Nat) (s : Schema) : Schema :=
  stops.foldl (fun s k => (runAll Statement.exec (MIGRATION.take k) s).1) s

/-! ## What a statement does -/

namespace SqlTable

variable (table : SqlTable)

theorem extend_nil : table.extend [] = table := by
  cases table
  simp [extend]

theorem extend_extend (added later : List Column) :
    (table.extend added).extend later = table.extend (added ++ later) := by
  simp [extend]

theorem names_extend (added : List Column) :
    (table.extend added).names = table.names ++ added.map Column.name := by
  simp [names, extend]

theorem names_empty (columns : List Column) : (empty columns).names = columns.map Column.name := rfl

theorem mem_names_ensure (column : Column) : column.name ∈ (table.ensure column).names := by
  unfold ensure
  split
  · assumption
  · simp [names_extend]

theorem ensure_of_mem {column : Column} (h : column.name ∈ table.names) :
    table.ensure column = table := if_pos h

end SqlTable

namespace Statement

def onTable (name : String) : Statement → Option SqlTable → Option SqlTable
  | createTable created columns, table =>
      if created = name then some (table.getD (.empty columns)) else table
  | ensureColumn altered column, table =>
      if altered = name then table.map fun table => table.ensure column else table
  | createIndex _ _ _, table => table

def onIndex (name : String) : Statement → Option (String × String) → Option (String × String)
  | createIndex created table column, index =>
      if created = name then some (index.getD (table, column)) else index
  | _, index => index

/-- A statement finds the table and the column it names. -/
def Ready (s : Schema) : Statement → Prop
  | createTable _ _ => True
  | createIndex name table column =>
      (s.indexes name).isSome = true ∨ ∃ t, s.tables table = some t ∧ column ∈ t.names
  | ensureColumn table _ => (s.tables table).isSome = true

end Statement

namespace Schema

/-- What statements make of a schema when none of them fails. -/
def after (s : Schema) (statements : List Statement) : Schema where
  tables name := statements.foldl (fun table statement => statement.onTable name table)
    (s.tables name)
  indexes name := statements.foldl (fun index statement => statement.onIndex name index)
    (s.indexes name)

def Passes (s : Schema) : List Statement → List Statement → Prop
  | _, [] => True
  | before, c :: cs => c.Ready (s.after before) ∧ Passes s (before ++ [c]) cs

theorem after_append (s : Schema) (before cs : List Statement) :
    s.after (before ++ cs) = (s.after before).after cs := by
  simp [after]

end Schema

section Exec

variable {c : Statement} {s s' : Schema}

theorem Schema.after_createTable (name : String) (columns : List Column) :
    s.after [.createTable name columns] = { s with
      tables := Function.update s.tables name (some ((s.tables name).getD (.empty columns))) } := by
  ext1
  · funext n
    by_cases hname : name = n
    · subst hname
      simp [after, Statement.onTable]
    · simp [after, Statement.onTable, hname, Function.update_of_ne (Ne.symm hname)]
  · simp [after, Statement.onIndex]

theorem Schema.after_createIndex (name table column : String) :
    s.after [.createIndex name table column] = { s with
      indexes := Function.update s.indexes name
        (some ((s.indexes name).getD (table, column))) } := by
  ext1
  · simp [after, Statement.onTable]
  · funext n
    by_cases hname : name = n
    · subst hname
      simp [after, Statement.onIndex]
    · simp [after, Statement.onIndex, hname, Function.update_of_ne (Ne.symm hname)]

theorem Schema.after_ensureColumn (table : String) (column : Column) :
    s.after [.ensureColumn table column] = { s with
      tables := Function.update s.tables table
        ((s.tables table).map fun t => t.ensure column) } := by
  ext1
  · funext n
    by_cases hname : table = n
    · subst hname
      simp [after, Statement.onTable]
    · simp [after, Statement.onTable, hname, Function.update_of_ne (Ne.symm hname)]
  · simp [after, Statement.onIndex]

theorem Statement.exec_eq_ok : c.exec s = .ok s' ↔ c.Ready s ∧ s' = s.after [c] := by
  cases c with
  | createTable name columns =>
      rw [Schema.after_createTable]
      cases htable : s.tables name with
      | none => simp [exec, Ready, htable, eq_comm]
      | some table =>
          have hsame : Function.update s.tables name (some table) = s.tables := by
            rw [← htable, Function.update_eq_self]
          simp only [exec, Ready, htable, Except.ok.injEq, true_and, Option.getD_some, hsame]
          exact eq_comm
  | createIndex name table column =>
      rw [Schema.after_createIndex]
      cases hindex : s.indexes name with
      | some index =>
          have hsame : Function.update s.indexes name (some index) = s.indexes := by
            rw [← hindex, Function.update_eq_self]
          simp only [exec, Ready, hindex, Except.ok.injEq, Option.isSome_some, true_or, true_and,
            Option.getD_some, hsame]
          exact eq_comm
      | none =>
          cases htable : s.tables table with
          | none => simp [exec, Ready, hindex, htable]
          | some t =>
              by_cases hcolumn : column ∈ t.names
              · simp [exec, Ready, hindex, htable, hcolumn, eq_comm]
              · simp [exec, Ready, hindex, htable, hcolumn]
  | ensureColumn table column =>
      rw [Schema.after_ensureColumn]
      cases htable : s.tables table with
      | none => simp [exec, Ready, htable]
      | some t => simp [exec, Ready, htable, eq_comm]

theorem runAll_of_passes {before cs : List Statement} (h : s.Passes before cs) :
    runAll Statement.exec cs (s.after before) = (s.after (before ++ cs), none) := by
  induction cs generalizing before with
  | nil => simp
  | cons c cs ih =>
      obtain ⟨hready, hrest⟩ := h
      have hexec : c.exec (s.after before) = .ok (s.after (before ++ [c])) :=
        Statement.exec_eq_ok.mpr ⟨hready, s.after_append before [c]⟩
      rw [runAll_cons_of_ok hexec, ih hrest]
      simp

theorem passes_of_runAll {before cs : List Statement}
    (h : (runAll Statement.exec cs (s.after before)).2 = none) : s.Passes before cs := by
  induction cs generalizing before with
  | nil => trivial
  | cons c cs ih =>
      obtain ⟨s', hexec, hrest⟩ := runAll_snd_eq_none_iff.mp h
      obtain ⟨hready, rfl⟩ := Statement.exec_eq_ok.mp hexec
      rw [← s.after_append] at hrest
      exact ⟨hready, ih hrest⟩

theorem Statement.onTable_some (c : Statement) (name : String) (table : SqlTable) :
    ∃ added, c.onTable name (some table) = some (table.extend added) := by
  have hsame : ∃ added, some table = some (table.extend added) := ⟨[], by rw [table.extend_nil]⟩
  cases c with
  | createTable created columns =>
      simp only [onTable, Option.getD_some, ite_self]
      exact hsame
  | createIndex created indexed column => exact hsame
  | ensureColumn altered column =>
      simp only [onTable, Option.map_some, SqlTable.ensure]
      split
      · split
        · exact hsame
        · exact ⟨[column], rfl⟩
      · exact hsame

theorem Schema.after_tables_some (cs : List Statement) {name : String} {table : SqlTable}
    (h : s.tables name = some table) :
    ∃ added, (s.after cs).tables name = some (table.extend added) := by
  simp only [after, h]
  clear h
  induction cs generalizing table with
  | nil => exact ⟨[], by rw [table.extend_nil]; rfl⟩
  | cons c cs ih =>
      obtain ⟨added, hadded⟩ := c.onTable_some name table
      obtain ⟨later, hlater⟩ := @ih (table.extend added)
      rw [List.foldl_cons, hadded, hlater, table.extend_extend]
      exact ⟨added ++ later, rfl⟩

theorem Schema.after_indexes_some (cs : List Statement) {name : String} {index : String × String}
    (h : s.indexes name = some index) : (s.after cs).indexes name = some index := by
  simp only [after, h]
  induction cs with
  | nil => rfl
  | cons c cs ih =>
      have hsame : c.onIndex name (some index) = some index := by
        cases c <;> simp [Statement.onIndex]
      rw [List.foldl_cons, hsame, ih]

/-- There is nothing left to do for a statement. -/
def Statement.Settled (s : Schema) : Statement → Prop
  | createTable name _ => (s.tables name).isSome = true
  | createIndex name _ _ => (s.indexes name).isSome = true
  | ensureColumn table column => ∃ t, s.tables table = some t ∧ column.name ∈ t.names

theorem Statement.settled_after (h : c.Ready s) : c.Settled (s.after [c]) := by
  cases c with
  | createTable name columns => simp [Settled, Schema.after_createTable]
  | createIndex name table column => simp [Settled, Schema.after_createIndex]
  | ensureColumn table column =>
      obtain ⟨t, ht⟩ := Option.isSome_iff_exists.mp h
      refine ⟨t.ensure column, ?_, t.mem_names_ensure column⟩
      simp [Schema.after_ensureColumn, ht]

theorem Statement.Settled.after (h : c.Settled s) (cs : List Statement) :
    c.Settled (s.after cs) := by
  cases c with
  | createTable name columns =>
      obtain ⟨t, ht⟩ := Option.isSome_iff_exists.mp h
      obtain ⟨added, hadded⟩ := Schema.after_tables_some cs ht
      simp [Settled, hadded]
  | createIndex name table column =>
      obtain ⟨index, hindex⟩ := Option.isSome_iff_exists.mp h
      simp [Settled, Schema.after_indexes_some cs hindex]
  | ensureColumn table column =>
      obtain ⟨t, ht, hcolumn⟩ := h
      obtain ⟨added, hadded⟩ := Schema.after_tables_some cs ht
      refine ⟨t.extend added, hadded, ?_⟩
      rw [t.names_extend]
      exact List.mem_append_left _ hcolumn

theorem Statement.done_iff_settled : Done exec c s ↔ c.Settled s := by
  constructor
  · intro h
    obtain ⟨hready, hafter⟩ := exec_eq_ok.mp h
    have hsettled := settled_after hready
    rwa [← hafter] at hsettled
  · intro h
    rw [Done, exec_eq_ok]
    cases c with
    | createTable name columns =>
        obtain ⟨t, ht⟩ := Option.isSome_iff_exists.mp h
        refine ⟨trivial, ?_⟩
        rw [Schema.after_createTable, ht, Option.getD_some, ← ht, Function.update_eq_self]
    | createIndex name table column =>
        obtain ⟨index, hindex⟩ := Option.isSome_iff_exists.mp h
        refine ⟨.inl h, ?_⟩
        rw [Schema.after_createIndex, hindex, Option.getD_some, ← hindex, Function.update_eq_self]
    | ensureColumn table column =>
        obtain ⟨t, ht, hcolumn⟩ := h
        refine ⟨Option.isSome_of_eq_some ht, ?_⟩
        rw [Schema.after_ensureColumn, ht, Option.map_some, t.ensure_of_mem hcolumn, ← ht,
          Function.update_eq_self]

theorem settles_exec : Settles Statement.exec where
  settled c s s' h := by
    obtain ⟨hready, rfl⟩ := Statement.exec_eq_ok.mp h
    exact Statement.done_iff_settled.mpr (Statement.settled_after hready)
  kept c d s s' hdone h := by
    obtain ⟨-, rfl⟩ := Statement.exec_eq_ok.mp h
    exact Statement.done_iff_settled.mpr ((Statement.done_iff_settled.mp hdone).after [d])

end Exec

/-! ## What a migration comes to -/

def laterColumns (name : String) : List Column :=
  MIGRATION.filterMap fun
    | .ensureColumn table column => if table = name then some column else none
    | _ => none

def migratedTable (name : String) (columns : List Column) : Option SqlTable → SqlTable
  | none => .empty columns
  | some table =>
      table.extend ((laterColumns name).filter fun column => column.name ∉ table.names)

/-- What an earlier version left: its tables lack some of the columns that were added since. -/
def Schema.Earlier (s : Schema) : Prop :=
  ∀ name columns table, .createTable name columns ∈ MIGRATION → s.tables name = some table →
    ∃ missing, (∀ column ∈ missing, column ∈ laterColumns name) ∧
      (table.columns ++ missing).Perm columns

section Migration

variable {s : Schema} {name : String} {columns : List Column}

theorem mem_names_getD {column : String} {table : Option SqlTable}
    (h : column ∈ columns.map Column.name) :
    column ∈ (table.getD (.empty columns)).names ↔ ∀ t, table = some t → column ∈ t.names := by
  cases table with
  | none => simpa [SqlTable.names_empty] using h
  | some t => simp

/-- Creating the tables never fails, and adding a column never does; an index needs its column. -/
theorem passes_migration : s.Passes [] MIGRATION ↔ ∀ name table column,
    .createIndex name table column ∈ MIGRATION →
      (s.indexes name).isSome = true ∨ ∀ t, s.tables table = some t → column ∈ t.names := by
  have hpasses : s.Passes [] MIGRATION ↔
      ((s.indexes "idx_devices_owner").isSome = true ∨
        "owner_user_id" ∈ ((s.tables "devices").getD (.empty DEVICES)).names) ∧
      ((s.indexes "idx_console_sessions_user").isSome = true ∨
        "user_id" ∈ ((s.tables "console_sessions").getD (.empty CONSOLE_SESSIONS)).names) ∧
      ((s.indexes "idx_audit_events_at").isSome = true ∨
        "at" ∈ ((s.tables "audit_events").getD (.empty AUDIT_EVENTS)).names) ∧
      ((s.indexes "idx_audit_events_target").isSome = true ∨
        "target_id" ∈ ((s.tables "audit_events").getD (.empty AUDIT_EVENTS)).names) := by
    simp [MIGRATION, INITIAL_MIGRATION, Schema.Passes, Statement.Ready, Schema.after,
      Statement.onTable, Statement.onIndex]
  rw [hpasses, mem_names_getD (by decide), mem_names_getD (by decide), mem_names_getD (by decide),
    mem_names_getD (by decide)]
  constructor
  · rintro ⟨howner, huser, hat, htarget⟩ name table column h
    simp only [MIGRATION, INITIAL_MIGRATION, List.mem_append, List.mem_cons, List.not_mem_nil,
      reduceCtorEq, false_or, or_false, Statement.createIndex.injEq] at h
    rcases h with ⟨rfl, rfl, rfl⟩ | ⟨rfl, rfl, rfl⟩ | ⟨rfl, rfl, rfl⟩ | ⟨rfl, rfl, rfl⟩
    · exact howner
    · exact huser
    · exact hat
    · exact htarget
  · intro h
    refine ⟨h _ _ _ ?_, h _ _ _ ?_, h _ _ _ ?_, h _ _ _ ?_⟩ <;>
      simp [MIGRATION, INITIAL_MIGRATION]

theorem SqlTable.foldl_ensure {later : List Column} (hnodup : (later.map Column.name).Nodup)
    (table : SqlTable) : later.foldl SqlTable.ensure table =
      table.extend (later.filter fun column => column.name ∉ table.names) := by
  induction later generalizing table with
  | nil => exact table.extend_nil.symm
  | cons column later ih =>
      rw [List.map_cons, List.nodup_cons] at hnodup
      rw [List.foldl_cons, ih hnodup.2]
      by_cases hcolumn : column.name ∈ table.names
      · rw [table.ensure_of_mem hcolumn]
        simp [hcolumn]
      · have hensure : table.ensure column = table.extend [column] := if_neg hcolumn
        have hrest : (later.filter fun c => c.name ∉ (table.extend [column]).names) =
            later.filter fun c => c.name ∉ table.names := by
          apply List.filter_congr
          intro c hc
          have hne : c.name ≠ column.name := by
            intro heq
            apply hnodup.1
            rw [← heq]
            exact List.mem_map_of_mem hc
          simp [table.names_extend, hne]
        rw [hensure, hrest, table.extend_extend]
        simp [hcolumn]

theorem declared (h : .createTable name columns ∈ MIGRATION) :
    (columns.map Column.name).Nodup ∧ ((laterColumns name).map Column.name).Nodup ∧
      (∀ column ∈ laterColumns name, column ∈ columns) ∧
      ∀ s : Schema, (s.after MIGRATION).tables name = some ((laterColumns name).foldl
        SqlTable.ensure ((s.tables name).getD (.empty columns))) := by
  simp only [MIGRATION, INITIAL_MIGRATION, List.mem_append, List.mem_cons, List.not_mem_nil,
    reduceCtorEq, false_or, or_false, Statement.createTable.injEq] at h
  rcases h with ⟨rfl, rfl⟩ | ⟨rfl, rfl⟩ | ⟨rfl, rfl⟩ | ⟨rfl, rfl⟩ | ⟨rfl, rfl⟩ | ⟨rfl, rfl⟩ <;>
    refine ⟨by decide, by decide, by decide, fun s => ?_⟩ <;>
    simp [Schema.after, MIGRATION, INITIAL_MIGRATION, Statement.onTable, laterColumns]

theorem tables_migration (h : .createTable name columns ∈ MIGRATION) (s : Schema) :
    (s.after MIGRATION).tables name = some (migratedTable name columns (s.tables name)) := by
  obtain ⟨-, hnodup, hdeclared, htable⟩ := declared h
  rw [htable]
  cases hbefore : s.tables name with
  | none =>
      have hnothing : ((laterColumns name).filter fun column =>
          column.name ∉ (SqlTable.empty columns).names) = [] := by
        rw [List.filter_eq_nil_iff]
        intro column hcolumn
        simpa [SqlTable.names_empty] using ⟨column, hdeclared column hcolumn, rfl⟩
      rw [Option.getD_none, SqlTable.foldl_ensure hnodup, hnothing, SqlTable.extend_nil]
      rfl
  | some table =>
      rw [Option.getD_some, SqlTable.foldl_ensure hnodup]
      rfl

theorem perm_of_earlier {table : SqlTable} {missing : List Column}
    (h : .createTable name columns ∈ MIGRATION)
    (hmissing : ∀ column ∈ missing, column ∈ laterColumns name)
    (hperm : (table.columns ++ missing).Perm columns) :
    (migratedTable name columns (some table)).columns.Perm columns := by
  obtain ⟨hnodup, hlater, hdeclared, -⟩ := declared h
  have hnames : (table.names ++ missing.map Column.name).Nodup := by
    have hmap := hperm.map Column.name
    rw [List.map_append] at hmap
    exact hmap.nodup_iff.mpr hnodup
  have hadded : ((laterColumns name).filter fun column => column.name ∉ table.names).Perm
      missing := by
    rw [List.perm_ext_iff_of_nodup ((List.Nodup.of_map Column.name hlater).filter _)
      (List.Nodup.of_map Column.name (List.nodup_append.mp hnames).2.1)]
    intro column
    simp only [List.mem_filter, decide_eq_true_eq]
    constructor
    · rintro ⟨hcolumn, habsent⟩
      have hmem := hperm.mem_iff.mpr (hdeclared column hcolumn)
      rcases List.mem_append.mp hmem with hmem | hmem
      · exact absurd (List.mem_map_of_mem hmem) habsent
      · exact hmem
    · intro hcolumn
      refine ⟨hmissing column hcolumn, fun hpresent => ?_⟩
      exact (List.nodup_append.mp hnames).2.2 _ hpresent _ (List.mem_map_of_mem hcolumn) rfl
  exact (hadded.append_left table.columns).trans hperm

theorem indexed_columns {index table column : String}
    (h : .createIndex index table column ∈ MIGRATION) :
    ∃ columns, .createTable table columns ∈ MIGRATION ∧ column ∈ columns.map Column.name ∧
      column ∉ (laterColumns table).map Column.name := by
  simp only [MIGRATION, INITIAL_MIGRATION, List.mem_append, List.mem_cons, List.not_mem_nil,
    reduceCtorEq, false_or, or_false, Statement.createIndex.injEq] at h
  rcases h with ⟨rfl, rfl, rfl⟩ | ⟨rfl, rfl, rfl⟩ | ⟨rfl, rfl, rfl⟩ | ⟨rfl, rfl, rfl⟩
  · exact ⟨DEVICES, by simp [MIGRATION, INITIAL_MIGRATION], by decide, by decide⟩
  · exact ⟨CONSOLE_SESSIONS, by simp [MIGRATION, INITIAL_MIGRATION], by decide, by decide⟩
  · exact ⟨AUDIT_EVENTS, by simp [MIGRATION, INITIAL_MIGRATION], by decide, by decide⟩
  · exact ⟨AUDIT_EVENTS, by simp [MIGRATION, INITIAL_MIGRATION], by decide, by decide⟩

theorem Schema.Earlier.passes (h : s.Earlier) : s.Passes [] MIGRATION := by
  rw [passes_migration]
  intro index name column hindex
  right
  intro table htable
  obtain ⟨columns, hdeclared, hcolumn, hlater⟩ := indexed_columns hindex
  obtain ⟨missing, hmissing, hperm⟩ := h name columns table hdeclared htable
  have hmem := (hperm.map Column.name).mem_iff.mpr hcolumn
  rw [List.map_append, List.mem_append] at hmem
  rcases hmem with hmem | hmem
  · exact hmem
  · obtain ⟨c, hc, rfl⟩ := List.mem_map.mp hmem
    exact absurd (List.mem_map_of_mem (hmissing c hc)) hlater

theorem migrate_of_passes (h : s.Passes [] MIGRATION) : migrate s = (s.after MIGRATION, none) :=
  runAll_of_passes h

end Migration

/-- However many starts were cut short, and wherever, a migration ends as if it had been the first.
It fails only where an index is missing and an existing table lacks its column. Otherwise every
table is there: one that was there before keeps its columns and its rows, and gets the later columns
it lacks, with their defaults in every row. The tables of an earlier version come to have every
declared column exactly once. -/
theorem migrate_converges (s : Schema) (stops : List Nat) :
    migrate (migrateInterrupted stops s) = migrate s ∧
    ((migrate s).2 = none ↔ ∀ name table column, .createIndex name table column ∈ MIGRATION →
      (s.indexes name).isSome = true ∨ ∀ t, s.tables table = some t → column ∈ t.names) ∧
    ((migrate s).2 = none → ∀ name columns, .createTable name columns ∈ MIGRATION →
      (migrate s).1.tables name = some (migratedTable name columns (s.tables name))) ∧
    (s.Earlier → (migrate s).2 = none ∧ ∀ name columns, .createTable name columns ∈ MIGRATION →
      ∃ table, (migrate s).1.tables name = some table ∧ table.columns.Perm columns) := by
  have hpasses : (migrate s).2 = none ↔ s.Passes [] MIGRATION :=
    ⟨@passes_of_runAll s [] MIGRATION, fun h => by rw [migrate_of_passes h]⟩
  refine ⟨settles_exec.runAll_interrupted stops MIGRATION s, ?_, ?_, ?_⟩
  · rw [hpasses, passes_migration]
  · intro h name columns hdeclared
    rw [migrate_of_passes (hpasses.mp h)]
    exact tables_migration hdeclared s
  · intro hearlier
    rw [migrate_of_passes hearlier.passes]
    refine ⟨rfl, fun name columns hdeclared => ⟨_, tables_migration hdeclared s, ?_⟩⟩
    cases htable : s.tables name with
    | none => exact List.Perm.refl _
    | some table =>
        obtain ⟨missing, hmissing, hperm⟩ := hearlier name columns table hdeclared htable
        exact perm_of_earlier hdeclared hmissing hperm

end TermexoRelay
