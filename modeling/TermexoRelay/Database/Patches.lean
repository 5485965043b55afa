import TermexoRelay.Database.Queries

/-!
# Patches of several statements

A patch of an account or a device is written one field at a time, without a transaction. Whatever
statement fails, the fields in front of it keep what was written to them.
-/

namespace TermexoRelay

def statementCount {α : Type} (field : Option α) : Nat := field.toList.length

/-- A field of a patch when `left` of its statements are still carried out. -/
def carriedOut {α : Type} (left : Nat) (field : Option α) : Option α :=
  if 0 < left then field else none

theorem toList_carriedOut {α : Type} (left : Nat) (field : Option α) :
    (carriedOut left field).toList = field.toList.take left := by
  cases field with
  | none => simp [carriedOut]
  | some value =>
      cases left with
      | zero => rfl
      | succ left => simp [carriedOut]

theorem Fault.runStatements_cases {α : Type} (fault : Fault) (statements : List (α → α)) (a : α) :
    fault.runStatements statements a =
        (statements.foldl (fun a statement => statement a) a, .ok ()) ∨
      ∃ failed < statements.length, fault = some failed ∧ fault.runStatements statements a =
        ((statements.take failed).foldl (fun a statement => statement a) a, .error .sqlite) := by
  cases fault with
  | none => exact .inl rfl
  | some failed =>
      by_cases hfailed : failed < statements.length
      · refine .inr ⟨failed, hfailed, rfl, ?_⟩
        rw [runStatements, if_pos hfailed]
      · refine .inl ?_
        rw [runStatements, if_neg hfailed, List.take_of_length_le (Nat.not_lt.mp hfailed)]

namespace UserUpdate

def count (update : UserUpdate) : Nat :=
  statementCount update.disabled + statementCount update.role + statementCount update.passwordHash

/-- The part of a patch that its first `n` statements carry out. -/
def take (n : Nat) (update : UserUpdate) : UserUpdate where
  disabled := carriedOut n update.disabled
  role := carriedOut (n - statementCount update.disabled) update.role
  passwordHash := carriedOut (n - (statementCount update.disabled + statementCount update.role))
    update.passwordHash

def setDisabled (disabled : Bool) (user : UserRecord) : UserRecord := { user with disabled }

def setRole (role : UserRole) (user : UserRecord) : UserRecord := { user with role }

def setPasswordHash (passwordHash : String) (user : UserRecord) : UserRecord :=
  { user with passwordHash }

theorem id_setDisabled (disabled : Bool) (user : UserRecord) :
    (setDisabled disabled user).id = user.id := rfl

theorem id_setRole (role : UserRole) (user : UserRecord) : (setRole role user).id = user.id := rfl

theorem id_setPasswordHash (passwordHash : String) (user : UserRecord) :
    (setPasswordHash passwordHash user).id = user.id := rfl

def apply (update : UserUpdate) (user : UserRecord) : UserRecord :=
  { user with
    disabled := update.disabled.getD user.disabled
    role := update.role.getD user.role
    passwordHash := update.passwordHash.getD user.passwordHash }

end UserUpdate

namespace DeviceUpdate

def count (update : DeviceUpdate) : Nat :=
  statementCount update.name + statementCount update.note + statementCount update.access

/-- The part of a patch that its first `n` statements carry out. -/
def take (n : Nat) (update : DeviceUpdate) : DeviceUpdate where
  name := carriedOut n update.name
  note := carriedOut (n - statementCount update.name) update.note
  access := carriedOut (n - (statementCount update.name + statementCount update.note))
    update.access

def setName (name : String) (device : DeviceRecord) : DeviceRecord := { device with name }

def setNote (note : String) (device : DeviceRecord) : DeviceRecord :=
  { device with note := optionalText (some note) }

def setAccess (access : DeviceAccess) (device : DeviceRecord) : DeviceRecord :=
  { device with access }

theorem id_setName (name : String) (device : DeviceRecord) :
    (setName name device).id = device.id := rfl

theorem id_setNote (note : String) (device : DeviceRecord) :
    (setNote note device).id = device.id := by
  simp only [setNote]

theorem id_setAccess (access : DeviceAccess) (device : DeviceRecord) :
    (setAccess access device).id = device.id := rfl

/-- What a patch makes of a row. An empty note clears the one there is. -/
def apply (update : DeviceUpdate) (device : DeviceRecord) : DeviceRecord :=
  { device with
    name := update.name.getD device.name
    note := (update.note.map fun note => optionalText (some note)).getD device.note
    access := update.access.getD device.access }

end DeviceUpdate

structure DatabaseTable {ρ : Type} (key : ρ → String) where
  rows : Database → Rows key
  put : Rows key → Database → Database
  rows_put : ∀ table db, rows (put table db) = table
  put_rows : ∀ db, put (rows db) db = db
  put_put : ∀ table table' db, put table (put table' db) = put table db

def usersTable : DatabaseTable UserRecord.id where
  rows db := db.users
  put users db := { db with users }
  rows_put _ _ := rfl
  put_rows _ := rfl
  put_put _ _ _ := rfl

def devicesTable : DatabaseTable DeviceRecord.id where
  rows db := db.devices
  put devices db := { db with devices }
  rows_put _ _ := rfl
  put_rows _ := rfl
  put_put _ _ _ := rfl

abbrev runAll (statements : List (Database → Database)) (db : Database) : Database :=
  statements.foldl (fun db statement => statement db) db

namespace DatabaseTable

variable {ρ : Type} {key : ρ → String} (table : DatabaseTable key)

/-- One row of the table is rewritten, and nothing else. -/
structure RowPatched (id : String) (f : ρ → ρ) (db db' : Database) : Prop where
  patched : (table.rows db).Patched id f (table.rows db')
  others : db' = table.put (table.rows db') db

def fieldStatements {α : Type} (id : String) (field : Option α) (set : α → ρ → ρ)
    (hset : ∀ value row, key (set value row) = key row) : List (Database → Database) :=
  (field.map fun value db =>
    table.put ((table.rows db).update (fun row => key row = id) (set value) (hset value)) db).toList

variable {table} {id : String} {f g : ρ → ρ} {db db' db'' : Database}

theorem RowPatched.trans (h : table.RowPatched id f db db') (hf : ∀ row, key (f row) = key row)
    (h' : table.RowPatched id g db' db'') : table.RowPatched id (g ∘ f) db db'' := by
  refine ⟨h.patched.trans hf h'.patched, ?_⟩
  rw [h'.others, table.rows_put]
  conv_lhs => rw [h.others]
  exact table.put_put _ _ _

def setField {α : Type} (set : α → ρ → ρ) (field : Option α) (row : ρ) : ρ :=
  field.elim row fun value => set value row

theorem key_setField {α : Type} {set : α → ρ → ρ}
    (hset : ∀ value row, key (set value row) = key row) (field : Option α) (row : ρ) :
    key (setField set field row) = key row := by
  cases field with
  | none => rfl
  | some value => exact hset value row

theorem rowPatched_field {α : Type} (field : Option α) {set : α → ρ → ρ}
    (hset : ∀ value row, key (set value row) = key row) (db : Database) :
    table.RowPatched id (setField set field) db
      (runAll (table.fieldStatements id field set hset) db) := by
  cases field with
  | none => exact ⟨Rows.Patched.refl id (table.rows db), (table.put_rows db).symm⟩
  | some value =>
      have hrows := table.rows_put
        ((table.rows db).update (fun row => key row = id) (set value) (hset value)) db
      constructor
      · change (table.rows db).Patched id (set value) (table.rows (table.put _ db))
        rw [hrows]
        exact Rows.patched_update id (set value) (hset value) (table.rows db)
      · change table.put _ db = table.put (table.rows (table.put _ db)) db
        rw [hrows]

theorem take_fieldStatements {α : Type} (n : Nat) (field : Option α) {set : α → ρ → ρ}
    (hset : ∀ value row, key (set value row) = key row) :
    (table.fieldStatements id field set hset).take n =
      table.fieldStatements id (carriedOut n field) set hset := by
  rw [fieldStatements, fieldStatements, Option.toList_map, Option.toList_map, toList_carriedOut,
    List.map_take]

theorem length_fieldStatements {α : Type} (field : Option α) {set : α → ρ → ρ}
    (hset : ∀ value row, key (set value row) = key row) :
    (table.fieldStatements id field set hset).length = statementCount field := by
  rw [fieldStatements, Option.toList_map, List.length_map, statementCount]

section ThreeFields

variable {α β γ : Type} {first : α → ρ → ρ} {second : β → ρ → ρ} {third : γ → ρ → ρ}
  (hfirst : ∀ value row, key (first value row) = key row)
  (hsecond : ∀ value row, key (second value row) = key row)
  (hthird : ∀ value row, key (third value row) = key row)

theorem rowPatched_three (a : Option α) (b : Option β) (c : Option γ) (db : Database) :
    table.RowPatched id (setField third c ∘ setField second b ∘ setField first a) db
      (runAll (table.fieldStatements id a first hfirst ++
        table.fieldStatements id b second hsecond ++
          table.fieldStatements id c third hthird) db) := by
  rw [runAll, List.foldl_append, List.foldl_append]
  have hone : table.RowPatched id (setField first a) db
      (runAll (table.fieldStatements id a first hfirst) db) := rowPatched_field a hfirst db
  have htwo := hone.trans (key_setField hfirst a) (rowPatched_field b hsecond _)
  refine htwo.trans (fun row => ?_) (rowPatched_field c hthird _)
  exact (key_setField hsecond b _).trans (key_setField hfirst a row)

theorem take_three (n : Nat) (a : Option α) (b : Option β) (c : Option γ) :
    (table.fieldStatements id a first hfirst ++ table.fieldStatements id b second hsecond ++
        table.fieldStatements id c third hthird).take n =
      table.fieldStatements id (carriedOut n a) first hfirst ++
        table.fieldStatements id (carriedOut (n - statementCount a) b) second hsecond ++
          table.fieldStatements id
            (carriedOut (n - (statementCount a + statementCount b)) c) third hthird := by
  rw [List.take_append, List.take_append, List.length_append, length_fieldStatements,
    length_fieldStatements, take_fieldStatements, take_fieldStatements, take_fieldStatements]

end ThreeFields

/-- A patch succeeds as a whole, or the `n`-th statement fails and the row is what the statements in
front of it have made of it. -/
def AppliesUpTo (table : DatabaseTable key) (fault : Fault) (id : String) (count : Nat)
    (part : Nat → ρ → ρ) (whole : ρ → ρ) (db : Database)
    (outcome : Database × Except DatabaseError Unit) : Prop :=
  (outcome.2 = .ok () ∧ table.RowPatched id whole db outcome.1) ∨
    ∃ n < count, fault = some n ∧ outcome.2 = .error .sqlite ∧
      table.RowPatched id (part n) db outcome.1

/-- It is enough to know what the statements make of the row, all of them and the first `n`. -/
theorem appliesUpTo_of_take {fault : Fault} {statements : List (Database → Database)}
    {count : Nat} {part : Nat → ρ → ρ} {whole : ρ → ρ} (hcount : statements.length = count)
    (hwhole : table.RowPatched id whole db (runAll statements db))
    (hpart : ∀ n, table.RowPatched id (part n) db (runAll (statements.take n) db)) :
    table.AppliesUpTo fault id count part whole db (fault.runStatements statements db) := by
  rcases fault.runStatements_cases statements db with hrun | ⟨n, hn, hfault, hrun⟩
  · refine .inl ?_
    rw [hrun]
    exact ⟨rfl, hwhole⟩
  · refine .inr ⟨n, hcount ▸ hn, hfault, ?_⟩
    rw [hrun]
    exact ⟨rfl, hpart n⟩

end DatabaseTable

section Outcomes

open DatabaseTable

variable (db : Database) (fault : Fault) (id : String)

theorem updateUserStatements_eq (update : UserUpdate) :
    Database.updateUserStatements id update =
      usersTable.fieldStatements id update.disabled UserUpdate.setDisabled
          UserUpdate.id_setDisabled ++
        usersTable.fieldStatements id update.role UserUpdate.setRole UserUpdate.id_setRole ++
          usersTable.fieldStatements id update.passwordHash UserUpdate.setPasswordHash
            UserUpdate.id_setPasswordHash := rfl

theorem UserUpdate.apply_eq (update : UserUpdate) :
    update.apply = setField setPasswordHash update.passwordHash ∘
      setField setRole update.role ∘ setField setDisabled update.disabled := by
  funext user
  have hdisabled : setField setDisabled update.disabled user =
      { user with disabled := update.disabled.getD user.disabled } := by
    cases update.disabled <;> rfl
  have hrole : ∀ user, setField setRole update.role user =
      { user with role := update.role.getD user.role } := by
    intro user
    cases update.role <;> rfl
  have hhash : ∀ user, setField setPasswordHash update.passwordHash user =
      { user with passwordHash := update.passwordHash.getD user.passwordHash } := by
    intro user
    cases update.passwordHash <;> rfl
  simp only [apply, Function.comp_apply, hdisabled, hrole, hhash]

theorem userPatched_statements (update : UserUpdate) :
    usersTable.RowPatched id update.apply db
      (runAll (Database.updateUserStatements id update) db) := by
  rw [UserUpdate.apply_eq, updateUserStatements_eq]
  exact rowPatched_three _ _ _ update.disabled update.role update.passwordHash db

theorem take_updateUserStatements (n : Nat) (update : UserUpdate) :
    (Database.updateUserStatements id update).take n =
      Database.updateUserStatements id (update.take n) := by
  rw [updateUserStatements_eq, take_three, updateUserStatements_eq]
  rfl

theorem length_updateUserStatements (update : UserUpdate) :
    (Database.updateUserStatements id update).length = update.count := by
  simp only [Database.updateUserStatements, UserUpdate.count, statementCount, List.length_append,
    Option.toList_map, List.length_map]

theorem updateDeviceStatements_eq (update : DeviceUpdate) :
    Database.updateDeviceStatements id update =
      devicesTable.fieldStatements id update.name DeviceUpdate.setName DeviceUpdate.id_setName ++
        devicesTable.fieldStatements id update.note DeviceUpdate.setNote DeviceUpdate.id_setNote ++
          devicesTable.fieldStatements id update.access DeviceUpdate.setAccess
            DeviceUpdate.id_setAccess := rfl

theorem DeviceUpdate.apply_eq (update : DeviceUpdate) :
    update.apply = setField setAccess update.access ∘
      setField setNote update.note ∘ setField setName update.name := by
  funext device
  have hname : setField setName update.name device =
      { device with name := update.name.getD device.name } := by
    cases update.name <;> rfl
  have hnote : ∀ device, setField setNote update.note device =
      { device with
        note := (update.note.map fun note => optionalText (some note)).getD device.note } := by
    intro device
    cases update.note with
    | none => rfl
    | some note => simp only [setField, setNote, Option.elim, Option.map_some, Option.getD_some]
  have haccess : ∀ device, setField setAccess update.access device =
      { device with access := update.access.getD device.access } := by
    intro device
    cases update.access <;> rfl
  simp only [apply, Function.comp_apply, hname, hnote, haccess]

theorem devicePatched_statements (update : DeviceUpdate) :
    devicesTable.RowPatched id update.apply db
      (runAll (Database.updateDeviceStatements id update) db) := by
  rw [DeviceUpdate.apply_eq, updateDeviceStatements_eq]
  exact rowPatched_three _ _ _ update.name update.note update.access db

theorem take_updateDeviceStatements (n : Nat) (update : DeviceUpdate) :
    (Database.updateDeviceStatements id update).take n =
      Database.updateDeviceStatements id (update.take n) := by
  rw [updateDeviceStatements_eq, take_three, updateDeviceStatements_eq]
  rfl

theorem length_updateDeviceStatements (update : DeviceUpdate) :
    (Database.updateDeviceStatements id update).length = update.count := by
  simp only [Database.updateDeviceStatements, DeviceUpdate.count, statementCount,
    List.length_append, Option.toList_map, List.length_map]

theorem updateUser_appliesUpTo (update : UserUpdate) :
    usersTable.AppliesUpTo fault id update.count (fun n => (update.take n).apply) update.apply db
      (Database.updateUser db fault id update) := by
  refine appliesUpTo_of_take (length_updateUserStatements id update)
    (userPatched_statements db id update) ?_
  intro n
  rw [take_updateUserStatements]
  exact userPatched_statements db id (update.take n)

theorem updateDevice_appliesUpTo (update : DeviceUpdate) :
    devicesTable.AppliesUpTo fault id update.count (fun n => (update.take n).apply) update.apply db
      (Database.updateDevice db fault id update) := by
  refine appliesUpTo_of_take (length_updateDeviceStatements id update)
    (devicePatched_statements db id update) ?_
  intro n
  rw [take_updateDeviceStatements]
  exact devicePatched_statements db id (update.take n)

/-- A patch of an account or a device that fails leaves the row with the fields in front of the
failing statement changed and the others as they were; one that succeeds changes them all. No other
row and no other table is touched. -/
theorem patches_apply_in_order :
    (∀ update : UserUpdate, usersTable.AppliesUpTo fault id update.count
      (fun n => (update.take n).apply) update.apply db
      (Database.updateUser db fault id update)) ∧
    ∀ update : DeviceUpdate, devicesTable.AppliesUpTo fault id update.count
      (fun n => (update.take n).apply) update.apply db
      (Database.updateDevice db fault id update) := by
  constructor
  · intro update
    exact updateUser_appliesUpTo db fault id update
  · intro update
    exact updateDevice_appliesUpTo db fault id update

end Outcomes

def oneAccount : Database where
  users := (Rows.empty.insert
    ⟨"user-1", "operator", "hash", .admin, false, 0, none⟩).getD .empty
  devices := .empty
  enrollmentCodes := .empty
  consoleSessions := .empty

/-- An account is disabled although the call that was to disable and demote it has failed. -/
theorem updateUser_half_applied :
    ¬ ∀ db fault id (update : UserUpdate), (Database.updateUser db fault id update).2 ≠ .ok () →
      (Database.updateUser db fault id update).1.users.find id = db.users.find id := by
  intro h
  have hsame := h oneAccount (some 1) "user-1" ⟨some true, some .user, none⟩ (by decide +kernel)
  exact absurd hsame (by decide +kernel)

end TermexoRelay
