import TermexoRelay.Database.Records

/-!
# Database queries

Each query runs under the connection's mutex, so it is one action. A statement may fail; a query of
several statements then keeps what the earlier ones wrote. `fault` is the statement of the query
that fails, if one does.
-/

namespace TermexoRelay

/-- The statement that fails, counted from 0 within its query. -/
abbrev Fault := Option Nat

def Fault.guard {α : Type} (fault : Fault) (result : Except DatabaseError α) :
    Except DatabaseError α :=
  if fault.isSome then .error .sqlite else result

theorem Fault.guard_eq_ok {α : Type} {fault : Fault} {result : Except DatabaseError α} {a : α} :
    fault.guard result = .ok a ↔ fault = none ∧ result = .ok a := by
  cases fault <;> simp [Fault.guard]

/-- Run the statements in order up to the one that fails. -/
def Fault.runStatements {α : Type} (fault : Fault) (statements : List (α → α)) (a : α) :
    α × Except DatabaseError Unit :=
  match fault with
  | none => (statements.foldl (fun a statement => statement a) a, .ok ())
  | some failed =>
      ((statements.take failed).foldl (fun a statement => statement a) a,
        if failed < statements.length then .error .sqlite else .ok ())

theorem Fault.runStatements_invariant {α : Type} {P : α → Prop} {fault : Fault}
    {statements : List (α → α)} {a : α} (ha : P a)
    (h : ∀ statement ∈ statements, ∀ a, P a → P (statement a)) :
    P (fault.runStatements statements a).1 := by
  have hfold : ∀ l : List (α → α), (∀ statement ∈ l, statement ∈ statements) → ∀ a, P a →
      P (l.foldl (fun a statement => statement a) a) := by
    intro l hl
    induction l with
    | nil => exact fun a ha => ha
    | cons statement l ih =>
        intro a ha
        refine ih (fun s hs => hl s (List.mem_cons_of_mem _ hs)) _ ?_
        exact h statement (hl statement List.mem_cons_self) a ha
  cases fault with
  | none => exact hfold statements (fun _ hs => hs) a ha
  | some failed => exact hfold _ (fun _ hs => List.mem_of_mem_take hs) a ha

namespace Database

/-! ## Users -/

def newUser (id username passwordHash : String) (role : UserRole) (now : Int) : UserRecord where
  id := id
  username := username
  passwordHash := passwordHash
  role := role
  disabled := false
  createdAt := now
  lastLoginAt := none

/-- A constraint failure of the insert always reads as a taken name. -/
def createUser (db : Database) (fault : Fault) (identifier : Option String)
    (username passwordHash : String) (role : UserRole) (now : Int) :
    Except DatabaseError Database :=
  match identifier with
  | none => .error .random
  | some id =>
      fault.guard <|
        if db.users.anyRow fun user => user.username = username then .error .usernameTaken
        else match db.users.insert (newUser id username passwordHash role now) with
          | some users => .ok { db with users }
          | none => .error .usernameTaken

def findUser (db : Database) (fault : Fault) (id : String) :
    Except DatabaseError (Option UserRecord) :=
  fault.guard (.ok (db.users.find id))

def findUserByUsername (db : Database) (fault : Fault) (username : String) :
    Except DatabaseError (Option UserRecord) :=
  fault.guard (.ok (db.users.findWhere fun user => user.username = username))

def setUser (id : String) (f : UserRecord → UserRecord) (hf : ∀ user, (f user).id = user.id)
    (db : Database) : Database :=
  { db with users := db.users.update (fun user => user.id = id) f hf }

/-- The statements of `update_user`, one for each field the patch changes. -/
def updateUserStatements (id : String) (update : UserUpdate) : List (Database → Database) :=
  (update.disabled.map fun disabled =>
      setUser id (fun user => { user with disabled }) fun _ => rfl).toList ++
    (update.role.map fun role =>
      setUser id (fun user => { user with role }) fun _ => rfl).toList ++
    (update.passwordHash.map fun passwordHash =>
      setUser id (fun user => { user with passwordHash }) fun _ => rfl).toList

def updateUser (db : Database) (fault : Fault) (id : String) (update : UserUpdate) :
    Database × Except DatabaseError Unit :=
  fault.runStatements (updateUserStatements id update) db

/-- `devices.owner_user_id` references `users`, so an account that still owns a row cannot go. -/
def deleteUser (db : Database) (fault : Fault) (id : String) : Except DatabaseError Database :=
  fault.guard <|
    if (db.users.find id).isSome && db.devices.anyRow fun device => device.ownerUserId = some id
    then .error .sqlite
    else .ok { db with users := db.users.delete fun user => user.id = id }

/-! ## Devices -/

def newDevice (device : NewDevice) (now : Int) : DeviceRecord where
  id := device.id
  kind := device.kind
  name := device.name
  ownerUserId := device.ownerUserId
  secretHash := device.secretHash
  note := device.note
  createdAt := now
  revokedAt := none
  lastSeenAt := none
  lastIp := none
  lastVersion := none
  access := .publicAccess

/-- The insert fails when the id is taken or the owner is not in `users`. -/
def createDevice (db : Database) (fault : Fault) (device : NewDevice) (now : Int) :
    Except DatabaseError Database :=
  fault.guard <|
    if device.ownerUserId.all fun owner => (db.users.find owner).isSome then
      match db.devices.insert (newDevice device now) with
      | some devices => .ok { db with devices }
      | none => .error .sqlite
    else .error .sqlite

def findDevice (db : Database) (fault : Fault) (id : String) :
    Except DatabaseError (Option DeviceRecord) :=
  fault.guard (.ok (db.devices.find id))

def ownedBy (db : Database) (owner : String) : List String :=
  db.devices.keysWhere fun device => device.ownerUserId = some owner

/-- Whether `ids` is a result of `ORDER BY created_at DESC`. -/
def newestFirst (db : Database) (ids : List String) : Prop :=
  (ids.filterMap db.devices.find).Pairwise fun a b => b.createdAt ≤ a.createdAt

instance (db : Database) (ids : List String) : Decidable (db.newestFirst ids) :=
  inferInstanceAs (Decidable (List.Pairwise _ _))

def setDevice (id : String) (f : DeviceRecord → DeviceRecord)
    (hf : ∀ device, (f device).id = device.id) (db : Database) : Database :=
  { db with devices := db.devices.update (fun device => device.id = id) f hf }

/-- The statements of `update_device`, one for each field the patch changes. -/
def updateDeviceStatements (id : String) (update : DeviceUpdate) : List (Database → Database) :=
  (update.name.map fun name =>
      setDevice id (fun device => { device with name }) fun _ => rfl).toList ++
    (update.note.map fun note =>
      setDevice id (fun device => { device with note := optionalText (some note) })
        fun _ => rfl).toList ++
    (update.access.map fun access =>
      setDevice id (fun device => { device with access }) fun _ => rfl).toList

def updateDevice (db : Database) (fault : Fault) (id : String) (update : DeviceUpdate) :
    Database × Except DatabaseError Unit :=
  fault.runStatements (updateDeviceStatements id update) db

/-- The query also reports whether it changed a row: a device that is already revoked keeps its
timestamp. -/
def revokeDevice (db : Database) (fault : Fault) (id : String) (now : Int) :
    Except DatabaseError (Database × Bool) :=
  fault.guard <| .ok
    ({ db with
        devices := db.devices.update (fun device => device.id = id && !device.isRevoked)
          (fun device => { device with revokedAt := some now }) fun _ => rfl },
      db.devices.anyRow fun device => device.id = id && !device.isRevoked)

/-- Detaches every device of one owner, keeping the rows themselves. -/
def disownDevicesOf (db : Database) (fault : Fault) (owner : String) :
    Except DatabaseError Database :=
  fault.guard <| .ok
    { db with
      devices := db.devices.update (fun device => device.ownerUserId = some owner)
        (fun device => { device with ownerUserId := none }) fun _ => rfl }

def recordDeviceConnection (db : Database) (fault : Fault) (id ip version : String) (now : Int) :
    Except DatabaseError Database :=
  fault.guard <| .ok <|
    db.setDevice id
      (fun device =>
        { device with lastSeenAt := some now, lastIp := some ip, lastVersion := some version })
      fun _ => rfl

def recordDeviceDisconnection (db : Database) (fault : Fault) (id : String) (now : Int) :
    Except DatabaseError Database :=
  fault.guard <| .ok <|
    db.setDevice id (fun device => { device with lastSeenAt := some now }) fun _ => rfl

/-! ## Enrollment codes -/

def newEnrollment (id : String) (enrollment : NewEnrollment) (now : Int) : EnrollmentRecord where
  id := id
  codeHash := enrollment.codeHash
  kind := enrollment.kind
  ownerUserId := enrollment.ownerUserId
  createdBy := enrollment.createdBy
  note := enrollment.note
  createdAt := now
  expiresAt := enrollment.expiresAt
  usedAt := none
  usedByDeviceId := none
  cancelledAt := none

def createEnrollment (db : Database) (fault : Fault) (identifier : Option String)
    (enrollment : NewEnrollment) (now : Int) : Except DatabaseError Database :=
  match identifier with
  | none => .error .random
  | some id =>
      fault.guard <|
        if db.enrollmentCodes.anyRow fun row => row.codeHash = enrollment.codeHash then
          .error .sqlite
        else match db.enrollmentCodes.insert (newEnrollment id enrollment now) with
          | some enrollmentCodes => .ok { db with enrollmentCodes }
          | none => .error .sqlite

def findEnrollment (db : Database) (fault : Fault) (id : String) :
    Except DatabaseError (Option EnrollmentRecord) :=
  fault.guard (.ok (db.enrollmentCodes.find id))

def findEnrollmentByHash (db : Database) (fault : Fault) (codeHash : String) :
    Except DatabaseError (Option EnrollmentRecord) :=
  fault.guard (.ok (db.enrollmentCodes.findWhere fun row => row.codeHash = codeHash))

def settleEnrollment (id : String) (f : EnrollmentRecord → EnrollmentRecord)
    (hf : ∀ row, (f row).id = row.id) (db : Database) : Database × Bool :=
  let open' := fun row : EnrollmentRecord =>
    row.id = id && row.usedAt.isNone && row.cancelledAt.isNone
  ({ db with enrollmentCodes := db.enrollmentCodes.update open' f hf },
    db.enrollmentCodes.anyRow open')

/-- Burns a code; only one redemption changes the row. -/
def markEnrollmentUsed (db : Database) (fault : Fault) (id deviceId : String) (now : Int) :
    Except DatabaseError (Database × Bool) :=
  fault.guard <| .ok <|
    db.settleEnrollment id
      (fun row => { row with usedAt := some now, usedByDeviceId := some deviceId }) fun _ => rfl

def cancelEnrollment (db : Database) (fault : Fault) (id : String) (now : Int) :
    Except DatabaseError (Database × Bool) :=
  fault.guard <| .ok <|
    db.settleEnrollment id (fun row => { row with cancelledAt := some now }) fun _ => rfl

/-! ## Console sessions -/

def findSession (db : Database) (fault : Fault) (idHash : String) :
    Except DatabaseError (Option SessionRecord) :=
  fault.guard (.ok (db.consoleSessions.find idHash))

def extendSession (db : Database) (fault : Fault) (idHash : String) (expiresAt : Int) :
    Except DatabaseError Database :=
  fault.guard <| .ok
    { db with
      consoleSessions := db.consoleSessions.update (fun row => row.idHash = idHash)
        (fun row => { row with expiresAt }) fun _ => rfl }

def deleteSession (db : Database) (fault : Fault) (idHash : String) :
    Except DatabaseError Database :=
  fault.guard <| .ok
    { db with consoleSessions := db.consoleSessions.delete fun row => row.idHash = idHash }

def deleteSessionsOfUser (db : Database) (fault : Fault) (userId : String) :
    Except DatabaseError Database :=
  fault.guard <| .ok
    { db with consoleSessions := db.consoleSessions.delete fun row => row.userId = userId }

/-! ## Queries that go through -/

section Outcomes

variable {db db' : Database} {fault : Fault} {identifier : Option String} {now : Int}

theorem createUser_inserts {username passwordHash : String} {role : UserRole}
    (h : db.createUser fault identifier username passwordHash role now = .ok db') :
    ∃ id users, db.users.insert (newUser id username passwordHash role now) = some users ∧
      db' = { db with users } := by
  unfold createUser at h
  cases identifier with
  | none => cases h
  | some id =>
      obtain ⟨-, h⟩ := Fault.guard_eq_ok.mp h
      split at h
      · cases h
      · split at h
        · next users hinsert => exact ⟨id, users, hinsert, (Except.ok.inj h).symm⟩
        · cases h

theorem deleteUser_deletes {id : String} (h : db.deleteUser fault id = .ok db') :
    db' = { db with users := db.users.delete fun user => user.id = id } := by
  obtain ⟨-, h⟩ := Fault.guard_eq_ok.mp h
  split at h
  · cases h
  · exact (Except.ok.inj h).symm

theorem createDevice_inserts {device : NewDevice}
    (h : db.createDevice fault device now = .ok db') :
    (device.ownerUserId.all fun owner => (db.users.find owner).isSome) = true ∧
      ∃ devices, db.devices.insert (newDevice device now) = some devices ∧
        db' = { db with devices } := by
  obtain ⟨-, h⟩ := Fault.guard_eq_ok.mp h
  split at h
  · next howner =>
      split at h
      · next devices hinsert => exact ⟨howner, devices, hinsert, (Except.ok.inj h).symm⟩
      · cases h
  · cases h

theorem createEnrollment_inserts {enrollment : NewEnrollment}
    (h : db.createEnrollment fault identifier enrollment now = .ok db') :
    (db.enrollmentCodes.anyRow fun row => row.codeHash = enrollment.codeHash) = false ∧
      ∃ id enrollmentCodes,
        db.enrollmentCodes.insert (newEnrollment id enrollment now) = some enrollmentCodes ∧
        db' = { db with enrollmentCodes } := by
  unfold createEnrollment at h
  cases identifier with
  | none => cases h
  | some id =>
      obtain ⟨-, h⟩ := Fault.guard_eq_ok.mp h
      split at h
      · cases h
      · next hfree =>
          rw [Bool.not_eq_true] at hfree
          split at h
          · next rows hinsert => exact ⟨hfree, id, rows, hinsert, (Except.ok.inj h).symm⟩
          · cases h

end Outcomes

end Database

end TermexoRelay
