import TermexoRelay.Database.Queries

/-!
# What each query does to the rows

Of a device row only its owner, its secret and its revocation decide anything about tunnels and
accounts. For each query: what it does to that part of every device row, and to every account.
-/

namespace TermexoRelay

/-- The part of a device row that tunnels and accounts depend on. -/
structure Standing where
  ownerUserId : Option String
  secretHash : String
  revoked : Bool
deriving DecidableEq, Repr

def DeviceRecord.standing (device : DeviceRecord) : Standing :=
  ⟨device.ownerUserId, device.secretHash, device.isRevoked⟩

namespace Database

def standing (db : Database) (deviceId : String) : Option Standing :=
  (db.devices.find deviceId).map DeviceRecord.standing

theorem standing_of_find {db : Database} {deviceId : String} {device : DeviceRecord}
    (h : db.devices.find deviceId = some device) :
    db.standing deviceId = some device.standing := by
  rw [standing, h, Option.map_some]

theorem find_of_standing {db : Database} {deviceId : String} {row : Standing}
    (h : db.standing deviceId = some row) :
    ∃ device, db.devices.find deviceId = some device ∧ device.standing = row :=
  Option.map_eq_some_iff.mp h

/-- No account and no standing changes. -/
structure Keeps (db db' : Database) : Prop where
  users : db'.users = db.users
  standing : db'.standing = db.standing

theorem Keeps.refl (db : Database) : Keeps db db := ⟨rfl, rfl⟩

theorem Keeps.trans {a b c : Database} (h : Keeps a b) (h' : Keeps b c) : Keeps a c :=
  ⟨h'.users.trans h.users, h'.standing.trans h.standing⟩

section Devices

variable {db db' : Database} {fault : Fault} {now : Int}

theorem keeps_setDevice {id : String} {f : DeviceRecord → DeviceRecord}
    {hf : ∀ device, (f device).id = device.id} (h : ∀ device, (f device).standing = device.standing)
    (db : Database) : Keeps db (db.setDevice id f hf) := by
  refine ⟨rfl, ?_⟩
  funext deviceId
  exact Rows.map_find_update hf h db.devices deviceId

theorem keeps_recordDeviceConnection {id ip version : String}
    (h : db.recordDeviceConnection fault id ip version now = .ok db') : Keeps db db' := by
  obtain ⟨-, h⟩ := Fault.guard_eq_ok.mp h
  rw [← Except.ok.inj h]
  refine keeps_setDevice ?_ db
  exact fun _ => rfl

theorem keeps_recordDeviceDisconnection {id : String}
    (h : db.recordDeviceDisconnection fault id now = .ok db') : Keeps db db' := by
  obtain ⟨-, h⟩ := Fault.guard_eq_ok.mp h
  rw [← Except.ok.inj h]
  refine keeps_setDevice ?_ db
  exact fun _ => rfl

theorem keeps_updateDevice (db : Database) (fault : Fault) (id : String) (update : DeviceUpdate) :
    Keeps db (db.updateDevice fault id update).1 := by
  refine Fault.runStatements_invariant (P := Keeps db) (Keeps.refl db) ?_
  intro statement hstatement a ha
  simp only [updateDeviceStatements, List.mem_append, Option.mem_toList, Option.map_eq_some_iff]
    at hstatement
  rcases hstatement with (⟨_, -, rfl⟩ | ⟨_, -, rfl⟩) | ⟨_, -, rfl⟩
  all_goals
    refine ha.trans (keeps_setDevice ?_ a)
    intro device
    simp only [DeviceRecord.standing, DeviceRecord.isRevoked]

theorem createDevice_eq_ok {device : NewDevice} (h : db.createDevice fault device now = .ok db') :
    db.standing device.id = none ∧ db'.users = db.users ∧
      (∀ owner, device.ownerUserId = some owner → (db.users.find owner).isSome) ∧
      ∀ id, db'.standing id = if id = device.id
        then some ⟨device.ownerUserId, device.secretHash, false⟩ else db.standing id := by
  obtain ⟨howner, devices, hinsert, rfl⟩ := createDevice_inserts h
  obtain ⟨hfree, hfind⟩ := Rows.insert_eq_some hinsert
  have hid : (newDevice device now).id = device.id := rfl
  rw [hid] at hfree
  refine ⟨?_, rfl, ?_, ?_⟩
  · rw [standing, hfree, Option.map_none]
  · intro owner ho
    rw [ho] at howner
    exact howner
  · intro id
    simp only [standing, hfind, hid]
    split <;> rfl

theorem revokeDevice_eq_ok {id : String} {changed : Bool}
    (h : db.revokeDevice fault id now = .ok (db', changed)) :
    db'.users = db.users ∧ ∀ deviceId, db'.standing deviceId =
      if deviceId = id then (db.standing deviceId).map fun row => { row with revoked := true }
      else db.standing deviceId := by
  obtain ⟨-, h⟩ := Fault.guard_eq_ok.mp h
  obtain ⟨rfl, -⟩ := Prod.mk.inj (Except.ok.inj h)
  refine ⟨rfl, fun deviceId => ?_⟩
  simp only [standing, Rows.find_update, Option.map_map]
  cases hfind : db.devices.find deviceId with
  | none => simp
  | some device =>
      have hid : device.id = deviceId := Rows.key_of_find hfind
      by_cases hsame : deviceId = id
      · simp only [hid, hsame, Option.map_some, Function.comp_apply, if_true]
        cases hrevoked : device.isRevoked with
        | true => simp [DeviceRecord.standing, hrevoked]
        | false => simp [DeviceRecord.standing, DeviceRecord.isRevoked]
      · simp [hid, hsame, Function.comp_apply]

theorem disownDevicesOf_eq_ok {owner : String} (h : db.disownDevicesOf fault owner = .ok db') :
    db'.users = db.users ∧ ∀ deviceId, db'.standing deviceId =
      (db.standing deviceId).map fun row =>
        if row.ownerUserId = some owner then { row with ownerUserId := none } else row := by
  obtain ⟨-, h⟩ := Fault.guard_eq_ok.mp h
  rw [← Except.ok.inj h]
  refine ⟨rfl, fun deviceId => ?_⟩
  simp only [standing, Rows.find_update, Option.map_map]
  congr 1
  funext device
  by_cases howner : device.ownerUserId = some owner
  · simp [DeviceRecord.standing, DeviceRecord.isRevoked, howner]
  · simp [DeviceRecord.standing, howner]

theorem mem_ownedBy {owner deviceId : String} :
    deviceId ∈ db.ownedBy owner ↔ ∃ row, db.standing deviceId = some row ∧
      row.ownerUserId = some owner := by
  simp only [ownedBy, Rows.mem_keysWhere, decide_eq_true_eq]
  constructor
  · rintro ⟨device, hfind, howner⟩
    exact ⟨_, standing_of_find hfind, howner⟩
  · rintro ⟨row, hrow, howner⟩
    obtain ⟨device, hfind, rfl⟩ := find_of_standing hrow
    exact ⟨device, hfind, howner⟩

end Devices

section Users

variable {db db' : Database} {fault : Fault} {now : Int}

def isDisabled (db : Database) (userId : String) : Bool :=
  (db.users.find userId).any UserRecord.disabled

theorem createUser_eq_ok {identifier : Option String} {username passwordHash : String}
    {role : UserRole}
    (h : db.createUser fault identifier username passwordHash role now = .ok db') :
    db'.standing = db.standing ∧ ∀ userId, db'.isDisabled userId = db.isDisabled userId := by
  obtain ⟨id, users, hinsert, rfl⟩ := createUser_inserts h
  obtain ⟨hfree, hfind⟩ := Rows.insert_eq_some hinsert
  refine ⟨rfl, ?_⟩
  intro userId
  rw [isDisabled, isDisabled, hfind]
  split
  · next hid =>
      rw [hid, hfree]
      rfl
  · rfl

theorem deleteUser_eq_ok {id : String} (h : db.deleteUser fault id = .ok db') :
    db'.standing = db.standing ∧
      ∀ userId, db'.isDisabled userId = true → db.isDisabled userId = true := by
  obtain rfl := deleteUser_deletes h
  refine ⟨rfl, ?_⟩
  intro userId hdisabled
  simp only [isDisabled, Rows.find_delete, Option.any_eq_true, Option.filter_eq_some_iff]
    at hdisabled ⊢
  obtain ⟨user, ⟨hfind, -⟩, hflag⟩ := hdisabled
  exact ⟨user, hfind, hflag⟩

theorem updateUser_standing (db : Database) (fault : Fault) (id : String) (update : UserUpdate) :
    (db.updateUser fault id update).1.standing = db.standing ∧
      ∀ userId, (db.updateUser fault id update).1.isDisabled userId = true →
        db.isDisabled userId = true ∨ userId = id ∧ update.disabled = some true := by
  refine Fault.runStatements_invariant
    (P := fun a : Database => a.standing = db.standing ∧ ∀ userId, a.isDisabled userId = true →
      db.isDisabled userId = true ∨ userId = id ∧ update.disabled = some true)
    ⟨rfl, fun _ h => .inl h⟩ ?_
  rintro statement hstatement a ⟨hstanding, hflags⟩
  have hset : ∀ (f : UserRecord → UserRecord) (hf : ∀ user, (f user).id = user.id) userId,
      (setUser id f hf a).isDisabled userId = true →
        a.isDisabled userId = true ∨
          userId = id ∧ ∃ user, a.users.find userId = some user ∧ (f user).disabled = true := by
    intro f hf userId hdisabled
    simp only [isDisabled, setUser, Rows.find_update, Option.any_map, Option.any_eq_true,
      decide_eq_true_eq] at hdisabled ⊢
    obtain ⟨user, hfind, hflag⟩ := hdisabled
    split at hflag
    · next hid => exact .inr ⟨(Rows.key_of_find hfind).symm.trans hid, user, hfind, hflag⟩
    · exact .inl ⟨user, hfind, hflag⟩
  simp only [updateUserStatements, List.mem_append, Option.mem_toList, Option.map_eq_some_iff]
    at hstatement
  rcases hstatement with (⟨disabled, hupdate, rfl⟩ | ⟨role, -, rfl⟩) | ⟨passwordHash, -, rfl⟩
  · refine ⟨hstanding, fun userId h => ?_⟩
    rcases hset _ _ userId h with h | ⟨hid, user, -, hflag⟩
    · exact hflags userId h
    · exact .inr ⟨hid, hupdate.trans (congrArg some hflag)⟩
  · refine ⟨hstanding, fun userId h => ?_⟩
    rcases hset _ _ userId h with h | ⟨-, user, hfind, hflag⟩
    · exact hflags userId h
    · exact hflags userId (by simpa [isDisabled, hfind] using hflag)
  · refine ⟨hstanding, fun userId h => ?_⟩
    rcases hset _ _ userId h with h | ⟨-, user, hfind, hflag⟩
    · exact hflags userId h
    · exact hflags userId (by simpa [isDisabled, hfind] using hflag)

theorem updateUser_fault_zero (db : Database) (id : String) (update : UserUpdate) :
    (db.updateUser (some 0) id update).1 = db := rfl

end Users

section Enrollments

variable {db db' : Database} {fault : Fault} {now : Int}

theorem keeps_createEnrollment {identifier : Option String} {enrollment : NewEnrollment}
    (h : db.createEnrollment fault identifier enrollment now = .ok db') : Keeps db db' := by
  obtain ⟨-, id, rows, -, rfl⟩ := createEnrollment_inserts h
  exact ⟨rfl, rfl⟩

theorem keeps_markEnrollmentUsed {id deviceId : String} {changed : Bool}
    (h : db.markEnrollmentUsed fault id deviceId now = .ok (db', changed)) : Keeps db db' := by
  obtain ⟨-, h⟩ := Fault.guard_eq_ok.mp h
  obtain ⟨rfl, -⟩ := Prod.mk.inj (Except.ok.inj h)
  exact ⟨rfl, rfl⟩

theorem keeps_cancelEnrollment {id : String} {changed : Bool}
    (h : db.cancelEnrollment fault id now = .ok (db', changed)) : Keeps db db' := by
  obtain ⟨-, h⟩ := Fault.guard_eq_ok.mp h
  obtain ⟨rfl, -⟩ := Prod.mk.inj (Except.ok.inj h)
  exact ⟨rfl, rfl⟩

theorem keeps_deleteSessionsOfUser {userId : String}
    (h : db.deleteSessionsOfUser fault userId = .ok db') : Keeps db db' := by
  obtain ⟨-, h⟩ := Fault.guard_eq_ok.mp h
  rw [← Except.ok.inj h]
  exact ⟨rfl, rfl⟩

end Enrollments

end Database

end TermexoRelay
