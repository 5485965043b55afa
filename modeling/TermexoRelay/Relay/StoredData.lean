import Mathlib.Data.Option.Basic
import TermexoRelay.Relay.Codes

/-!
# What the database holds

The API trims and checks every text before it is stored, and a text that passed its check passes it
again unchanged, so the checks can be read off the rows. Between the check of a request and its
query other tasks act on the same tables; the rows satisfy the checks, and the references between
the tables hold, after every action all the same.
-/

namespace TermexoRelay

open Transition

section Texts

variable {value text field : String} {maxLength : Nat}

theorem trimString_trimString (value : String) :
    Text.trimString (Text.trimString value) = Text.trimString value := by
  rw [Text.trimString, Text.trimString, String.toList_ofList, Text.trim_trim]

theorem requireText_again (h : requireText value field maxLength = .ok text) :
    requireText text field maxLength = .ok text := by
  simp only [requireText] at h
  split at h
  · cases h
  · next hnonempty =>
      split at h
      · cases h
      · next hlength =>
          cases h
          simp only [requireText, trimString_trimString]
          rw [if_neg hnonempty, if_neg hlength]

theorem validatedUsername_again {username : String} (h : validatedUsername value = .ok username) :
    validatedUsername username = .ok username := by
  simp only [validatedUsername] at h
  split at h
  · cases h
  · next text htext =>
      split at h
      · cases h
      · next hspace =>
          cases h
          rw [validatedUsername, requireText_again htext]
          exact if_neg hspace

theorem boundedNote_again {note : String} (h : boundedNote value = .ok note) :
    boundedNote note = .ok note := by
  simp only [boundedNote] at h
  split at h
  · cases h
  · next hlength =>
      cases h
      simp only [boundedNote, trimString_trimString]
      rw [if_neg hlength]

end Texts

/-- The name and the note of a device pass their checks unchanged; a note that is there says
something. -/
structure DeviceRecord.Checked (device : DeviceRecord) : Prop where
  name : requireText device.name "设备名称" MAX_DEVICE_NAME_LENGTH = .ok device.name
  note : ∀ note, device.note = some note → boundedNote note = .ok note ∧ note ≠ ""

structure DeviceUpdate.Checked (update : DeviceUpdate) : Prop where
  name : ∀ name, update.name = some name →
    requireText name "设备名称" MAX_DEVICE_NAME_LENGTH = .ok name
  note : ∀ note, update.note = some note → boundedNote note = .ok note

theorem checkField_eq_some {α β : Type} {check : α → Except ApiError β} {field : Option α} {b : β}
    (h : checkField check field = .ok (some b)) : ∃ a, check a = .ok b := by
  cases field with
  | none => cases h
  | some a =>
      refine ⟨a, ?_⟩
      simp only [checkField] at h
      cases hcheck : check a with
      | error e =>
          rw [hcheck] at h
          cases h
      | ok value =>
          rw [hcheck] at h
          cases h
          rfl

theorem DeviceUpdateRequest.toUpdate_checked {request : DeviceUpdateRequest}
    {update : DeviceUpdate} (h : request.toUpdate = .ok update) : update.Checked := by
  simp only [toUpdate] at h
  split at h
  · cases h
  · cases h
  · cases h
  · next name note access hname hnote haccess =>
      split at h
      · cases h
      · cases h
        refine ⟨fun text htext => ?_, fun text htext => ?_⟩
        · subst htext
          obtain ⟨value, hvalue⟩ := checkField_eq_some hname
          exact requireText_again hvalue
        · subst htext
          obtain ⟨value, hvalue⟩ := checkField_eq_some hnote
          exact boundedNote_again hvalue

/-- What no later action takes back from a device row: its kind, and that its texts are checked; its
owner can only be taken off it. -/
structure DeviceRecord.Follows (device device' : DeviceRecord) : Prop where
  kind : device'.kind = device.kind
  owner : device'.ownerUserId = device.ownerUserId ∨ device'.ownerUserId = none
  checked : device.Checked → device'.Checked

theorem DeviceRecord.Follows.refl (device : DeviceRecord) : device.Follows device :=
  ⟨rfl, .inl rfl, fun h => h⟩

theorem DeviceRecord.Follows.trans {a b c : DeviceRecord} (h : a.Follows b) (h' : b.Follows c) :
    a.Follows c := by
  refine ⟨h'.kind.trans h.kind, ?_, fun hchecked => h'.checked (h.checked hchecked)⟩
  rcases h'.owner with howner | hnone
  · rw [howner]
    exact h.owner
  · exact .inr hnone

namespace Database

def DevicesFollow (db db' : Database) : Prop :=
  ∀ id, Option.Rel DeviceRecord.Follows (db.devices.find id) (db'.devices.find id)

def UsersFollow (db db' : Database) : Prop :=
  ∀ id user', db'.users.find id = some user' →
    ∃ user, db.users.find id = some user ∧ user'.username = user.username

/-- What the relay stores: account names that are checked and all different, devices with checked
texts and an owner that exists, codes that were settled once, and if used then by a device of their
kind. -/
structure Checked (db : Database) : Prop where
  usernames : ∀ id user, db.users.find id = some user →
    validatedUsername user.username = .ok user.username
  distinct : ∀ id id' user user', db.users.find id = some user →
    db.users.find id' = some user' → user.username = user'.username → id = id'
  devices : ∀ id device, db.devices.find id = some device → device.Checked
  owners : ∀ id device owner, db.devices.find id = some device →
    device.ownerUserId = some owner → (db.users.find owner).isSome = true
  settledOnce : db.SettledOnce
  used : ∀ id row, db.enrollmentCodes.find id = some row →
    row.usedAt.isSome = row.usedByDeviceId.isSome ∧
    ∀ deviceId, row.usedByDeviceId = some deviceId →
      ∃ device, db.devices.find deviceId = some device ∧ device.kind = row.kind

/-- Rows that stand for what an enrollment in progress refers to stay, with their kind. -/
structure KindsPersist (db db' : Database) : Prop where
  codes : ∀ id row, db.enrollmentCodes.find id = some row →
    ∃ row', db'.enrollmentCodes.find id = some row' ∧ row'.kind = row.kind
  devices : ∀ id device, db.devices.find id = some device →
    ∃ device', db'.devices.find id = some device' ∧ device'.kind = device.kind

theorem KindsPersist.refl (db : Database) : db.KindsPersist db :=
  ⟨fun _ row hrow => ⟨row, hrow, rfl⟩, fun _ device hdevice => ⟨device, hdevice, rfl⟩⟩

section Follow

variable {db db' db'' : Database} {fault : Fault} {now : Int}

theorem devicesFollow_of_devices (h : db'.devices = db.devices) : db.DevicesFollow db' := by
  intro id
  rw [h]
  cases db.devices.find id with
  | none => exact .none
  | some device => exact .some (.refl device)

theorem DevicesFollow.trans (h : db.DevicesFollow db') (h' : db'.DevicesFollow db'') :
    db.DevicesFollow db'' := by
  intro id
  have hid := h id
  have hid' := h' id
  revert hid hid'
  generalize db.devices.find id = row
  generalize db'.devices.find id = row'
  generalize db''.devices.find id = row''
  intro hid hid'
  cases hid with
  | none =>
      cases hid'
      exact .none
  | some hfollows =>
      cases hid' with
      | some hfollows' => exact .some (hfollows.trans hfollows')

theorem devicesFollow_update {p : DeviceRecord → Bool} {f : DeviceRecord → DeviceRecord}
    {hf : ∀ device, (f device).id = device.id}
    (hfollows : ∀ device : DeviceRecord, device.Follows (f device)) (db : Database) :
    db.DevicesFollow { db with devices := db.devices.update p f hf } := by
  intro id
  simp only [Rows.find_update]
  cases db.devices.find id with
  | none => exact .none
  | some device =>
      refine .some ?_
      show device.Follows (if p device = true then f device else device)
      by_cases hp : p device = true
      · rw [if_pos hp]
        exact hfollows device
      · rw [if_neg hp]
        exact .refl device

theorem devicesFollow_revokeDevice {id : String} {changed : Bool}
    (h : db.revokeDevice fault id now = .ok (db', changed)) : db.DevicesFollow db' := by
  obtain ⟨-, h⟩ := Fault.guard_eq_ok.mp h
  obtain ⟨rfl, -⟩ := Prod.mk.inj (Except.ok.inj h)
  refine devicesFollow_update ?_ db
  exact fun _ => ⟨rfl, .inl rfl, fun h => ⟨h.name, h.note⟩⟩

theorem devicesFollow_disownDevicesOf {owner : String}
    (h : db.disownDevicesOf fault owner = .ok db') : db.DevicesFollow db' := by
  obtain ⟨-, h⟩ := Fault.guard_eq_ok.mp h
  rw [← Except.ok.inj h]
  refine devicesFollow_update ?_ db
  exact fun _ => ⟨rfl, .inr rfl, fun h => ⟨h.name, h.note⟩⟩

theorem devicesFollow_recordDeviceConnection {id ip version : String}
    (h : db.recordDeviceConnection fault id ip version now = .ok db') : db.DevicesFollow db' := by
  obtain ⟨-, h⟩ := Fault.guard_eq_ok.mp h
  rw [← Except.ok.inj h]
  refine devicesFollow_update ?_ db
  exact fun _ => ⟨rfl, .inl rfl, fun h => ⟨h.name, h.note⟩⟩

theorem devicesFollow_recordDeviceDisconnection {id : String}
    (h : db.recordDeviceDisconnection fault id now = .ok db') : db.DevicesFollow db' := by
  obtain ⟨-, h⟩ := Fault.guard_eq_ok.mp h
  rw [← Except.ok.inj h]
  refine devicesFollow_update ?_ db
  exact fun _ => ⟨rfl, .inl rfl, fun h => ⟨h.name, h.note⟩⟩

theorem optionalText_checked {note stored : String} (hnote : boundedNote note = .ok note)
    (h : optionalText (some note) = some stored) :
    boundedNote stored = .ok stored ∧ stored ≠ "" := by
  obtain ⟨heq, hblank⟩ := Option.filter_eq_some_iff.mp h
  cases heq
  refine ⟨hnote, fun hempty => ?_⟩
  rw [hempty] at hblank
  exact absurd hblank (by decide)

theorem devicesFollow_updateDevice (db : Database) (fault : Fault) (id : String)
    {update : DeviceUpdate} (hupdate : update.Checked) :
    db.DevicesFollow (db.updateDevice fault id update).1 := by
  refine Fault.runStatements_invariant (P := fun a => db.DevicesFollow a)
    (devicesFollow_of_devices rfl) ?_
  intro statement hstatement a ha
  simp only [updateDeviceStatements, List.mem_append, Option.mem_toList, Option.map_eq_some_iff]
    at hstatement
  rcases hstatement with (⟨name, hname, rfl⟩ | ⟨note, hnote, rfl⟩) | ⟨access, -, rfl⟩
  · refine ha.trans (devicesFollow_update ?_ a)
    exact fun _ => ⟨rfl, .inl rfl, fun h => ⟨hupdate.name name hname, h.note⟩⟩
  · refine ha.trans (devicesFollow_update ?_ a)
    exact fun _ => ⟨rfl, .inl rfl, fun h =>
      ⟨h.name, fun stored hstored => optionalText_checked (hupdate.note note hnote) hstored⟩⟩
  · refine ha.trans (devicesFollow_update ?_ a)
    exact fun _ => ⟨rfl, .inl rfl, fun h => ⟨h.name, h.note⟩⟩

theorem usersFollow_of_users (h : db'.users = db.users) : db.UsersFollow db' := by
  intro id user' huser'
  exact ⟨user', h ▸ huser', rfl⟩

theorem usersFollow_updateUser (db : Database) (fault : Fault) (id : String)
    (update : UserUpdate) : db.UsersFollow (db.updateUser fault id update).1 := by
  refine Fault.runStatements_invariant (P := fun a => db.UsersFollow a)
    (usersFollow_of_users rfl) ?_
  have hset : ∀ (f : UserRecord → UserRecord) (hf : ∀ user, (f user).id = user.id)
      (hname : ∀ user, (f user).username = user.username) (a : Database),
      db.UsersFollow a → db.UsersFollow (setUser id f hf a) := by
    intro f hf hname a ha userId user' huser'
    simp only [setUser, Rows.find_update, Option.map_eq_some_iff] at huser'
    obtain ⟨user, huser, rfl⟩ := huser'
    obtain ⟨old, hold, hsame⟩ := ha userId user huser
    refine ⟨old, hold, ?_⟩
    split
    · exact (hname user).trans hsame
    · exact hsame
  intro statement hstatement a ha
  simp only [updateUserStatements, List.mem_append, Option.mem_toList, Option.map_eq_some_iff]
    at hstatement
  rcases hstatement with (⟨_, -, rfl⟩ | ⟨_, -, rfl⟩) | ⟨_, -, rfl⟩
  all_goals
    refine hset _ _ ?_ a ha
    exact fun _ => rfl

theorem devices_updateUser (db : Database) (fault : Fault) (id : String) (update : UserUpdate) :
    (db.updateUser fault id update).1.devices = db.devices := by
  refine Fault.runStatements_invariant (P := fun a : Database => a.devices = db.devices) rfl ?_
  intro statement hstatement a ha
  simp only [updateUserStatements, List.mem_append, Option.mem_toList, Option.map_eq_some_iff]
    at hstatement
  rcases hstatement with (⟨_, -, rfl⟩ | ⟨_, -, rfl⟩) | ⟨_, -, rfl⟩ <;> exact ha

theorem usersFollow_deleteUser {id : String} (h : db.deleteUser fault id = .ok db') :
    db.UsersFollow db' := by
  obtain rfl := deleteUser_deletes h
  intro userId user' huser'
  simp only [Rows.find_delete, Option.filter_eq_some_iff] at huser'
  exact ⟨user', huser'.1, rfl⟩

theorem DevicesFollow.row (h : db.DevicesFollow db') {id : String} {device' : DeviceRecord}
    (hdevice' : db'.devices.find id = some device') :
    ∃ device, db.devices.find id = some device ∧ device.Follows device' := by
  have hid := h id
  rw [hdevice'] at hid
  cases hrow : db.devices.find id with
  | none =>
      rw [hrow] at hid
      cases hid
  | some device =>
      rw [hrow] at hid
      cases hid with
      | some hfollows => exact ⟨device, rfl, hfollows⟩

theorem DevicesFollow.kept (h : db.DevicesFollow db') {id : String} {device : DeviceRecord}
    (hdevice : db.devices.find id = some device) :
    ∃ device', db'.devices.find id = some device' ∧ device'.kind = device.kind := by
  have hid := h id
  rw [hdevice] at hid
  cases hrow : db'.devices.find id with
  | none =>
      rw [hrow] at hid
      cases hid
  | some device' =>
      rw [hrow] at hid
      cases hid with
      | some hfollows => exact ⟨device', rfl, hfollows.kind⟩

theorem Checked.users (h : db.Checked) (hfollow : db.UsersFollow db') :
    (∀ id user, db'.users.find id = some user →
      validatedUsername user.username = .ok user.username) ∧
    ∀ id id' user user', db'.users.find id = some user → db'.users.find id' = some user' →
      user.username = user'.username → id = id' := by
  constructor
  · intro id user huser
    obtain ⟨old, hold, hname⟩ := hfollow id user huser
    rw [hname]
    exact h.usernames id old hold
  · intro id id' user user' huser huser' heq
    obtain ⟨old, hold, hname⟩ := hfollow id user huser
    obtain ⟨old', hold', hname'⟩ := hfollow id' user' huser'
    exact h.distinct id id' old old' hold hold' (hname ▸ hname' ▸ heq)

theorem Checked.createUser (h : db.Checked) {identifier : Option String}
    {username passwordHash : String} {role : UserRole}
    (hname : validatedUsername username = .ok username)
    (hcreated : db.createUser fault identifier username passwordHash role now = .ok db') :
    db'.Checked ∧ db.KindsPersist db' := by
  have hfree : db.users.anyRow (fun user => user.username = username) = false := by
    unfold Database.createUser at hcreated
    cases identifier with
    | none => cases hcreated
    | some id =>
        obtain ⟨-, hcreated⟩ := Fault.guard_eq_ok.mp hcreated
        split at hcreated
        · cases hcreated
        · next hany => simpa using hany
  obtain ⟨new, users, hinsert, rfl⟩ := createUser_inserts hcreated
  obtain ⟨hnone, hfind⟩ := Rows.insert_eq_some hinsert
  rw [Rows.anyRow_eq_false] at hfree
  have hother : ∀ id user, db.users.find id = some user → user.username ≠ username :=
    fun id user huser => of_decide_eq_false (hfree id user huser)
  refine ⟨⟨fun id user huser => ?_, fun id id' user user' huser huser' heq => ?_, h.devices,
    fun id device owner hdevice howner => ?_, h.settledOnce, h.used⟩,
    ⟨fun id row hrow => ⟨row, hrow, rfl⟩, fun id row hrow => ⟨row, hrow, rfl⟩⟩⟩
  · rw [hfind] at huser
    split at huser
    · cases huser
      exact hname
    · exact h.usernames id user huser
  · rw [hfind] at huser huser'
    split at huser
    · next hid =>
        cases huser
        split at huser'
        · next hid' => exact hid.trans hid'.symm
        · exact absurd heq.symm (hother id' user' huser')
    · split at huser'
      · cases huser'
        exact absurd heq (hother id user huser)
      · exact h.distinct id id' user user' huser huser' heq
  · rw [hfind]
    split
    · rfl
    · exact h.owners id device owner hdevice howner

theorem Checked.createDevice (h : db.Checked) {device : NewDevice}
    (hname : requireText device.name "设备名称" MAX_DEVICE_NAME_LENGTH = .ok device.name)
    (hnote : device.note = none) (hcreated : db.createDevice fault device now = .ok db') :
    db'.Checked ∧ db.KindsPersist db' := by
  obtain ⟨howner, devices, hinsert, rfl⟩ := createDevice_inserts hcreated
  obtain ⟨hnone, hfind⟩ := Rows.insert_eq_some hinsert
  have hkept : ∀ id row, db.devices.find id = some row → devices.find id = some row := by
    intro id row hrow
    have hne : id ≠ (newDevice device now).id := by
      rintro rfl
      rw [hnone] at hrow
      cases hrow
    rw [hfind, if_neg hne]
    exact hrow
  refine ⟨⟨h.usernames, h.distinct, fun id row hrow => ?_, fun id row owner hrow hown => ?_,
    h.settledOnce, fun id row hrow => ?_⟩, ⟨fun id row hrow => ⟨row, hrow, rfl⟩,
    fun id row hrow => ⟨row, hkept id row hrow, rfl⟩⟩⟩
  · rw [hfind] at hrow
    split at hrow
    · cases hrow
      refine ⟨hname, fun note hsome => ?_⟩
      rw [show (newDevice device now).note = device.note from rfl, hnote] at hsome
      cases hsome
    · exact h.devices id row hrow
  · rw [hfind] at hrow
    split at hrow
    · cases hrow
      rw [show device.ownerUserId = some owner from hown] at howner
      exact howner
    · exact h.owners id row owner hrow hown
  · obtain ⟨hsame, hused⟩ := h.used id row hrow
    refine ⟨hsame, fun deviceId hby => ?_⟩
    obtain ⟨user, huser, hkind⟩ := hused deviceId hby
    exact ⟨user, hkept deviceId user huser, hkind⟩

theorem Checked.follow (h : db.Checked) (husers : db.UsersFollow db')
    (hdevices : db.DevicesFollow db') (hcodes : db'.enrollmentCodes = db.enrollmentCodes)
    (howners : ∀ id device owner, db'.devices.find id = some device →
      device.ownerUserId = some owner → (db.users.find owner).isSome = true →
      (db'.users.find owner).isSome = true) :
    db'.Checked ∧ db.KindsPersist db' := by
  obtain ⟨husernames, hdistinct⟩ := h.users husers
  refine ⟨⟨husernames, hdistinct, fun id device' hdevice' => ?_,
    fun id device' owner hdevice' howner => ?_, fun id row hrow => ?_, fun id row hrow => ?_⟩,
    ⟨fun id row hrow => ⟨row, hcodes ▸ hrow, rfl⟩, fun id row hrow => hdevices.kept hrow⟩⟩
  · obtain ⟨device, hdevice, hfollows⟩ := hdevices.row hdevice'
    exact hfollows.checked (h.devices id device hdevice)
  · obtain ⟨device, hdevice, hfollows⟩ := hdevices.row hdevice'
    refine howners id device' owner hdevice' howner ?_
    rcases hfollows.owner with hsame | hnone
    · exact h.owners id device owner hdevice (hsame ▸ howner)
    · rw [hnone] at howner
      cases howner
  · rw [hcodes] at hrow
    exact h.settledOnce id row hrow
  · rw [hcodes] at hrow
    obtain ⟨hsame, hused⟩ := h.used id row hrow
    refine ⟨hsame, fun deviceId hby => ?_⟩
    obtain ⟨device, hdevice, hkind⟩ := hused deviceId hby
    obtain ⟨device', hdevice', hkind'⟩ := hdevices.kept hdevice
    exact ⟨device', hdevice', hkind'.trans hkind⟩

theorem Settles.kinds {id : String} {f : EnrollmentRecord → EnrollmentRecord} {changed : Bool}
    (h : Settles db db' id f changed) (hf : ∀ row, (f row).kind = row.kind)
    (hdevices : db'.devices = db.devices) : db.KindsPersist db' := by
  refine ⟨fun k row hrow => ?_, fun k device hdevice => ⟨device, hdevices ▸ hdevice, rfl⟩⟩
  refine ⟨_, by rw [h.rows, hrow, Option.map_some], ?_⟩
  split
  · exact hf row
  · rfl

theorem Checked.createEnrollment (h : db.Checked) {identifier : Option String}
    {enrollment : NewEnrollment}
    (hcreated : db.createEnrollment fault identifier enrollment now = .ok db')
    (hsettled : db'.SettledOnce) : db'.Checked ∧ db.KindsPersist db' := by
  obtain ⟨-, new, codes, hinsert, rfl⟩ := createEnrollment_inserts hcreated
  obtain ⟨hnone, hfind⟩ := Rows.insert_eq_some hinsert
  refine ⟨⟨h.usernames, h.distinct, h.devices, h.owners, hsettled, fun id row hrow => ?_⟩,
    ⟨fun id row hrow => ⟨row, ?_, rfl⟩, fun id device hdevice => ⟨device, hdevice, rfl⟩⟩⟩
  · rw [hfind] at hrow
    split at hrow
    · cases hrow
      refine ⟨rfl, fun deviceId hby => ?_⟩
      cases hby
    · exact h.used id row hrow
  · have hne : id ≠ (newEnrollment new enrollment now).id := by
      intro heq
      rw [heq, hnone] at hrow
      cases hrow
    rw [hfind, if_neg hne]
    exact hrow

theorem Checked.cancelEnrollment (h : db.Checked) {id : String} {changed : Bool}
    (hcancelled : db.cancelEnrollment fault id now = .ok (db', changed))
    (hsettled : db'.SettledOnce) : db'.Checked ∧ db.KindsPersist db' := by
  have hsettles := cancelEnrollment_eq_ok hcancelled
  obtain ⟨-, hcancelled⟩ := Fault.guard_eq_ok.mp hcancelled
  obtain ⟨rfl, -⟩ := Prod.mk.inj (Except.ok.inj hcancelled)
  refine ⟨⟨h.usernames, h.distinct, h.devices, h.owners, hsettled, fun k row hrow => ?_⟩,
    hsettles.kinds (fun _ => rfl) rfl⟩
  rw [hsettles.rows, Option.map_eq_some_iff] at hrow
  obtain ⟨old, hold, rfl⟩ := hrow
  split
  · exact h.used k old hold
  · exact h.used k old hold

theorem Checked.markEnrollmentUsed (h : db.Checked) {id deviceId : String} {changed : Bool}
    {code : EnrollmentRecord} {device : DeviceRecord}
    (hcode : db.enrollmentCodes.find id = some code)
    (hdevice : db.devices.find deviceId = some device) (hkind : device.kind = code.kind)
    (hburned : db.markEnrollmentUsed fault id deviceId now = .ok (db', changed))
    (hsettled : db'.SettledOnce) : db'.Checked ∧ db.KindsPersist db' := by
  have hsettles := markEnrollmentUsed_eq_ok hburned
  obtain ⟨-, hburned⟩ := Fault.guard_eq_ok.mp hburned
  obtain ⟨rfl, -⟩ := Prod.mk.inj (Except.ok.inj hburned)
  refine ⟨⟨h.usernames, h.distinct, h.devices, h.owners, hsettled, fun k row hrow => ?_⟩,
    hsettles.kinds (fun _ => rfl) rfl⟩
  rw [hsettles.rows, Option.map_eq_some_iff] at hrow
  obtain ⟨old, hold, rfl⟩ := hrow
  split
  · next hk =>
      rw [hk.1, hcode, Option.some.injEq] at hold
      subst hold
      refine ⟨rfl, fun other hother => ?_⟩
      cases hother
      exact ⟨device, hdevice, hkind⟩
  · exact h.used k old hold

end Follow

end Database

/-- What a request carries from one action to the next was checked when it was read. -/
def Request.Checked (db : Database) : Request → Prop
  | .updatingDevice _ update => update.Checked
  | .issuing kind _ name enrollment =>
      requireText name "设备名称" MAX_DEVICE_NAME_LENGTH = .ok name ∧
      ∀ id, enrollment = some id → ∃ row, db.enrollmentCodes.find id = some row ∧ row.kind = kind
  | .burning id credential => ∃ row device, db.enrollmentCodes.find id = some row ∧
      db.devices.find credential.deviceId = some device ∧ device.kind = row.kind
  | _ => True

section Requests

variable {config : RelayConfig} {choice : TaskChoice} {relay relay' : Relay}
  {request request' : Request}

theorem Request.Checked.persist {db db' : Database} (h : request.Checked db)
    (hdb : db.KindsPersist db') : request.Checked db' := by
  cases request with
  | issuing kind owner name enrollment =>
      refine ⟨h.1, fun id hid => ?_⟩
      obtain ⟨row, hrow, hkind⟩ := h.2 id hid
      obtain ⟨row', hrow', hkind'⟩ := hdb.codes id row hrow
      exact ⟨row', hrow', hkind'.trans hkind⟩
  | burning id credential =>
      obtain ⟨row, device, hrow, hdevice, hkind⟩ := h
      obtain ⟨row', hrow', hkind'⟩ := hdb.codes id row hrow
      obtain ⟨device', hdevice', hdeviceKind⟩ := hdb.devices _ device hdevice
      exact ⟨row', device', hrow', hdevice', hdeviceKind.trans (hkind.trans hkind'.symm)⟩
  | _ => exact h

def Request.stores : Request → Bool
  | .createUser _ _ _ => true
  | .updateDevice _ _ _ => true
  | .updatingDevice _ _ => true
  | .enrollWithCode _ _ => true
  | .enrollWithPassword _ _ _ => true
  | .issuing _ _ _ _ => true
  | request => request.writesCodes

theorem Request.checked_revokeNext (db : Database) (tail : RevokeTail) (order : List String) :
    (revokeNext tail order).Checked db := by
  cases order with
  | nil => cases tail <;> trivial
  | cons deviceId remaining => trivial

theorem Database.Checked.followKept {db db' : Database} (h : db.Checked)
    (husers : db.UsersFollow db') (hdevices : db.DevicesFollow db')
    (hcodes : db'.enrollmentCodes = db.enrollmentCodes)
    (hkept : ∀ userId, (db.users.find userId).isSome = true →
      (db'.users.find userId).isSome = true) : db'.Checked ∧ db.KindsPersist db' :=
  h.follow husers hdevices hcodes fun _ _ owner _ _ howner => hkept owner howner

theorem Database.Checked.deleteUser {db db' : Database} (h : db.Checked) {fault : Fault}
    {id : String} (hdeleted : db.deleteUser fault id = .ok db') :
    db'.Checked ∧ db.KindsPersist db' := by
  obtain ⟨hcodes, hdevices, hkept, hfree⟩ : db'.enrollmentCodes = db.enrollmentCodes ∧
      db'.devices = db.devices ∧
      (∀ userId, userId ≠ id → db'.users.find userId = db.users.find userId) ∧
      ((db.users.find id).isSome = true →
        ∀ deviceId device, db.devices.find deviceId = some device →
          device.ownerUserId ≠ some id) := by
    have hrows := Database.deleteUser_deletes hdeleted
    obtain ⟨-, hdeleted⟩ := Fault.guard_eq_ok.mp hdeleted
    split at hdeleted
    · cases hdeleted
    · next hnot =>
        subst hrows
        refine ⟨rfl, rfl, fun userId hne => ?_, fun huser deviceId device hdevice howner => ?_⟩
        · rw [Rows.find_delete]
          cases huser : db.users.find userId with
          | none => rfl
          | some user =>
              have hkey : user.id = userId := Rows.key_of_find huser
              rw [Option.filter_some, if_pos (by simp [hkey, hne])]
        · rw [huser, Bool.true_and, Rows.anyRow_iff] at hnot
          exact hnot ⟨deviceId, device, hdevice, by simp [howner]⟩
  refine h.follow (Database.usersFollow_deleteUser hdeleted)
    (Database.devicesFollow_of_devices hdevices) hcodes ?_
  intro deviceId device owner hdevice howner huser
  have hne : owner ≠ id := by
    rintro rfl
    exact hfree huser deviceId device (hdevices ▸ hdevice) howner
  rw [hkept owner hne]
  exact huser

theorem RequestStep.checked (h : RequestStep config choice relay request relay' request')
    (hstores : request.stores = false) (hchecked : relay.database.Checked) :
    (relay'.database.Checked ∧ relay.database.KindsPersist relay'.database) ∧
      request'.Checked relay'.database := by
  have hsame := And.intro hchecked (Database.KindsPersist.refl relay.database)
  cases h with
  | userCreated _ => cases hstores
  | userUpdateFailed _ =>
      refine ⟨hchecked.followKept (Database.usersFollow_updateUser _ _ _ _)
        (Database.devicesFollow_of_devices ?_) (Database.codes_updateUser ..).1
        fun userId => (Database.codes_updateUser ..).2 userId, trivial⟩
      exact Database.devices_updateUser _ _ _ _
  | userUpdated =>
      refine ⟨hchecked.followKept (Database.usersFollow_updateUser _ _ _ _)
        (Database.devicesFollow_of_devices ?_) (Database.codes_updateUser ..).1
        fun userId => (Database.codes_updateUser ..).2 userId, ?_⟩
      · exact Database.devices_updateUser _ _ _ _
      · split <;> trivial
  | signedOut hdeleted =>
      obtain ⟨-, hdeleted⟩ := Fault.guard_eq_ok.mp hdeleted
      cases hdeleted
      refine ⟨hchecked.followKept (Database.usersFollow_of_users rfl)
        (Database.devicesFollow_of_devices rfl) rfl fun _ h => h, ?_⟩
      split <;> trivial
  | listed _ => exact ⟨hsame, Request.checked_revokeNext _ _ _⟩
  | rowRevoked hrevoked =>
      have husers := (Database.revokeDevice_eq_ok hrevoked).1
      exact ⟨hchecked.followKept (Database.usersFollow_of_users husers)
        (Database.devicesFollow_revokeDevice hrevoked) (Database.codes_revokeDevice hrevoked)
        fun userId huser => husers ▸ huser, trivial⟩
  | unrouted _ => exact ⟨hsame, Request.checked_revokeNext _ _ _⟩
  | framed => exact ⟨hsame, trivial⟩
  | closed => exact ⟨hsame, Request.checked_revokeNext _ _ _⟩
  | disowned hdisowned =>
      have husers := (Database.disownDevicesOf_eq_ok hdisowned).1
      exact ⟨hchecked.followKept (Database.usersFollow_of_users husers)
        (Database.devicesFollow_disownDevicesOf hdisowned)
        (Database.codes_disownDevicesOf hdisowned) fun userId huser => husers ▸ huser, trivial⟩
  | forgotten hdeleted =>
      obtain ⟨-, hdeleted⟩ := Fault.guard_eq_ok.mp hdeleted
      cases hdeleted
      exact ⟨hchecked.followKept (Database.usersFollow_of_users rfl)
        (Database.devicesFollow_of_devices rfl) rfl fun _ h => h, trivial⟩
  | userDeleted hdeleted => exact ⟨hchecked.deleteUser hdeleted, trivial⟩
  | deviceFound => cases hstores
  | deviceUpdated => cases hstores
  | codeCreated _ => cases hstores
  | codeCancelled _ => cases hstores
  | codeRedeemed => cases hstores
  | signedIn => cases hstores
  | issued _ _ _ => cases hstores
  | burned _ _ => cases hstores
  | discarded hrevoked =>
      have husers := (Database.revokeDevice_eq_ok hrevoked).1
      exact ⟨hchecked.followKept (Database.usersFollow_of_users husers)
        (Database.devicesFollow_revokeDevice hrevoked) (Database.codes_revokeDevice hrevoked)
        fun userId huser => husers ▸ huser, trivial⟩
  | _ => exact ⟨hsame, trivial⟩

def Request.KeepsChecked (relay relay' : Relay) (request' : Request) : Prop :=
  (relay'.database.Checked ∧ relay.database.KindsPersist relay'.database) ∧
    request'.Checked relay'.database

theorem Request.checked_createUser {username password : String} {role : UserRole}
    (hstep : (Request.createUser username password role).step config relay choice =
      some (relay', request'))
    (hchecked : relay.database.Checked) :
    KeepsChecked relay relay' request' := by
  have hsame := And.intro hchecked (Database.KindsPersist.refl relay.database)
  simp only [Request.step] at hstep
  split at hstep
  · cases hstep
    exact ⟨hsame, trivial⟩
  · cases hstep
    exact ⟨hsame, trivial⟩
  · next hname _ =>
      split at hstep
      · cases hstep
        exact ⟨hsame, trivial⟩
      · next hcreated =>
          cases hstep
          exact ⟨hchecked.createUser (validatedUsername_again hname) hcreated, trivial⟩

theorem Request.checked_updateDevice {owner : Option String} {id : String}
    {update : DeviceUpdateRequest}
    (hstep : (Request.updateDevice owner id update).step config relay choice =
      some (relay', request'))
    (hchecked : relay.database.Checked) :
    KeepsChecked relay relay' request' := by
  have hsame := And.intro hchecked (Database.KindsPersist.refl relay.database)
  simp only [Request.step] at hstep
  split at hstep
  · cases hstep
    exact ⟨hsame, trivial⟩
  · split at hstep
    · cases hstep
      exact ⟨hsame, trivial⟩
    · next hupdate =>
        cases hstep
        exact ⟨hsame, DeviceUpdateRequest.toUpdate_checked hupdate⟩

theorem Request.checked_updatingDevice {deviceId : String} {update : DeviceUpdate}
    (hstep : (Request.updatingDevice deviceId update).step config relay choice =
      some (relay', request'))
    (hchecked : relay.database.Checked)
    (hrequest : (Request.updatingDevice deviceId update).Checked relay.database) :
    KeepsChecked relay relay' request' := by
  have hsame := And.intro hchecked (Database.KindsPersist.refl relay.database)
  have hfollow := hchecked.followKept (Database.usersFollow_of_users
    (Database.keeps_updateDevice relay.database choice.fault deviceId update).users)
    (Database.devicesFollow_updateDevice relay.database choice.fault deviceId hrequest)
    (Database.codes_updateDevice relay.database choice.fault deviceId update)
    fun userId huser =>
      (Database.keeps_updateDevice relay.database choice.fault deviceId update).users ▸ huser
  simp only [Request.step] at hstep
  split at hstep
  · next hupdated =>
      cases hstep
      rw [hupdated] at hfollow
      exact ⟨hfollow, trivial⟩
  · next hupdated =>
      cases hstep
      rw [hupdated] at hfollow
      exact ⟨hfollow, trivial⟩

theorem Request.checked_enrollWithCode {code name : String}
    (hstep : (Request.enrollWithCode code name).step config relay choice =
      some (relay', request'))
    (hchecked : relay.database.Checked) :
    KeepsChecked relay relay' request' := by
  have hsame := And.intro hchecked (Database.KindsPersist.refl relay.database)
  simp only [Request.step] at hstep
  split at hstep
  · cases hstep
    exact ⟨hsame, trivial⟩
  · next hname =>
      split at hstep
      · cases hstep
        exact ⟨hsame, trivial⟩
      · next enrollment hredeemable =>
          cases hstep
          obtain ⟨⟨_, -, hrow, -⟩, -⟩ := codeRow_of_redeemable hredeemable
          refine ⟨hsame, requireText_again hname, fun id hid => ?_⟩
          cases hid
          exact ⟨enrollment, hrow, rfl⟩

theorem Request.checked_enrollWithPassword {username password name : String}
    (hstep : (Request.enrollWithPassword username password name).step config relay choice =
      some (relay', request'))
    (hchecked : relay.database.Checked) :
    KeepsChecked relay relay' request' := by
  have hsame := And.intro hchecked (Database.KindsPersist.refl relay.database)
  simp only [Request.step] at hstep
  split at hstep
  · cases hstep
    exact ⟨hsame, trivial⟩
  · next hname =>
      split at hstep
      · cases hstep
        exact ⟨hsame, trivial⟩
      · cases hstep
        refine ⟨hsame, requireText_again hname, fun id hid => ?_⟩
        cases hid

theorem Request.checked_issuing {kind : DeviceKind} {owner : Option String} {name : String}
    {enrollment : Option String}
    (hstep : (Request.issuing kind owner name enrollment).step config relay choice =
      some (relay', request'))
    (hchecked : relay.database.Checked)
    (hrequest : (Request.issuing kind owner name enrollment).Checked relay.database) :
    KeepsChecked relay relay' request' := by
  have hsame := And.intro hchecked (Database.KindsPersist.refl relay.database)
  obtain ⟨hname, hcode⟩ := hrequest
  simp only [Request.step] at hstep
  split at hstep
  · cases hstep
    exact ⟨hsame, trivial⟩
  · next credential _ =>
      split at hstep
      · cases hstep
        exact ⟨hsame, trivial⟩
      · next database hcreated =>
          cases hstep
          have hnew : database.Checked ∧ relay.database.KindsPersist database := by
            refine hchecked.createDevice ?_ ?_ hcreated
            · exact hname
            · rfl
          refine ⟨hnew, ?_⟩
          split
          · next id =>
              obtain ⟨row, hrow, hkind⟩ := hcode id rfl
              obtain ⟨row', hrow', hkind'⟩ := hnew.2.codes id row hrow
              obtain ⟨-, devices, hinsert, hdatabase⟩ :=
                Database.createDevice_inserts hcreated
              refine ⟨row', Database.newDevice (issued config credential kind owner name)
                choice.now, hrow', ?_, (hkind'.trans hkind).symm⟩
              rw [hdatabase]
              exact ((Rows.insert_eq_some hinsert).2 _).trans (if_pos rfl)
          · trivial

theorem Request.checked_creatingEnrollment {createdBy : String} {owner : Option String}
    {request : CreateEnrollmentRequest}
    (hstep : (Request.creatingEnrollment createdBy owner request).step config relay choice =
      some (relay', request'))
    (hchecked : relay.database.Checked)
    (hsettled : relay'.database.SettledOnce) :
    KeepsChecked relay relay' request' := by
  have hsame := And.intro hchecked (Database.KindsPersist.refl relay.database)
  simp only [Request.step] at hstep
  split at hstep
  · cases hstep
    exact ⟨hsame, trivial⟩
  · cases hstep
    exact ⟨hsame, trivial⟩
  · split at hstep
    · cases hstep
      exact ⟨hsame, trivial⟩
    · next hcreated =>
        cases hstep
        exact ⟨hchecked.createEnrollment hcreated hsettled, trivial⟩

theorem Request.checked_cancelling {id : String}
    (hstep : (Request.cancelling id).step config relay choice =
      some (relay', request'))
    (hchecked : relay.database.Checked)
    (hsettled : relay'.database.SettledOnce) :
    KeepsChecked relay relay' request' := by
  have hsame := And.intro hchecked (Database.KindsPersist.refl relay.database)
  simp only [Request.step] at hstep
  split at hstep
  · cases hstep
    exact ⟨hsame, trivial⟩
  · next hcancelled =>
      cases hstep
      refine ⟨hchecked.cancelEnrollment hcancelled hsettled, ?_⟩
      split <;> trivial

theorem Request.checked_burning {id : String} {credential : DeviceCredential}
    (hstep : (Request.burning id credential).step config relay choice =
      some (relay', request'))
    (hchecked : relay.database.Checked)
    (hrequest : (Request.burning id credential).Checked relay.database)
    (hsettled : relay'.database.SettledOnce) :
    KeepsChecked relay relay' request' := by
  have hsame := And.intro hchecked (Database.KindsPersist.refl relay.database)
  obtain ⟨row, device, hrow, hdevice, hkind⟩ := hrequest
  simp only [Request.step] at hstep
  split at hstep
  · cases hstep
    exact ⟨hsame, trivial⟩
  · next hburned =>
      cases hstep
      refine ⟨hchecked.markEnrollmentUsed hrow hdevice hkind hburned hsettled, ?_⟩
      split <;> trivial

/-- Every action of a request keeps what is stored checked, and what it goes on with as well. -/
theorem Request.checked_step (hstep : request.step config relay choice = some (relay', request'))
    (hchecked : relay.database.Checked) (hrequest : request.Checked relay.database) :
    KeepsChecked relay relay' request' := by
  have hsettled := (Request.codesChange hstep).settledOnce hchecked.settledOnce
  cases hstores : request.stores with
  | false => exact (Request.step_eq_some hstep).checked hstores hchecked
  | true =>
      cases request with
      | createUser username password role => exact checked_createUser hstep hchecked
      | updateDevice owner id update => exact checked_updateDevice hstep hchecked
      | updatingDevice deviceId update => exact checked_updatingDevice hstep hchecked hrequest
      | enrollWithCode code name => exact checked_enrollWithCode hstep hchecked
      | enrollWithPassword username password name =>
          exact checked_enrollWithPassword hstep hchecked
      | issuing kind owner name enrollment => exact checked_issuing hstep hchecked hrequest
      | creatingEnrollment createdBy owner request =>
          exact checked_creatingEnrollment hstep hchecked hsettled
      | cancelling id => exact checked_cancelling hstep hchecked hsettled
      | burning id credential => exact checked_burning hstep hchecked hrequest hsettled
      | _ => cases hstores

theorem Database.checked_getD {db : Database} {result : Except DatabaseError Database}
    (hchecked : db.Checked)
    (h : ∀ db', result = .ok db' → db.DevicesFollow db' ∧ db'.users = db.users ∧
      db'.enrollmentCodes = db.enrollmentCodes) :
    (result.toOption.getD db).Checked ∧ db.KindsPersist (result.toOption.getD db) := by
  cases hresult : result with
  | error e => exact ⟨hchecked, .refl db⟩
  | ok db' =>
      obtain ⟨hdevices, husers, hcodes⟩ := h db' hresult
      exact hchecked.followKept (Database.usersFollow_of_users husers) hdevices hcodes
        fun userId huser => husers ▸ huser

theorem Session.checked_step {session session' : Session}
    (hstep : session.step config relay choice = some (relay', session'))
    (hchecked : relay.database.Checked) :
    relay'.database.Checked ∧ relay.database.KindsPersist relay'.database := by
  have hsame : relay'.database = relay.database →
      relay'.database.Checked ∧ relay.database.KindsPersist relay'.database := by
    intro heq
    rw [heq]
    exact ⟨hchecked, .refl _⟩
  cases session with
  | recording tunnel serial =>
      cases hstep
      refine Database.checked_getD hchecked fun database hrecorded => ?_
      refine ⟨Database.devicesFollow_recordDeviceConnection hrecorded, ?_⟩
      obtain ⟨-, hrecorded⟩ := Fault.guard_eq_ok.mp hrecorded
      cases hrecorded
      exact ⟨rfl, rfl⟩
  | disconnected tunnel =>
      cases hstep
      refine Database.checked_getD hchecked fun database hrecorded => ?_
      refine ⟨Database.devicesFollow_recordDeviceDisconnection hrecorded, ?_⟩
      obtain ⟨-, hrecorded⟩ := Fault.guard_eq_ok.mp hrecorded
      cases hrecorded
      exact ⟨rfl, rfl⟩
  | reading tunnel serial job snapshot =>
      cases Session.step_eq_some hstep with
      | received =>
          refine hsame ?_
          unfold answerPing
          split <;> rfl
      | _ => exact hsame rfl
  | _ => cases Session.step_eq_some hstep <;> exact hsame rfl

end Requests

namespace System

section Runs

variable {config : RelayConfig} {s s' : System} {label : SystemLabel}

/-- What the relay stores is checked, and so is what its requests carry. -/
structure AllChecked (s : System) : Prop where
  database : s.shared.database.Checked
  requests : ∀ request, .request request ∈ s.tasks → request.Checked s.shared.database

theorem allChecked_step (hs : AllChecked s) (h : step config s label = some s') :
    AllChecked s' := by
  cases label with
  | spawn task =>
      obtain ⟨hstarts, rfl⟩ := poolStep_spawn h
      refine ⟨hs.database, fun request hrequest => ?_⟩
      rcases List.mem_append.mp hrequest with hrequest | hrequest
      · exact hs.requests request hrequest
      · rw [← List.mem_singleton.mp hrequest] at hstarts
        cases request with
        | updatingDevice _ _ => cases hstarts
        | issuing _ _ _ _ => cases hstarts
        | burning _ _ => cases hstarts
        | _ => trivial
  | environment event =>
      obtain ⟨relay, hrelay, rfl⟩ := poolStep_environment h
      have hdatabase := (Relay.channelStep_eq_some hrelay).1
      refine ⟨hdatabase ▸ hs.database, fun request hrequest => ?_⟩
      rw [hdatabase]
      exact hs.requests request hrequest
  | advance index choice =>
      obtain ⟨task, relay, task', htask, hadvance, rfl⟩ := poolStep_advance h
      cases task with
      | session session =>
          obtain ⟨⟨_, session'⟩, hstep, heq⟩ := Option.map_eq_some_iff.mp hadvance
          cases heq
          obtain ⟨hchecked, hpersist⟩ := Session.checked_step hstep hs.database
          refine ⟨hchecked, fun request hrequest => ?_⟩
          rcases mem_set_cases hrequest with hmoved | ⟨i, -, hother⟩
          · cases hmoved
          · exact (hs.requests request (List.mem_of_getElem? hother)).persist hpersist
      | request before =>
          obtain ⟨⟨_, after⟩, hstep, heq⟩ := Option.map_eq_some_iff.mp hadvance
          cases heq
          obtain ⟨⟨hchecked, hpersist⟩, hafter⟩ := Request.checked_step hstep hs.database
            (hs.requests before (List.mem_of_getElem? htask))
          refine ⟨hchecked, fun request hrequest => ?_⟩
          rcases mem_set_cases hrequest with hmoved | ⟨i, -, hother⟩
          · cases hmoved
            exact hafter
          · exact (hs.requests request (List.mem_of_getElem? hother)).persist hpersist

end Runs

/-- In every run, whatever acts between the check of a request and its query and whatever fails:
account names are checked and all different, device texts are checked, every owner exists, and a
code was settled once, if used then by a device of its kind that is still in the table. -/
theorem stored_checked (config : RelayConfig) (database : Database) (hchecked : database.Checked)
    (labels : List SystemLabel) (s : System)
    (hrun : run (step config) (init database) labels = some s) : s.shared.database.Checked := by
  have hall : AllChecked s :=
    run_invariant (fun _ _ _ hs _ hstep => allChecked_step hs hstep)
      ⟨hchecked, fun _ hrequest => absurd hrequest List.not_mem_nil⟩
      (meets_true (init database) labels) hrun
  exact hall.database

theorem checked_empty : Database.empty.Checked := by
  refine ⟨fun _ _ h => ?_, fun _ _ _ _ h => ?_, fun _ _ h => ?_, fun _ _ _ h => ?_,
    fun _ _ h => ?_, fun _ _ h => ?_⟩
  all_goals cases h

def createAndEnroll : List SystemLabel :=
  enrollDevice 0 .desktop none "ABCD-EFGH-JKLM" "device-a" ++
    [.spawn (.request (.createUser " alice " "another-secret" .user)),
      .advance 2 { identifier := some "user-1" }]

theorem stored_checked_createAndEnroll :
    ∃ s user device, run (step plainConfig) (init .empty) createAndEnroll = some s ∧
      s.shared.database.users.find "user-1" = some user ∧
      validatedUsername user.username = .ok user.username ∧
      s.shared.database.devices.find "device-a" = some device ∧ device.Checked := by
  obtain ⟨s, hrun, huser, hdevice⟩ := exists_run (step plainConfig) (init .empty) createAndEnroll
    (fun s => (s.shared.database.users.find "user-1").isSome = true ∧
      (s.shared.database.devices.find "device-a").isSome = true) (by decide)
  obtain ⟨user, huser⟩ := Option.isSome_iff_exists.mp huser
  obtain ⟨device, hdevice⟩ := Option.isSome_iff_exists.mp hdevice
  have hstored := stored_checked plainConfig .empty checked_empty createAndEnroll s hrun
  exact ⟨s, user, device, hrun, huser, hstored.usernames "user-1" user huser, hdevice,
    hstored.devices "device-a" device hdevice⟩

end System

end TermexoRelay
