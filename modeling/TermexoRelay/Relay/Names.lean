import TermexoRelay.Api.Redemption
import TermexoRelay.Database.Patches
import TermexoRelay.Relay.Tunnels

/-!
# The name of a connected device

A device's name stands in its row and, while its tunnel is registered, in the registry, where hop
names, the counted links and the announcements to the upstream take it from. The registry has it
from the row the tunnel's authentication read.
-/

namespace TermexoRelay

open Transition

/-! ## Names in the database -/

namespace Database

def deviceName (db : Database) (deviceId : String) : Option String :=
  (db.devices.find deviceId).map DeviceRecord.name

/-- No row that is there changes its name. -/
def NamesPersist (db db' : Database) : Prop :=
  ∀ deviceId name, db.deviceName deviceId = some name → db'.deviceName deviceId = some name

section Queries

variable {db db' : Database} {fault : Fault} {now : Int}

theorem namesPersist_of_devices (h : db'.devices = db.devices) : db.NamesPersist db' := by
  intro deviceId name hname
  rw [deviceName, h]
  exact hname

theorem deviceName_update (p : DeviceRecord → Bool) (f : DeviceRecord → DeviceRecord)
    (hf : ∀ device, (f device).id = device.id) (hname : ∀ device, (f device).name = device.name)
    (db : Database) :
    deviceName { db with devices := db.devices.update p f hf } = db.deviceName := by
  funext deviceId
  exact Rows.map_find_update hf hname db.devices deviceId

theorem namesPersist_createUser {identifier : Option String} {username passwordHash : String}
    {role : UserRole}
    (h : db.createUser fault identifier username passwordHash role now = .ok db') :
    db.NamesPersist db' := by
  obtain ⟨id, users, -, rfl⟩ := createUser_inserts h
  exact namesPersist_of_devices rfl

theorem namesPersist_updateUser (db : Database) (fault : Fault) (id : String)
    (update : UserUpdate) : db.NamesPersist (db.updateUser fault id update).1 := by
  refine namesPersist_of_devices (Fault.runStatements_invariant
    (P := fun a : Database => a.devices = db.devices) rfl ?_)
  intro statement hstatement a ha
  simp only [updateUserStatements, List.mem_append, Option.mem_toList, Option.map_eq_some_iff]
    at hstatement
  rcases hstatement with (⟨_, -, rfl⟩ | ⟨_, -, rfl⟩) | ⟨_, -, rfl⟩ <;> exact ha

theorem namesPersist_deleteUser {id : String} (h : db.deleteUser fault id = .ok db') :
    db.NamesPersist db' := by
  obtain rfl := deleteUser_deletes h
  exact namesPersist_of_devices rfl

theorem namesPersist_deleteSessionsOfUser {userId : String}
    (h : db.deleteSessionsOfUser fault userId = .ok db') : db.NamesPersist db' := by
  obtain ⟨-, h⟩ := Fault.guard_eq_ok.mp h
  cases h
  exact namesPersist_of_devices rfl

theorem namesPersist_createDevice {device : NewDevice}
    (h : db.createDevice fault device now = .ok db') : db.NamesPersist db' := by
  obtain ⟨-, devices, hinsert, rfl⟩ := createDevice_inserts h
  obtain ⟨hfree, hfind⟩ := Rows.insert_eq_some hinsert
  intro deviceId name hname
  have hne : deviceId ≠ (newDevice device now).id := by
    rintro rfl
    rw [deviceName, hfree] at hname
    cases hname
  rw [deviceName, hfind, if_neg hne]
  exact hname

theorem namesPersist_revokeDevice {id : String} {changed : Bool}
    (h : db.revokeDevice fault id now = .ok (db', changed)) : db.NamesPersist db' := by
  obtain ⟨-, h⟩ := Fault.guard_eq_ok.mp h
  obtain ⟨rfl, -⟩ := Prod.mk.inj (Except.ok.inj h)
  intro deviceId name hname
  rw [deviceName_update]
  · exact hname
  · exact fun _ => rfl

theorem namesPersist_disownDevicesOf {owner : String}
    (h : db.disownDevicesOf fault owner = .ok db') : db.NamesPersist db' := by
  obtain ⟨-, h⟩ := Fault.guard_eq_ok.mp h
  rw [← Except.ok.inj h]
  intro deviceId name hname
  rw [deviceName_update]
  · exact hname
  · exact fun _ => rfl

theorem updateDevice_patched (db : Database) (fault : Fault) (id : String) (update : DeviceUpdate) :
    ∃ part : DeviceUpdate, part.name = (if fault = some 0 then none else update.name) ∧
      devicesTable.RowPatched id part.apply db (db.updateDevice fault id update).1 := by
  cases fault with
  | none => exact ⟨update, rfl, devicePatched_statements db id update⟩
  | some failed =>
      have hrun : (db.updateDevice (some failed) id update).1 =
          runAll ((updateDeviceStatements id update).take failed) db := rfl
      refine ⟨update.take failed, ?_, ?_⟩
      · cases failed with
        | zero => rfl
        | succ failed => simp [DeviceUpdate.take, carriedOut]
      · rw [hrun, take_updateDeviceStatements]
        exact devicePatched_statements db id (update.take failed)

theorem deviceName_updateDevice (db : Database) (fault : Fault) (id : String)
    (update : DeviceUpdate) (deviceId : String) :
    (db.updateDevice fault id update).1.deviceName deviceId =
      (db.deviceName deviceId).map fun name =>
        if deviceId = id ∧ fault ≠ some 0 then update.name.getD name else name := by
  obtain ⟨part, hpart, hpatched⟩ := updateDevice_patched db fault id update
  have hfind : (db.updateDevice fault id update).1.devices.find deviceId =
      (db.devices.find deviceId).map fun device =>
        if device.id = id then part.apply device else device := hpatched.patched deviceId
  rw [deviceName, hfind, deviceName, Option.map_map, Option.map_map]
  cases hrow : db.devices.find deviceId with
  | none => rfl
  | some device =>
      have hid : device.id = deviceId := Rows.key_of_find hrow
      simp only [Option.map_some, Function.comp_apply, hid]
      by_cases hdevice : deviceId = id
      · rw [if_pos hdevice, DeviceUpdate.apply, hpart]
        by_cases hfault : fault = some 0
        · simp [hfault]
        · simp [hfault, hdevice]
      · rw [if_neg hdevice, if_neg fun h => hdevice h.1]

end Queries

end Database

section Tasks

variable {config : RelayConfig} {choice : TaskChoice} {relay relay' : Relay}

theorem Session.deviceName_eq {session session' : Session}
    (h : session.step config relay choice = some (relay', session')) :
    relay'.database.deviceName = relay.database.deviceName := by
  rcases Session.database_cases h with hsame | ⟨deviceId, f, hf, hname, hset⟩
  · rw [hsame]
  · rw [hset]
    exact Database.deviceName_update _ f hf hname relay.database

theorem Request.devices_eq {request request' : Request} (hrequest : request.writesCodes = true)
    (h : request.step config relay choice = some (relay', request')) :
    relay'.database.devices = relay.database.devices := by
  cases request with
  | creatingEnrollment createdBy owner request =>
      simp only [Request.step] at h
      split at h
      · cases h
        rfl
      · cases h
        rfl
      · split at h
        · cases h
          rfl
        · next hcreated =>
            cases h
            obtain ⟨-, id, rows, -, rfl⟩ := Database.createEnrollment_inserts hcreated
            rfl
  | cancelling id =>
      simp only [Request.step] at h
      split at h
      · cases h
        rfl
      · next hcancelled =>
          cases h
          obtain ⟨-, hcancelled⟩ := Fault.guard_eq_ok.mp hcancelled
          rw [← (Prod.mk.inj (Except.ok.inj hcancelled)).1]
  | burning enrollment credential =>
      simp only [Request.step] at h
      split at h
      · cases h
        rfl
      · next hburned =>
          cases h
          obtain ⟨-, hburned⟩ := Fault.guard_eq_ok.mp hburned
          rw [← (Prod.mk.inj (Except.ok.inj hburned)).1]
  | _ => cases hrequest

theorem RequestStep.namesPersist {request request' : Request}
    (hwrites : request.writesCodes = false)
    (hrequest : ∀ deviceId update, request ≠ .updatingDevice deviceId update)
    (h : RequestStep config choice relay request relay' request') :
    relay.database.NamesPersist relay'.database := by
  cases h with
  | userCreated h => exact Database.namesPersist_createUser h
  | userUpdateFailed h => exact Database.namesPersist_updateUser _ _ _ _
  | userUpdated => exact Database.namesPersist_updateUser _ _ _ _
  | signedOut h => exact Database.namesPersist_deleteSessionsOfUser h
  | rowRevoked h => exact Database.namesPersist_revokeDevice h
  | disowned h => exact Database.namesPersist_disownDevicesOf h
  | forgotten h => exact Database.namesPersist_deleteSessionsOfUser h
  | userDeleted h => exact Database.namesPersist_deleteUser h
  | deviceUpdated => exact absurd rfl (hrequest _ _)
  | codeCreated _ => cases hwrites
  | codeCancelled _ => cases hwrites
  | issued _ h _ => exact Database.namesPersist_createDevice h
  | burned _ _ => cases hwrites
  | discarded h => exact Database.namesPersist_revokeDevice h
  | _ => exact Database.namesPersist_of_devices rfl

theorem Request.namesPersist {request request' : Request}
    (hrequest : ∀ deviceId update, request ≠ .updatingDevice deviceId update)
    (h : request.step config relay choice = some (relay', request')) :
    relay.database.NamesPersist relay'.database := by
  cases hwrites : request.writesCodes with
  | true => exact Database.namesPersist_of_devices (Request.devices_eq hwrites h)
  | false => exact (Request.step_eq_some h).namesPersist hwrites hrequest

theorem Request.deviceName_updatingDevice {deviceId : String} {update : DeviceUpdate}
    {request' : Request}
    (h : (Request.updatingDevice deviceId update).step config relay choice =
      some (relay', request')) (id : String) :
    relay'.database.deviceName id = (relay.database.deviceName id).map fun name =>
      if id = deviceId ∧ choice.fault ≠ some 0 then update.name.getD name else name := by
  cases Request.step_eq_some h with
  | failed hstop _ => cases hstop
  | deviceUpdated => exact Database.deviceName_updateDevice _ _ _ _ _

end Tasks

/-! ## Names in the registry -/

namespace RegistryState

def directName (state : RegistryState) (deviceId : String) : Option String :=
  (state.entries.lookup deviceId).bind fun entry => match entry.origin with
    | .direct _ => some entry.device.name
    | .announced _ => none

theorem directName_eq_some {state : RegistryState} {deviceId name : String} :
    state.directName deviceId = some name ↔ ∃ entry serial,
      state.entries.lookup deviceId = some entry ∧ entry.origin = .direct serial ∧
        entry.device.name = name := by
  rw [directName, Option.bind_eq_some_iff]
  refine exists_congr fun entry => ?_
  cases entry.origin <;> simp

end RegistryState

section Registered

variable {config : RelayConfig} {choice : TaskChoice} {relay relay' : Relay}
  {session session' : Session}

theorem SessionStep.directName_cases (h : SessionStep config choice relay session relay' session')
    (hs : session.Sound config relay) (hwell : relay.registry.state.WellFormed)
    {deviceId name : String} (hname : relay'.registry.state.directName deviceId = some name) :
    relay.registry.state.directName deviceId = some name ∨ ∃ tunnel serial,
      session = .numbered tunnel serial ∧ tunnel.deviceId = deviceId ∧
        tunnel.peer.device.name = name := by
  obtain ⟨entry, serial, hentry, horigin, hentryName⟩ := RegistryState.directName_eq_some.mp hname
  have hold : relay.registry.state.entries.lookup deviceId = some entry →
      relay.registry.state.directName deviceId = some name := fun hentry =>
    RegistryState.directName_eq_some.mpr ⟨entry, serial, hentry, horigin, hentryName⟩
  rcases h.state_cases with ⟨hsame, -⟩ | ⟨tunnel, drawn, rfl, -, hstate⟩ |
    ⟨tunnel, _, job, _, job', _, rfl, hwork, -⟩ | ⟨tunnel, drawn, _, _, _, rfl, hleft, -⟩
  · exact .inl (hold (hsame ▸ hentry))
  · rw [hstate, RegistryState.connectLocked_entries] at hentry
    rcases Table.lookup_insert_cases hentry with ⟨rfl, rfl⟩ | ⟨-, hentry⟩
    · exact .inr ⟨tunnel, drawn, rfl, rfl, hentryName⟩
    · exact .inl (hold hentry)
  · rw [((hs.job tunnel rfl).step hwork).lookup_direct hwell horigin] at hentry
    exact .inl (hold hentry)
  · exact .inl (hold (Job.lookup_of_disconnect hleft hentry))

theorem SessionStep.numbered_registers {tunnel : Tunnel} {serial : Nat}
    (h : SessionStep config choice relay (.numbered tunnel serial) relay' session') :
    relay'.registry.state.directName tunnel.deviceId = some tunnel.peer.device.name ∧
      relay'.database = relay.database := by
  cases h with
  | connected _ =>
      exact ⟨RegistryState.directName_eq_some.mpr
        ⟨tunnel.presence.entry serial choice.now, serial, AList.lookup_insert _, rfl, rfl⟩, rfl⟩

end Registered

/-! ## Runs -/

/-- The changes one action of a session publishes. -/
def Session.published (config : RelayConfig) (relay : Relay) (choice : TaskChoice) :
    Session → List RegistryChange
  | .numbered tunnel serial =>
      (relay.registry.state.connectLocked config.relayId tunnel.presence serial
        choice.now).2.2.toList
  | .reading _ _ job _ =>
      (job.step config.relayId config.maxHops relay.registry ⟨choice.now, choice.order⟩).elim []
        fun next => next.2.2
  | .leaving tunnel serial _ =>
      ((Job.disconnect tunnel.deviceId serial).step config.relayId config.maxHops relay.registry
        ⟨choice.now, choice.order⟩).elim [] fun next => next.2.2
  | _ => []

namespace System

/-- The changes one step publishes. No request publishes any. -/
def published (config : RelayConfig) (s : System) : SystemLabel → List RegistryChange
  | .advance index choice =>
      match s.tasks[index]? with
      | some (.session session) => session.published config s.shared choice
      | _ => []
  | _ => []

/-- Every registered tunnel has the name in the row of its device. -/
def NamesAgree (s : System) : Prop :=
  ∀ deviceId name, s.shared.registry.state.directName deviceId = some name →
    s.shared.database.deviceName deviceId = some name

/-- A step that renames a connected device gives its entry the new name and publishes that, as far
as the entry is announced at all. -/
def RenamePublished (config : RelayConfig) (s : System) (label : SystemLabel) : Prop :=
  ∀ s' deviceId name, step config s label = some s' →
    (s.shared.registry.state.directName deviceId).isSome = true →
    s.shared.database.deviceName deviceId ≠ some name →
    s'.shared.database.deviceName deviceId = some name →
    ∃ entry, s'.shared.registry.state.entries.lookup deviceId = some entry ∧
      entry.device.name = name ∧
      ∀ announcement, announcementOf config.relayId entry = some announcement →
        .online announcement ∈ s.published config label

/-- A patch gives no other name to a device with a registered tunnel, and a tunnel is registered
only while the row still has the name its authentication read. -/
def namesSettled (s : System) : SystemLabel → Bool
  | .advance index choice =>
      match s.tasks[index]? with
      | some (.session (.numbered tunnel _)) =>
          s.shared.database.deviceName tunnel.deviceId = some tunnel.peer.device.name
      | some (.request (.updatingDevice deviceId update)) =>
          (s.shared.registry.state.directName deviceId).isNone || choice.fault = some 0 ||
            update.name.all fun name => s.shared.database.deviceName deviceId = some name
      | _ => true
  | _ => true

section Steps

variable {config : RelayConfig} {s s' : System} {label : SystemLabel}

theorem step_cases (h : step config s label = some s') :
    (s'.shared.database = s.shared.database ∧ s'.shared.registry = s.shared.registry ∧
      ∀ index choice, label ≠ .advance index choice) ∨
    (∃ index choice session session', label = .advance index choice ∧
      s.tasks[index]? = some (.session session) ∧
      session.step config s.shared choice = some (s'.shared, session')) ∨
    ∃ index choice request request', label = .advance index choice ∧
      s.tasks[index]? = some (.request request) ∧
      request.step config s.shared choice = some (s'.shared, request') := by
  cases label with
  | spawn task =>
      obtain ⟨-, rfl⟩ := poolStep_spawn h
      exact .inl ⟨rfl, rfl, fun _ _ h => nomatch h⟩
  | environment event =>
      obtain ⟨relay, hrelay, rfl⟩ := poolStep_environment h
      obtain ⟨hdatabase, hregistry, -⟩ := Relay.channelStep_eq_some hrelay
      exact .inl ⟨hdatabase, hregistry, fun _ _ h => nomatch h⟩
  | advance index choice =>
      obtain ⟨task, relay, task', htask, hadvance, rfl⟩ := poolStep_advance h
      cases task with
      | session session =>
          obtain ⟨⟨_, session'⟩, hstep, heq⟩ := Option.map_eq_some_iff.mp hadvance
          cases heq
          exact .inr (.inl ⟨index, choice, session, session', rfl, htask, hstep⟩)
      | request request =>
          obtain ⟨⟨_, request'⟩, hstep, heq⟩ := Option.map_eq_some_iff.mp hadvance
          cases heq
          exact .inr (.inr ⟨index, choice, request, request', rfl, htask, hstep⟩)

theorem deviceName_of_settled (hs : s.NamesAgree) (hok : s.namesSettled label = true)
    (h : step config s label = some s') {deviceId name : String}
    (hname : s.shared.registry.state.directName deviceId = some name) :
    s'.shared.database.deviceName deviceId = some name := by
  have hrow := hs deviceId name hname
  rcases step_cases h with ⟨hdatabase, -, -⟩ | ⟨index, choice, session, session', -, -, hstep⟩ |
    ⟨index, choice, request, request', rfl, htask, hstep⟩
  · rw [hdatabase]
    exact hrow
  · rw [Session.deviceName_eq hstep]
    exact hrow
  · by_cases hrequest : ∃ id update, request = .updatingDevice id update
    · obtain ⟨id, update, rfl⟩ := hrequest
      rw [Request.deviceName_updatingDevice hstep, hrow, Option.map_some]
      split
      · next hmoved =>
          obtain ⟨rfl, hfault⟩ := hmoved
          simp only [namesSettled, htask, hname, Option.isNone_some, Bool.false_or, Bool.or_eq_true,
            decide_eq_true_eq, hfault, false_or, hrow, Option.some.injEq] at hok
          cases hupdate : update.name with
          | none => rfl
          | some new =>
              rw [hupdate, Option.all_some, decide_eq_true_eq] at hok
              rw [Option.getD_some, hok]
      · rfl
    · refine Request.namesPersist ?_ hstep deviceId name hrow
      exact fun id update heq => hrequest ⟨id, update, heq⟩

theorem namesSettled_of_agree (hs : s.NamesAgree) (hs' : s'.NamesAgree) {index : Nat}
    {choice : TaskChoice} {deviceId : String} {update : DeviceUpdate} {request' : Request}
    (htask : s.tasks[index]? = some (.request (.updatingDevice deviceId update)))
    (hstep : (Request.updatingDevice deviceId update).step config s.shared choice =
      some (s'.shared, request')) : s.namesSettled (.advance index choice) = true := by
  simp only [namesSettled, htask, Bool.or_eq_true, decide_eq_true_eq]
  by_cases hfault : choice.fault = some 0
  · exact .inl (.inr hfault)
  cases hname : s.shared.registry.state.directName deviceId with
  | none => exact .inl (.inl rfl)
  | some old =>
      right
      have hrow := hs deviceId old hname
      rw [← (Request.step_eq_some hstep).registry_eq] at hname
      have hrow' := hs' deviceId old hname
      rw [Request.deviceName_updatingDevice hstep, hrow, Option.map_some, if_pos ⟨rfl, hfault⟩,
        Option.some.injEq] at hrow'
      cases hupdate : update.name with
      | none => rfl
      | some new =>
          rw [hupdate, Option.getD_some] at hrow'
          rw [Option.all_some, hrow, hrow', decide_eq_true_eq]

/-- Where the names agree, a step keeps that exactly when it meets the condition. -/
theorem namesAgree_step_iff (hinv : TunnelsInv config s) (hs : s.NamesAgree)
    (h : step config s label = some s') : s'.NamesAgree ↔ s.namesSettled label = true := by
  constructor
  · intro hs'
    rcases step_cases h with ⟨-, -, hlabel⟩ |
      ⟨index, choice, session, session', rfl, htask, hstep⟩ |
      ⟨index, choice, request, request', rfl, htask, hstep⟩
    · cases label with
      | advance index choice => exact absurd rfl (hlabel index choice)
      | _ => rfl
    · by_cases hnumbered : ∃ tunnel serial, session = .numbered tunnel serial
      · obtain ⟨tunnel, serial, rfl⟩ := hnumbered
        obtain ⟨hregistered, hdatabase⟩ := (Session.step_eq_some hstep).numbered_registers
        have hrow := hs' _ _ hregistered
        rw [hdatabase] at hrow
        simp only [namesSettled, htask, hrow, decide_true]
      · cases session with
        | numbered tunnel serial => exact absurd ⟨tunnel, serial, rfl⟩ hnumbered
        | _ => simp only [namesSettled, htask]
    · by_cases hupdating : ∃ id update, request = .updatingDevice id update
      · obtain ⟨id, update, rfl⟩ := hupdating
        exact namesSettled_of_agree hs hs' htask hstep
      · cases request with
        | updatingDevice id update => exact absurd ⟨id, update, rfl⟩ hupdating
        | _ => simp only [namesSettled, htask]
  · intro hok deviceId name hname
    have hold : s.shared.registry.state.directName deviceId = some name →
        s'.shared.database.deviceName deviceId = some name :=
      deviceName_of_settled hs hok h
    rcases step_cases h with ⟨-, hregistry, -⟩ |
      ⟨index, choice, session, session', rfl, htask, hstep⟩ |
      ⟨index, choice, request, request', rfl, htask, hstep⟩
    · rw [hregistry] at hname
      exact hold hname
    · rcases (Session.step_eq_some hstep).directName_cases
        (hinv.sound session (List.mem_of_getElem? htask)) hinv.wellFormed hname with
        hname | ⟨tunnel, serial, rfl, rfl, rfl⟩
      · exact hold hname
      · -- The tunnel registers in this step, and its name is still that of the row.
        simp only [namesSettled, htask, decide_eq_true_eq] at hok
        rw [(Session.step_eq_some hstep).numbered_registers.2]
        exact hok
    · rw [(Request.step_eq_some hstep).registry_eq] at hname
      exact hold hname

/-- No step that meets the condition renames a connected device. -/
theorem renamePublished_of_settled (hs : s.NamesAgree) (hok : s.namesSettled label = true) :
    RenamePublished config s label := by
  intro s' deviceId name h hconnected hbefore hafter
  obtain ⟨old, hold⟩ := Option.isSome_iff_exists.mp hconnected
  rw [deviceName_of_settled hs hok h hold] at hafter
  exact absurd ((hs deviceId old hold).trans hafter) hbefore

end Steps

end System

/-- In a run, every registered tunnel has the name of its device's row all the time and every
renaming of a connected device is published, exactly when no connected device is given another name
and every tunnel is registered while the row still has the name its session has read. -/
theorem names_agree_iff (config : RelayConfig) (database : Database) (labels : List SystemLabel)
    (s : System)
    (hrun : run (System.step config) (System.init database) labels = some s) :
    (Throughout (System.step config) System.NamesAgree (System.init database) labels ∧
      Meets (System.step config) (System.RenamePublished config) (System.init database) labels) ↔
    Meets (System.step config) (fun s label => s.namesSettled label = true)
      (System.init database) labels := by
  have hinit : (System.init database).NamesAgree := by
    intro deviceId name h
    rw [RegistryState.directName, System.init, Registry.new, RegistryState.empty,
      AList.lookup_empty] at h
    cases h
  have hthroughout :
      Throughout (System.step config) System.NamesAgree (System.init database) labels ↔
        Meets (System.step config) (fun s label => s.namesSettled label = true)
          (System.init database) labels :=
    throughout_iff_meets
      (fun _ _ _ hinv hstep => tunnelsInv_step (System.step_eq_some hstep) hinv)
      (fun _ _ _ hinv hs hstep => System.namesAgree_step_iff hinv hs hstep)
      (tunnelsInv_init config database) hinit hrun
  constructor
  · rintro ⟨hagree, -⟩
    exact hthroughout.mp hagree
  · intro hmeets
    have hagree := hthroughout.mpr hmeets
    exact ⟨hagree, hmeets.imp hagree fun _ _ hs hok => System.renamePublished_of_settled hs hok⟩

def renameAndConnect : List SystemLabel :=
  System.enrollDevice 0 .desktop none "ABCD-EFGH-JKLM" "device-a" ++
    [.spawn (.request (.updateDevice none "device-a" ⟨some "office", none, none⟩)),
      .advance 2 {}, .advance 2 {}] ++
    System.acceptTunnel 3 .desktop "device-a" ++ System.registerTunnel 3

/-- It is renamed while it is not connected, and registers under its new name. -/
theorem names_agree_connected :
    ∃ s, run (System.step System.plainConfig) (System.init .empty) renameAndConnect = some s ∧
      s.shared.registry.state.directName "device-a" = some "office" ∧
      Throughout (System.step System.plainConfig) System.NamesAgree (System.init .empty)
        renameAndConnect ∧
      Meets (System.step System.plainConfig) (System.RenamePublished System.plainConfig)
        (System.init .empty) renameAndConnect := by
  obtain ⟨s, hrun, hname⟩ := exists_run (System.step System.plainConfig) (System.init .empty)
    renameAndConnect (fun s => s.shared.registry.state.directName "device-a" = some "office")
    (by decide)
  exact ⟨s, hrun, hname,
    (names_agree_iff System.plainConfig .empty renameAndConnect s hrun).mpr (by decide)⟩

def connectDesk : List SystemLabel :=
  System.enrollDevice 0 .desktop none "ABCD-EFGH-JKLM" "device-a" ++
    System.acceptTunnel 2 .desktop "device-a" ++ System.registerTunnel 2

/-- An administrator renames the device while it is connected, and its entry keeps the old name. -/
theorem names_differ_renamed :
    ¬ ∀ (config : RelayConfig) (database : Database) (labels : List SystemLabel) (s : System),
      run (System.step config) (System.init database) labels = some s → s.NamesAgree := by
  intro h
  obtain ⟨s, hrun, hregistered, hrow⟩ := exists_run (System.step System.plainConfig)
    (System.init .empty)
    (connectDesk ++ [.spawn (.request (.updateDevice none "device-a" ⟨some "office", none, none⟩)),
      .advance 3 {}, .advance 3 {}])
    (fun s => s.shared.registry.state.directName "device-a" = some "desk" ∧
      s.shared.database.deviceName "device-a" = some "office") (by decide)
  have hagree := h System.plainConfig .empty _ s hrun "device-a" "desk" hregistered
  rw [hrow] at hagree
  exact absurd hagree (by decide)

end TermexoRelay
