import TermexoRelay.Registry.Entries

/-!
# Registry operations, action by action

An operation of the registry is a few atomic actions: it draws a number from the counter, and it
updates the table while holding the lock. `apply_announcement` releases the lock between reading
what the link had announced, announcing each device and withdrawing what is left. Between two
actions of a job any other job may act.
-/

namespace TermexoRelay

/-- The routing table and the counter that numbers its updates. -/
structure Registry where
  state : RegistryState
  sequence : Nat
deriving DecidableEq

def Registry.new : Registry := ⟨.empty, 0⟩

/-- Whether an announcement can be routed: it does not come back through this relay and leaves
room for the hop this relay appends. -/
def isAnnouncementRoutable (relayId : String) (maxHops : Nat) (via : List String) : Bool :=
  decide (via.length < maxHops) && decide (relayId ∉ via)

/-- How far one `apply_announcement` is: what the link had announced before, what was installed
from the new snapshot, and what is left of it. -/
structure Batch where
  previous : List String
  installed : List String
  remaining : List AnnouncedDevice
deriving DecidableEq

/-- A registry operation between two of its actions. -/
inductive Job where
  | finished
  | connect (presence : DirectPresence)
  | connecting (presence : DirectPresence) (serial : Nat)
  | disconnect (deviceId : String) (serial : Nat)
  /-- `announce_device`, as a frame of its own or for a batch. -/
  | announce (linkDeviceId : String) (link : TunnelHandle) (device : AnnouncedDevice)
      (batch : Option Batch)
  | announcing (linkDeviceId : String) (link : TunnelHandle) (device : AnnouncedDevice)
      (batch : Option Batch) (sequence : Nat)
  /-- `withdraw_device`, followed by the same for every id in `stale`. -/
  | withdraw (linkDeviceId deviceId : String) (stale : List String)
  | apply (linkDeviceId : String) (link : TunnelHandle) (devices : List AnnouncedDevice)
deriving DecidableEq

/-- What the environment supplies to one action: the clock, and the order in which the hash map
lists the ids of a link. -/
structure JobChoice where
  now : Int
  order : List String
deriving DecidableEq

namespace Job

def sweep (linkDeviceId : String) : List String → Job
  | [] => .finished
  | id :: stale => .withdraw linkDeviceId id stale

/-- The next device of the batch that is online, or the withdrawal of the leftovers. -/
def proceed (linkDeviceId : String) (link : TunnelHandle) (batch : Batch) : Job :=
  match batch.remaining.dropWhile fun device => !device.online with
  | device :: remaining => .announce linkDeviceId link device (some { batch with remaining })
  | [] => sweep linkDeviceId (batch.previous.filter fun id => decide (id ∉ batch.installed))

/-- What follows once `announce_device` has returned `accepted`. -/
def resume (linkDeviceId : String) (link : TunnelHandle) (deviceId : String)
    (batch : Option Batch) (accepted : Bool) : Job :=
  match batch with
  | none => .finished
  | some batch =>
      proceed linkDeviceId link
        { batch with
          installed := if accepted then batch.installed ++ [deviceId] else batch.installed }

def starts : Job → Bool
  | .connect _ => true
  | .disconnect _ _ => true
  | .announce _ _ _ batch => batch.isNone
  | .withdraw _ _ stale => stale.isEmpty
  | .apply _ _ _ => true
  | .finished => false
  | .connecting _ _ => false
  | .announcing _ _ _ _ _ => false

/-- One action: the registry afterwards, the rest of the job, and what it has to publish before
that. -/
def step (relayId : String) (maxHops : Nat) (registry : Registry) (choice : JobChoice) :
    Job → Option (Registry × Job × List RegistryChange)
  | .finished => none
  | .connect presence =>
      some ({ registry with sequence := registry.sequence + 1 },
        .connecting presence registry.sequence, [])
  | .connecting presence serial =>
      let locked := registry.state.connectLocked relayId presence serial choice.now
      some ({ registry with state := locked.1 }, .finished, locked.2.2.toList)
  | .disconnect deviceId serial =>
      if choice.order.Perm (registry.state.announcedIdsOf deviceId) then
        match registry.state.disconnectLocked relayId deviceId serial choice.order with
        | some (state, changes) => some ({ registry with state }, .finished, changes)
        | none => some (registry, .finished, [])
      else none
  | .announce linkDeviceId link device batch =>
      if isAnnouncementRoutable relayId maxHops device.via then
        some ({ registry with sequence := registry.sequence + 1 },
          .announcing linkDeviceId link device batch registry.sequence, [])
      else some (registry, resume linkDeviceId link device.id batch false, [])
  | .announcing linkDeviceId link device batch sequence =>
      match registry.state.announceLocked relayId linkDeviceId link device sequence choice.now with
      | some (state, change) =>
          some ({ registry with state }, resume linkDeviceId link device.id batch true,
            change.toList)
      | none => some (registry, resume linkDeviceId link device.id batch false, [])
  | .withdraw linkDeviceId deviceId stale =>
      match registry.state.withdrawLocked relayId linkDeviceId deviceId choice.now with
      | some (state, change) =>
          some ({ registry with state }, sweep linkDeviceId stale, change.toList)
      | none => some (registry, sweep linkDeviceId stale, [])
  | .apply linkDeviceId link devices =>
      if choice.order.Perm (registry.state.announcedIdsOf linkDeviceId) then
        some (registry, proceed linkDeviceId link ⟨choice.order, [], devices⟩, [])
      else none

end Job

/-- The four updates an action of a job can make to the table, with what it publishes; the first
case leaves the table as it is. -/
inductive TableUpdate (relayId : String) (state : RegistryState) :
    RegistryState → List RegistryChange → Prop
  | unchanged : TableUpdate relayId state state []
  | connect (presence : DirectPresence) (serial : Nat) (now : Int) :
      TableUpdate relayId state (state.connectLocked relayId presence serial now).1
        (state.connectLocked relayId presence serial now).2.2.toList
  | disconnect {deviceId : String} {serial : Nat} {announced : List String}
      {state' : RegistryState} {changes : List RegistryChange}
      (hperm : announced.Perm (state.announcedIdsOf deviceId))
      (h : state.disconnectLocked relayId deviceId serial announced = some (state', changes)) :
      TableUpdate relayId state state' changes
  | announce {linkDeviceId : String} {link : TunnelHandle} {device : AnnouncedDevice}
      {sequence : Nat} {now : Int} {state' : RegistryState} {change : Option RegistryChange}
      (h : state.announceLocked relayId linkDeviceId link device sequence now =
        some (state', change)) :
      TableUpdate relayId state state' change.toList
  | withdraw {linkDeviceId deviceId : String} {now : Int} {state' : RegistryState}
      {change : Option RegistryChange}
      (h : state.withdrawLocked relayId linkDeviceId deviceId now = some (state', change)) :
      TableUpdate relayId state state' change.toList

section TableUpdate

variable {relayId : String} {state state' : RegistryState} {changes : List RegistryChange}

theorem TableUpdate.wellFormed (h : TableUpdate relayId state state' changes)
    (hs : state.WellFormed) : state'.WellFormed := by
  cases h with
  | unchanged => exact hs
  | connect presence serial now => exact hs.connectLocked relayId presence serial now
  | disconnect _ h => exact hs.disconnectLocked h
  | announce h => exact hs.announceLocked h
  | withdraw h => exact hs.withdrawLocked h

theorem TableUpdate.replay (h : TableUpdate relayId state state' changes) :
    Replica.replay RegistryChange.deviceId RegistryChange.value (state.offered relayId) changes =
      state'.offered relayId := by
  cases h with
  | unchanged => rfl
  | connect presence serial now => exact state.replay_connectLocked relayId presence serial now
  | disconnect _ h => exact RegistryState.replay_disconnectLocked h
  | announce h => exact RegistryState.replay_announceLocked h
  | withdraw h => exact RegistryState.replay_withdrawLocked h

end TableUpdate

/-- What one action of a job does, one constructor for each way it can end: the registry and the
rest of the job afterwards, and what is to be published. -/
inductive JobStep (relayId : String) (maxHops : Nat) (registry : Registry) (choice : JobChoice) :
    Job → Registry → Job → List RegistryChange → Prop
  | numbered {presence : DirectPresence} :
      JobStep relayId maxHops registry choice (.connect presence)
        { registry with sequence := registry.sequence + 1 }
        (.connecting presence registry.sequence) []
  | connected {presence : DirectPresence} {serial : Nat} :
      JobStep relayId maxHops registry choice (.connecting presence serial)
        { registry with
            state := (registry.state.connectLocked relayId presence serial choice.now).1 }
        .finished (registry.state.connectLocked relayId presence serial choice.now).2.2.toList
  | disconnected {deviceId : String} {serial : Nat} {state : RegistryState}
      {changes : List RegistryChange}
      (hperm : choice.order.Perm (registry.state.announcedIdsOf deviceId))
      (hlocked : registry.state.disconnectLocked relayId deviceId serial choice.order =
        some (state, changes)) :
      JobStep relayId maxHops registry choice (.disconnect deviceId serial)
        { registry with state } .finished changes
  | displaced {deviceId : String} {serial : Nat}
      (hlocked : registry.state.disconnectLocked relayId deviceId serial choice.order = none) :
      JobStep relayId maxHops registry choice (.disconnect deviceId serial) registry .finished []
  | routable {linkDeviceId : String} {link : TunnelHandle} {device : AnnouncedDevice}
      {batch : Option Batch}
      (hroutable : isAnnouncementRoutable relayId maxHops device.via = true) :
      JobStep relayId maxHops registry choice (.announce linkDeviceId link device batch)
        { registry with sequence := registry.sequence + 1 }
        (.announcing linkDeviceId link device batch registry.sequence) []
  | unroutable {linkDeviceId : String} {link : TunnelHandle} {device : AnnouncedDevice}
      {batch : Option Batch}
      (hroutable : ¬ isAnnouncementRoutable relayId maxHops device.via = true) :
      JobStep relayId maxHops registry choice (.announce linkDeviceId link device batch) registry
        (.resume linkDeviceId link device.id batch false) []
  | installed {linkDeviceId : String} {link : TunnelHandle} {device : AnnouncedDevice}
      {batch : Option Batch} {sequence : Nat} {state : RegistryState}
      {change : Option RegistryChange}
      (hlocked : registry.state.announceLocked relayId linkDeviceId link device sequence
        choice.now = some (state, change)) :
      JobStep relayId maxHops registry choice (.announcing linkDeviceId link device batch sequence)
        { registry with state } (.resume linkDeviceId link device.id batch true) change.toList
  | outrun {linkDeviceId : String} {link : TunnelHandle} {device : AnnouncedDevice}
      {batch : Option Batch} {sequence : Nat}
      (hlocked : registry.state.announceLocked relayId linkDeviceId link device sequence
        choice.now = none) :
      JobStep relayId maxHops registry choice (.announcing linkDeviceId link device batch sequence)
        registry (.resume linkDeviceId link device.id batch false) []
  | withdrawn {linkDeviceId deviceId : String} {stale : List String} {state : RegistryState}
      {change : Option RegistryChange}
      (hlocked : registry.state.withdrawLocked relayId linkDeviceId deviceId choice.now =
        some (state, change)) :
      JobStep relayId maxHops registry choice (.withdraw linkDeviceId deviceId stale)
        { registry with state } (.sweep linkDeviceId stale) change.toList
  | absent {linkDeviceId deviceId : String} {stale : List String}
      (hlocked : registry.state.withdrawLocked relayId linkDeviceId deviceId choice.now = none) :
      JobStep relayId maxHops registry choice (.withdraw linkDeviceId deviceId stale) registry
        (.sweep linkDeviceId stale) []
  | listed {linkDeviceId : String} {link : TunnelHandle} {devices : List AnnouncedDevice}
      (hperm : choice.order.Perm (registry.state.announcedIdsOf linkDeviceId)) :
      JobStep relayId maxHops registry choice (.apply linkDeviceId link devices) registry
        (.proceed linkDeviceId link ⟨choice.order, [], devices⟩) []

namespace Job

variable {relayId : String} {maxHops : Nat} {registry registry' : Registry} {choice : JobChoice}
  {job job' : Job} {changes : List RegistryChange}

theorem step_cases
    (h : job.step relayId maxHops registry choice = some (registry', job', changes)) :
    JobStep relayId maxHops registry choice job registry' job' changes := by
  cases job with
  | finished => cases h
  | connect presence =>
      cases h
      exact .numbered
  | connecting presence serial =>
      cases h
      exact .connected
  | disconnect deviceId serial =>
      simp only [step, Option.ite_none_right_eq_some] at h
      obtain ⟨hperm, h⟩ := h
      split at h
      · next hlocked =>
          cases h
          exact .disconnected hperm hlocked
      · next hlocked =>
          cases h
          exact .displaced hlocked
  | announce linkDeviceId link device batch =>
      simp only [step] at h
      split at h
      · next hroutable =>
          cases h
          exact .routable hroutable
      · next hroutable =>
          cases h
          exact .unroutable hroutable
  | announcing linkDeviceId link device batch sequence =>
      simp only [step] at h
      split at h
      · next hlocked =>
          cases h
          exact .installed hlocked
      · next hlocked =>
          cases h
          exact .outrun hlocked
  | withdraw linkDeviceId deviceId stale =>
      simp only [step] at h
      split at h
      · next hlocked =>
          cases h
          exact .withdrawn hlocked
      · next hlocked =>
          cases h
          exact .absent hlocked
  | apply linkDeviceId link devices =>
      simp only [step, Option.ite_none_right_eq_some] at h
      obtain ⟨hperm, h⟩ := h
      cases h
      exact .listed hperm

/-- Every action of a job is one of the updates. -/
theorem step_tableUpdate
    (h : job.step relayId maxHops registry choice = some (registry', job', changes)) :
    TableUpdate relayId registry.state registry'.state changes := by
  cases step_cases h with
  | connected => exact .connect _ _ choice.now
  | disconnected hperm hlocked => exact .disconnect hperm hlocked
  | installed hlocked => exact .announce hlocked
  | withdrawn hlocked => exact .withdraw hlocked
  | _ => exact .unchanged

theorem step_sequence_le
    (h : job.step relayId maxHops registry choice = some (registry', job', changes)) :
    registry.sequence ≤ registry'.sequence := by
  cases step_cases h with
  | numbered => exact Nat.le_succ _
  | routable hroutable => exact Nat.le_succ _
  | _ => exact le_rfl

theorem disconnect_cases {deviceId : String} {serial : Nat}
    (h : (Job.disconnect deviceId serial).step relayId maxHops registry choice =
      some (registry', job', changes)) :
    (∃ state, choice.order.Perm (registry.state.announcedIdsOf deviceId) ∧
      registry.state.disconnectLocked relayId deviceId serial choice.order =
        some (state, changes) ∧ registry' = { registry with state }) ∨
    registry.state.registered deviceId serial = false ∧ registry' = registry := by
  cases step_cases h with
  | disconnected hperm hlocked => exact .inl ⟨_, hperm, hlocked, rfl⟩
  | displaced hlocked =>
      refine .inr ⟨?_, rfl⟩
      simpa [RegistryState.disconnectLocked] using hlocked

theorem lookup_of_disconnect {deviceId : String} {serial : Nat}
    (h : (Job.disconnect deviceId serial).step relayId maxHops registry choice =
      some (registry', job', changes)) {id : String} {entry : Entry}
    (hentry : registry'.state.entries.lookup id = some entry) :
    registry.state.entries.lookup id = some entry := by
  rcases disconnect_cases h with ⟨state, -, hlocked, rfl⟩ | ⟨-, rfl⟩
  · exact RegistryState.lookup_of_disconnectLocked hlocked hentry
  · exact hentry

section Continuations

variable {P : Job → Prop} {linkDeviceId : String}

theorem sweep_property (hfinished : P .finished)
    (hwithdraw : ∀ id stale, P (.withdraw linkDeviceId id stale)) (stale : List String) :
    P (sweep linkDeviceId stale) := by
  cases stale with
  | nil => exact hfinished
  | cons id stale => exact hwithdraw id stale

theorem resume_property (hfinished : P .finished)
    (hwithdraw : ∀ id stale, P (.withdraw linkDeviceId id stale)) (link : TunnelHandle)
    (hannounce : ∀ device batch, P (.announce linkDeviceId link device (some batch)))
    (deviceId : String) (batch : Option Batch) (accepted : Bool) :
    P (resume linkDeviceId link deviceId batch accepted) := by
  cases batch with
  | none => exact hfinished
  | some batch =>
      rw [resume, proceed]
      split
      · exact hannounce _ _
      · exact sweep_property hfinished hwithdraw _

theorem proceed_property (hfinished : P .finished)
    (hwithdraw : ∀ id stale, P (.withdraw linkDeviceId id stale)) (link : TunnelHandle)
    (hannounce : ∀ device batch, P (.announce linkDeviceId link device (some batch)))
    (batch : Batch) : P (proceed linkDeviceId link batch) :=
  resume_property hfinished hwithdraw link hannounce "" (some batch) false

end Continuations

end Job

end TermexoRelay
