import TermexoRelay.Library.Table
import TermexoRelay.Tunnel.Handle

/-!
# The routing table

The data of the in-memory registry and the part of each operation that runs while its lock is
held. What an operation does before taking the lock (drawing a sequence number, refusing an
unroutable announcement) and after releasing it (publishing changes) is in
`TermexoRelay.Registry.Operations`.
-/

namespace TermexoRelay

/-- How a stream to one device is opened. -/
inductive Route where
  /-- The device holds a tunnel to this relay. -/
  | direct (handle : TunnelHandle)
  /-- The device is behind a downstream relay; `hops` are the relays the announcement
  crossed, nearest announcer first. -/
  | via (link : TunnelHandle) (hops : List String)
deriving DecidableEq, Repr

namespace Route

def link : Route → TunnelHandle
  | direct handle => handle
  | via link _ => link

def hops : Route → List String
  | direct _ => []
  | via _ hops => hops

/-- Shorter wins when the same device is reachable two ways. -/
def hopCount (route : Route) : Nat := route.hops.length

def isDirect : Route → Bool
  | direct _ => true
  | via _ _ => false

end Route

/-- What a device told the relay when its tunnel came up. -/
structure DirectPresence where
  deviceId : String
  name : String
  kind : DeviceKind
  relayId : Option String
  ip : Option String
  version : Option String
  handle : TunnelHandle
deriving DecidableEq, Repr

structure OnlineDevice where
  deviceId : String
  name : String
  kind : DeviceKind
  connectedSince : Int
  ip : Option String
  version : Option String
  route : Route
deriving DecidableEq, Repr

/-- Where an entry came from, which is what scopes a removal. -/
inductive Origin where
  | direct (serial : Nat)
  | announced (linkDeviceId : String)
deriving DecidableEq, Repr

structure Entry where
  device : OnlineDevice
  origin : Origin
  /-- The number drawn for the operation that installed the entry; the later of two equally
  long announcements wins. -/
  sequence : Nat
deriving DecidableEq, Repr

/-- One change in what this relay can reach, in the shape an upstream is told about it. -/
inductive RegistryChange where
  | online (device : AnnouncedDevice)
  | offline (deviceId : String)
deriving DecidableEq, Repr

def RegistryChange.deviceId : RegistryChange → String
  | online device => device.id
  | offline deviceId => deviceId

/-- What the relay remembers of a device a downstream relay withdrew. -/
structure KnownDevice where
  name : String
  lastSeenAt : Int
deriving DecidableEq, Repr

structure WithdrawnDevice where
  linkDeviceId : String
  device : KnownDevice
deriving DecidableEq, Repr

structure RegistryState where
  entries : Table String Entry
  /-- Relay id to the device id of the downstream link that declared it. -/
  relayLinks : Table String String
  withdrawn : Table String WithdrawnDevice
deriving DecidableEq

def RegistryState.empty : RegistryState := ⟨∅, ∅, ∅⟩

/-- Whether a candidate route should take over from the one already installed. -/
def replaces (existing : Route) (existingSequence : Nat) (candidate : Route) (sequence : Nat) :
    Bool :=
  match existing with
  | .direct _ => false
  | .via _ _ =>
      decide (candidate.hopCount < existing.hopCount) ||
        (decide (candidate.hopCount = existing.hopCount) && decide (existingSequence < sequence))

/-- How one entry is announced upward, or `none` when it is a hop and not a destination. -/
def announcementOf (relayId : String) (entry : Entry) : Option AnnouncedDevice :=
  if entry.device.kind = .relay ∧ entry.device.route.isDirect = true then none
  else some
    { id := entry.device.deviceId
      name := entry.device.name
      online := true
      via := relayId :: entry.device.route.hops }

/-- The change to publish, from what a device looked like before and after an update. -/
def transition (relayId deviceId : String) (previous current : Option Entry) :
    Option RegistryChange :=
  match current.bind (announcementOf relayId) with
  | some announcement => some (.online announcement)
  | none =>
      if (previous.bind (announcementOf relayId)).isSome then some (.offline deviceId) else none

def DirectPresence.entry (presence : DirectPresence) (serial : Nat) (now : Int) : Entry where
  device :=
    { deviceId := presence.deviceId
      name := presence.name
      kind := presence.kind
      connectedSince := now
      ip := presence.ip
      version := presence.version
      route := .direct presence.handle }
  origin := .direct serial
  sequence := serial

def AnnouncedDevice.entry (device : AnnouncedDevice) (linkDeviceId : String) (link : TunnelHandle)
    (sequence : Nat) (now : Int) : Entry where
  device :=
    { deviceId := device.id
      name := device.name
      kind := .desktop
      connectedSince := now
      ip := none
      version := none
      route := .via link device.via }
  origin := .announced linkDeviceId
  sequence := sequence

namespace RegistryState

/-- The devices one downstream link is currently the source of. -/
def announcedIdsOf (state : RegistryState) (linkDeviceId : String) : List String :=
  state.entries.keysWhere fun _ entry => decide (entry.origin = .announced linkDeviceId)

/-- `connect` under the lock: the new state, the tunnel it displaced, the change to publish. -/
def connectLocked (relayId : String) (presence : DirectPresence) (serial : Nat) (now : Int)
    (state : RegistryState) : RegistryState × Option TunnelHandle × Option RegistryChange :=
  let relayLinks := match presence.relayId, presence.kind with
    | some declared, .relay => state.relayLinks.insert declared presence.deviceId
    | _, _ => state.relayLinks
  let entry := presence.entry serial now
  let previous := state.entries.lookup presence.deviceId
  let change := transition relayId presence.deviceId previous (some entry)
  -- Only a displaced direct tunnel has to be closed; an announced entry is a routing hint.
  let displaced := previous.bind fun previous => match previous.origin with
    | .direct _ => some previous.device.route.link
    | .announced _ => none
  ({ entries := state.entries.insert presence.deviceId entry
     relayLinks
     withdrawn := state.withdrawn.erase presence.deviceId }, displaced, change)

def registered (state : RegistryState) (deviceId : String) (serial : Nat) : Bool :=
  match state.entries.lookup deviceId with
  | some entry => decide (entry.origin = .direct serial)
  | none => false

/-- `disconnect` under the lock; `none` when a newer tunnel (or nothing) is registered.
`announced` is what `announced_ids_of` returned, in the order of the hash map. -/
def disconnectLocked (relayId deviceId : String) (serial : Nat) (announced : List String)
    (state : RegistryState) : Option (RegistryState × List RegistryChange) :=
  if state.registered deviceId serial then
    let gone := deviceId :: announced
    some
      ({ entries := state.entries.eraseAll gone
         relayLinks :=
           state.relayLinks.retain fun _ linkDeviceId => decide (linkDeviceId ≠ deviceId)
         withdrawn := state.withdrawn.retain fun _ device =>
           decide (device.linkDeviceId ≠ deviceId) },
        gone.filterMap fun id =>
          (state.entries.lookup id).bind fun entry => transition relayId id (some entry) none)
  else none

/-- `announce_device` under the lock; `none` when the installed route stays. -/
def announceLocked (relayId linkDeviceId : String) (link : TunnelHandle) (device : AnnouncedDevice)
    (sequence : Nat) (now : Int) (state : RegistryState) :
    Option (RegistryState × Option RegistryChange) :=
  let entry := device.entry linkDeviceId link sequence now
  let previous := state.entries.lookup device.id
  let wins := match previous with
    | some existing =>
        replaces existing.device.route existing.sequence entry.device.route sequence
    | none => true
  if wins then
    some
      ({ state with
          entries := state.entries.insert device.id entry
          withdrawn := state.withdrawn.erase device.id },
        transition relayId device.id previous (some entry))
  else none

/-- `withdraw_device` under the lock; `none` when another link, or none, owns the route. -/
def withdrawLocked (relayId linkDeviceId deviceId : String) (now : Int) (state : RegistryState) :
    Option (RegistryState × Option RegistryChange) :=
  match state.entries.lookup deviceId with
  | none => none
  | some entry =>
      if entry.origin = .announced linkDeviceId then
        some
          ({ state with
              entries := state.entries.erase deviceId
              withdrawn := state.withdrawn.insert deviceId
                ⟨linkDeviceId, entry.device.name, now⟩ },
            transition relayId deviceId (some entry) none)
      else none

/-- Everything this relay can offer an upstream right now. -/
def announcements (relayId : String) (state : RegistryState) : List AnnouncedDevice :=
  state.entries.rows.filterMap (announcementOf relayId)

def route (state : RegistryState) (deviceId : String) : Option Route :=
  (state.entries.lookup deviceId).map fun entry => entry.device.route

def isOnline (state : RegistryState) (deviceId : String) : Bool :=
  (state.entries.lookup deviceId).isSome

def lastKnown (state : RegistryState) (deviceId : String) : Option KnownDevice :=
  (state.withdrawn.lookup deviceId).map WithdrawnDevice.device

end RegistryState

end TermexoRelay
