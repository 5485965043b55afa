/-!
# What travels between relays and devices

The frames and prefaces of the shared protocol crate, with the fields the relay builds and
reads. The crate's constants are parameters of the model: nothing depends on their values.
-/

namespace TermexoRelay

inductive DeviceKind where
  | desktop
  | relay
deriving DecidableEq, Repr

/-- One device as a relay announces it upward; `via` names the relays on the way to it. -/
structure AnnouncedDevice where
  id : String
  name : String
  online : Bool
  via : List String
deriving DecidableEq, Repr

/-- One address a device can be opened at. -/
structure RelayAddress where
  relayId : String
  relayName : String
  url : String
  hops : Nat
deriving DecidableEq, Repr

inductive ControlFrame where
  | hello (protocol : Nat) (kind : DeviceKind) (version name : String) (relayId : Option String)
  | welcome (deviceId relayId : String) (addresses : List RelayAddress) (chain : List String)
  | authFailed (reason : String)
  | revoked (reason : String)
  | ping
  | pong
  | announce (devices : List AnnouncedDevice)
  | deviceOnline (id name : String) (via : List String)
  | deviceOffline (id : String)
  | addresses (addresses : List RelayAddress)
deriving DecidableEq, Repr

inductive CloseCode where
  | goingAway
  | unauthorized
  | revoked
deriving DecidableEq, Repr

structure StreamPreface where
  v : Nat
  target : String
  hops : List String
deriving DecidableEq, Repr

/-- A preface as the relay that opens a stream writes it. -/
def StreamPreface.new (version : Nat) (target : String) : StreamPreface :=
  ⟨version, target, []⟩

def StreamPreface.withHop (preface : StreamPreface) (relayId : String) : StreamPreface :=
  { preface with hops := preface.hops ++ [relayId] }

end TermexoRelay
