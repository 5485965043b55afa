import TermexoRelay.Database.Queries
import TermexoRelay.Registry.Jobs

/-!
# The state every task of the relay shares

Tunnel sessions and console requests act on the database, on the registry and on the outgoing
channels of live tunnels. What the environment supplies to an action (the clock, random values, a
failing statement, the next message of a socket) is the task's choice for that action.
-/

namespace TermexoRelay

/-- The relay's settings, and the functions it takes from other crates. -/
structure RelayConfig where
  relayId : String
  maxHops : Nat
  protocolVersion : Nat
  hashSecret : String → String
  secretMatchesHash : String → String → Bool
  hashPassword : String → Except String String
  verifyPassword : String → String → Bool

structure DeviceCredential where
  deviceId : String
  secret : String
deriving DecidableEq, Repr

/-- What a socket yields next: a control frame, something without effect on the registry, or its
end. -/
inductive Received where
  | frame (frame : ControlFrame)
  | other
  | ended
deriving DecidableEq, Repr

structure TaskChoice where
  now : Int := 0
  fault : Fault := none
  /-- The order in which a hash map or a query lists its ids. -/
  order : List String := []
  identifier : Option String := none
  credential : Option DeviceCredential := none
  code : Except String String := .error ""
  received : Received := .other
deriving DecidableEq, Repr

structure Relay where
  database : Database
  registry : Registry
  channels : List Channel
deriving DecidableEq

namespace Relay

def new : Relay := ⟨.empty, .new, []⟩

/-- Put a message on the outgoing channel of a tunnel, if it is accepted there. -/
def trySend (handle : TunnelHandle) (message : Outgoing) (relay : Relay) : Relay :=
  { relay with channels := relay.channels.modify handle.channel (Channel.trySend message) }

def sendFrame (handle : TunnelHandle) (frame : ControlFrame) (relay : Relay) : Relay :=
  relay.trySend handle (.control frame)

def close (handle : TunnelHandle) (code : CloseCode) (reason : String) (relay : Relay) : Relay :=
  relay.trySend handle (.close code reason)

theorem getElem?_trySend (handle : TunnelHandle) (message : Outgoing) (relay : Relay)
    (index : Nat) :
    (relay.trySend handle message).channels[index]? =
      if handle.channel = index then relay.channels[index]?.map (Channel.trySend message)
      else relay.channels[index]? := by
  rw [trySend, List.getElem?_modify]
  split <;> cases relay.channels[index]? <;> rfl

@[simp] theorem length_trySend (handle : TunnelHandle) (message : Outgoing) (relay : Relay) :
    (relay.trySend handle message).channels.length = relay.channels.length :=
  List.length_modify _ _ _

/-- The message was put on the channel. -/
def Given (relay : Relay) (channel : Nat) (message : Outgoing) : Prop :=
  ∃ c, relay.channels[channel]? = some c ∧ c.Given message

theorem Given.trySend {relay : Relay} {channel : Nat} {message other : Outgoing}
    {handle : TunnelHandle} (h : relay.Given channel message) :
    (relay.trySend handle other).Given channel message := by
  obtain ⟨c, hc, hgiven⟩ := h
  rw [Given, getElem?_trySend, hc]
  split
  · exact ⟨_, rfl, hgiven.trySend⟩
  · exact ⟨c, rfl, hgiven⟩

/-- Whether the outgoing channel of a tunnel accepts one more message. -/
def accepts (relay : Relay) (handle : TunnelHandle) : Bool :=
  relay.channels[handle.channel]?.any Channel.accepts

theorem given_trySend_self {relay : Relay} {handle : TunnelHandle} {message : Outgoing}
    (h : relay.accepts handle = true) :
    (relay.trySend handle message).Given handle.channel message := by
  obtain ⟨c, hc, haccepts⟩ := (Option.any_eq_true _ _).mp h
  rw [Given, getElem?_trySend, if_pos rfl, hc]
  exact ⟨_, rfl, Channel.given_trySend_self haccepts⟩

end Relay

/-- What happens to the outgoing channels besides the tasks of the model: a writer task sends or
ends, and another part of the relay queues a control frame. -/
inductive ChannelEvent where
  | write (channel : Nat)
  | stop (channel : Nat)
  | queue (channel : Nat) (frame : ControlFrame)
deriving DecidableEq, Repr

def Relay.channelStep (relay : Relay) : ChannelEvent → Option Relay
  | .write channel =>
      match relay.channels[channel]?.bind Channel.write with
      | some c => some { relay with channels := relay.channels.set channel c }
      | none => none
  | .stop channel => some { relay with channels := relay.channels.modify channel Channel.stop }
  | .queue channel frame =>
      some { relay with
        channels := relay.channels.modify channel (Channel.trySend (.control frame)) }

theorem Relay.channelStep_eq_some {relay relay' : Relay} {event : ChannelEvent}
    (h : relay.channelStep event = some relay') :
    relay'.database = relay.database ∧ relay'.registry = relay.registry ∧
      relay'.channels.length = relay.channels.length ∧
      ∀ channel message, relay.Given channel message → relay'.Given channel message := by
  cases event with
  | write index =>
      simp only [Relay.channelStep] at h
      split at h
      · next c hc =>
          cases h
          refine ⟨rfl, rfl, List.length_set, fun channel message hgiven => ?_⟩
          obtain ⟨old, hold, hwrite⟩ := Option.bind_eq_some_iff.mp hc
          obtain ⟨c', hc', hmessage⟩ := hgiven
          by_cases hindex : channel = index
          · subst hindex
            rw [hold, Option.some.injEq] at hc'
            subst hc'
            refine ⟨c, ?_, hmessage.write hwrite⟩
            exact List.getElem?_set_self (List.getElem?_eq_some_iff.mp hold).1
          · refine ⟨c', ?_, hmessage⟩
            exact (List.getElem?_set_ne (Ne.symm hindex)).trans hc'
      · cases h
  | stop index =>
      cases h
      refine ⟨rfl, rfl, List.length_modify _ _ _, fun channel message hgiven => ?_⟩
      obtain ⟨c, hc, hmessage⟩ := hgiven
      simp only [Relay.Given, List.getElem?_modify, hc]
      split
      · exact ⟨_, rfl, hmessage.stop⟩
      · exact ⟨_, rfl, hmessage⟩
  | queue index frame =>
      cases h
      refine ⟨rfl, rfl, List.length_modify _ _ _, fun channel message hgiven => ?_⟩
      obtain ⟨c, hc, hmessage⟩ := hgiven
      simp only [Relay.Given, List.getElem?_modify, hc]
      split
      · exact ⟨_, rfl, hmessage.trySend⟩
      · exact ⟨_, rfl, hmessage⟩

end TermexoRelay
