import TermexoRelay.Relay.Operators

/-!
# The address lists on the tunnels

A tunnel carries address lists in its `addresses` frames. Nothing a session or a request does puts
one on a tunnel or takes one back, and a writer only moves what is queued to the socket.
-/

namespace TermexoRelay

open Transition

def Outgoing.addresses : Outgoing → Option (List RelayAddress)
  | .control (.addresses addresses) => some addresses
  | _ => none

/-- The lists put on a tunnel so far, in order, whether they are on the socket yet or not. -/
def Channel.lists (channel : Channel) : List (List RelayAddress) :=
  (channel.sent ++ channel.queued).filterMap Outgoing.addresses

/-- The same lists are on the channel, and its writer did not come back. -/
structure Channel.Follows (channel channel' : Channel) : Prop where
  lists : channel'.lists = channel.lists
  writing : channel'.writing = true → channel.writing = true

namespace Channel

variable {channel channel' : Channel} {message : Outgoing}

theorem Follows.refl (channel : Channel) : channel.Follows channel := ⟨rfl, id⟩

theorem follows_trySend (hmessage : message.addresses = none) (channel : Channel) :
    channel.Follows (channel.trySend message) := by
  unfold trySend
  split
  · refine ⟨?_, id⟩
    simp only [lists, ← List.append_assoc, List.filterMap_append, List.filterMap_cons, hmessage,
      List.filterMap_nil, List.append_nil]
  · exact Follows.refl channel

theorem follows_write (h : channel.write = some channel') : channel.Follows channel' := by
  unfold write at h
  split at h
  · next message rest hwriting hqueued =>
      rw [Option.some.injEq] at h
      subst h
      refine ⟨?_, fun _ => hwriting⟩
      simp only [lists, hqueued, List.append_assoc, List.singleton_append]
  · cases h

theorem follows_stop (channel : Channel) : channel.Follows channel.stop :=
  ⟨rfl, fun h => nomatch h⟩

theorem lists_trySend_addresses {addresses : List RelayAddress}
    (haccepts : channel.accepts = true) :
    (channel.trySend (.control (.addresses addresses))).lists = channel.lists ++ [addresses] := by
  rw [trySend, if_pos haccepts]
  simp only [lists, ← List.append_assoc, List.filterMap_append]
  rfl

end Channel

/-- Every channel is still there, with the same lists. -/
def Relay.KeepsLists (relay relay' : Relay) : Prop :=
  ∀ (index : Nat) (channel : Channel), relay.channels[index]? = some channel →
    ∃ channel', relay'.channels[index]? = some channel' ∧ channel.Follows channel'

/-- Another part of the relay puts an address list on a channel. -/
def SystemLabel.queuesAddresses : SystemLabel → Bool
  | .environment (.queue _ (.addresses _)) => true
  | _ => false

namespace Relay

theorem keepsLists_of_channels {relay relay' : Relay} (h : relay'.channels = relay.channels) :
    relay.KeepsLists relay' :=
  fun _ channel hchannel => ⟨channel, h ▸ hchannel, .refl channel⟩

theorem keepsLists_trySend (relay : Relay) (handle : TunnelHandle) {message : Outgoing}
    (hmessage : message.addresses = none) : relay.KeepsLists (relay.trySend handle message) := by
  intro index channel hchannel
  rw [getElem?_trySend, hchannel]
  split
  · exact ⟨_, rfl, Channel.follows_trySend hmessage channel⟩
  · exact ⟨channel, rfl, .refl channel⟩

theorem keepsLists_channelStep {relay relay' : Relay} {event : ChannelEvent}
    (hevent : SystemLabel.queuesAddresses (.environment event) = false)
    (h : relay.channelStep event = some relay') : relay.KeepsLists relay' := by
  intro index channel hchannel
  cases event with
  | write other =>
      simp only [channelStep] at h
      split at h
      · next next hnext =>
          cases h
          obtain ⟨old, hold, hwrite⟩ := Option.bind_eq_some_iff.mp hnext
          by_cases hindex : other = index
          · subst hindex
            rw [hold, Option.some.injEq] at hchannel
            subst hchannel
            refine ⟨next, ?_, Channel.follows_write hwrite⟩
            exact List.getElem?_set_self (List.getElem?_eq_some_iff.mp hold).1
          · refine ⟨channel, ?_, .refl channel⟩
            exact (List.getElem?_set_ne hindex).trans hchannel
      · cases h
  | stop other =>
      cases h
      simp only [List.getElem?_modify, hchannel]
      split
      · exact ⟨_, rfl, Channel.follows_stop channel⟩
      · exact ⟨channel, rfl, .refl channel⟩
  | queue other frame =>
      cases h
      have hframe : (Outgoing.control frame).addresses = none := by
        cases frame with
        | addresses addresses => cases hevent
        | _ => rfl
      simp only [List.getElem?_modify, hchannel]
      split
      · exact ⟨_, rfl, Channel.follows_trySend hframe channel⟩
      · exact ⟨channel, rfl, .refl channel⟩

end Relay

section Steps

variable {config : RelayConfig} {choice : TaskChoice} {relay relay' : Relay}

theorem SessionStep.keepsLists {session session' : Session}
    (h : SessionStep config choice relay session relay' session') : relay.KeepsLists relay' := by
  cases h with
  | accepted _ =>
      intro index channel hchannel
      exact ⟨channel, getElem?_append_of_some hchannel, .refl channel⟩
  | displaced => exact Relay.keepsLists_trySend relay _ rfl
  | closed => exact Relay.keepsLists_trySend relay _ rfl
  | received =>
      unfold answerPing
      split
      · exact Relay.keepsLists_trySend relay _ rfl
      · exact Relay.keepsLists_of_channels rfl
  | _ => exact Relay.keepsLists_of_channels rfl

theorem RequestStep.keepsLists {request request' : Request}
    (h : RequestStep config choice relay request relay' request') : relay.KeepsLists relay' := by
  cases h with
  | framed => exact Relay.keepsLists_trySend relay _ rfl
  | closed => exact Relay.keepsLists_trySend relay _ rfl
  | disconnected => exact Relay.keepsLists_trySend relay _ rfl
  | _ => exact Relay.keepsLists_of_channels rfl

theorem System.StepCases.keepsLists {s s' : System} {label : SystemLabel}
    (h : System.StepCases config s label s') (hlabel : label.queuesAddresses = false) :
    s.shared.KeepsLists s'.shared := by
  cases h with
  | spawn _ => exact Relay.keepsLists_of_channels rfl
  | session _ h => exact h.keepsLists
  | request _ h => exact h.keepsLists
  | channel h => exact Relay.keepsLists_channelStep hlabel h

end Steps

end TermexoRelay
