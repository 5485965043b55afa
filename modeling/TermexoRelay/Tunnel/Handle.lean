import TermexoRelay.Protocol.Frames

/-!
# The handle of a live tunnel and its outgoing queue

Other modules only hold a handle and ask for work over channels. The outgoing channel is
bounded and both ways of using it are attempts: what does not fit is dropped.
-/

namespace TermexoRelay

def COMMAND_CAPACITY : Nat := 64

/-- What the writer task sends besides multiplexed data. -/
inductive Outgoing where
  | control (frame : ControlFrame)
  | close (code : CloseCode) (reason : String)
deriving DecidableEq, Repr

/-- A handle names the device its tunnel authenticated as and the channels of that tunnel. -/
structure TunnelHandle where
  deviceId : String
  channel : Nat
deriving DecidableEq, Repr

/-- The outgoing channel of one tunnel. `sent` is what the writer has put on the socket,
`writing` whether the writer still holds the receiving end. -/
structure Channel where
  queued : List Outgoing
  sent : List Outgoing
  writing : Bool
deriving DecidableEq, Repr

namespace Channel

def new : Channel := ⟨[], [], true⟩

/-- Whether `try_send` accepts one more command. -/
def accepts (channel : Channel) : Bool :=
  channel.writing && decide (channel.queued.length < COMMAND_CAPACITY)

/-- `try_send`, with its error dropped as both callers do. -/
def trySend (message : Outgoing) (channel : Channel) : Channel :=
  if channel.accepts then { channel with queued := channel.queued ++ [message] } else channel

/-- One turn of `write_frames` on a queued command: a close ends the writer. -/
def write (channel : Channel) : Option Channel :=
  match channel.writing, channel.queued with
  | true, message :: rest =>
      let writing := match message with
        | .control _ => true
        | .close _ _ => false
      some ⟨rest, channel.sent ++ [message], writing⟩
  | _, _ => none

def stop (channel : Channel) : Channel := { channel with writing := false }

/-- The command was accepted: it is still queued or already on the socket. -/
def Given (message : Outgoing) (channel : Channel) : Prop :=
  message ∈ channel.queued ∨ message ∈ channel.sent

instance (message : Outgoing) (channel : Channel) : Decidable (Given message channel) :=
  inferInstanceAs (Decidable (_ ∨ _))

theorem Given.trySend {message other : Outgoing} {channel : Channel}
    (h : Given message channel) : Given message (channel.trySend other) := by
  unfold Channel.trySend
  split
  · exact h.imp (List.mem_append_left _) id
  · exact h

theorem given_trySend_self {message : Outgoing} {channel : Channel}
    (h : channel.accepts = true) : Given message (channel.trySend message) := by
  simp [Channel.trySend, h, Given]

theorem Given.write {message : Outgoing} {channel channel' : Channel}
    (h : Given message channel) (hw : channel.write = some channel') :
    Given message channel' := by
  unfold Channel.write at hw
  split at hw
  · next next rest _ hq =>
      simp only [Option.some.injEq] at hw
      subst hw
      simp only [Given, List.mem_append, List.mem_singleton]
      rcases h with h | h
      · rw [hq, List.mem_cons] at h
        rcases h with h | h
        · exact .inr (.inr h)
        · exact .inl h
      · exact .inr (.inl h)
  · cases hw

theorem Given.stop {message : Outgoing} {channel : Channel} (h : Given message channel) :
    Given message channel.stop := h

end Channel

end TermexoRelay
