import Mathlib.Logic.Relation
import TermexoRelay.Http.Headers
import TermexoRelay.Library.Queues
import TermexoRelay.Tunnel.Session

/-!
# The tasks of one tunnel

One task reads the socket of a tunnel, one writes it and one drives the multiplexer on it, with
bounded queues between them. Each may end first and for its own reasons; the others follow, and the
session is over once its reader has waited for the writer and taken the tunnel off the registry.
-/

namespace TermexoRelay

open Transition

/-- How many binary frames may queue in either direction before the sender has to wait. -/
def FRAME_QUEUE_CAPACITY : Nat := 128

inductive CloseCause where
  | peerClosed
  | idle
  | transport
  | closedByRelay
deriving DecidableEq, Repr

def CloseCause.asStr : CloseCause → String
  | peerClosed => "peer-closed"
  | idle => "idle-timeout"
  | transport => "transport-error"
  | closedByRelay => "closed-by-relay"

/-- A message on the WebSocket of a tunnel; a text is given as it decodes. -/
inductive TunnelMessage where
  | binary (bytes : Bytes)
  | text (decoded : Except String ControlFrame)
  | close (frame : Option (CloseCode × String))
deriving DecidableEq

namespace TunnelMessage

def isClose : TunnelMessage → Bool
  | close _ => true
  | _ => false

def payload : TunnelMessage → Option Bytes
  | binary bytes => some bytes
  | _ => none

end TunnelMessage

def Outgoing.message : Outgoing → TunnelMessage
  | .control frame => .text (.ok frame)
  | .close code reason => .close (some (code, reason))

/-- The data plane of a socket: one continuous byte stream for the multiplexer. -/
def binaries (messages : List TunnelMessage) : List Bytes :=
  messages.filterMap TunnelMessage.payload

@[simp] theorem binaries_append (before after : List TunnelMessage) :
    binaries (before ++ after) = binaries before ++ binaries after := by
  simp [binaries]

theorem binaries_isPrefix {before after : List TunnelMessage} (h : before <+: after) :
    binaries before <+: binaries after := by
  obtain ⟨rest, rfl⟩ := h
  exact ⟨binaries rest, (binaries_append before rest).symm⟩

theorem binaries_of_isPrefix {received sent : List TunnelMessage} (h : received <+: sent) :
    binaries sent = binaries received ++ binaries (sent.drop received.length) := by
  rw [← binaries_append, List.prefix_iff_eq_append.mp h]

@[simp] theorem binaries_binary (bytes : Bytes) :
    binaries [.binary bytes] = [bytes] := rfl

@[simp] theorem binaries_text (decoded : Except String ControlFrame) :
    binaries [.text decoded] = [] := rfl

@[simp] theorem binaries_close (frame : Option (CloseCode × String)) :
    binaries [.close frame] = [] := rfl

/-- Where the session is: in `read_frames`, and in `run` after it. -/
inductive TunnelReader where
  | reading
  /-- A binary frame waits for room in the queue of the multiplexer. -/
  | delivering (bytes : Bytes)
  /-- `read_frames` has returned; `handle.close` is next. -/
  | stopped (cause : CloseCause)
  /-- `driver.abort()` is next. -/
  | closed (cause : CloseCause)
  /-- `writer.await`. -/
  | joining (cause : CloseCause)
  /-- `Registry::disconnect` is next. -/
  | leaving (cause : CloseCause)
  | left (cause : CloseCause)
deriving DecidableEq

inductive TunnelWriter where
  /-- The `select!` of its loop. -/
  | selecting
  /-- `sink.send` in the loop. -/
  | sending
  /-- `sink.send` of a close, which ends the loop whatever it returns. -/
  | sendingClose
  | closing
  | ended
deriving DecidableEq, Repr

namespace TunnelReader

def serves : TunnelReader → Bool
  | reading => true
  | delivering _ => true
  | _ => false

def hasAborted : TunnelReader → Bool
  | joining _ => true
  | leaving _ => true
  | left _ => true
  | _ => false

def hasJoined : TunnelReader → Bool
  | leaving _ => true
  | left _ => true
  | _ => false

def holds : TunnelReader → List Bytes
  | delivering bytes => [bytes]
  | _ => []

end TunnelReader

namespace TunnelWriter

def loops : TunnelWriter → Bool
  | selecting => true
  | sending => true
  | _ => false

/-- The writer waits for an operation on the socket to return. -/
def onSocket : TunnelWriter → Bool
  | sending => true
  | sendingClose => true
  | closing => true
  | _ => false

end TunnelWriter

/-- The task of a multiplexer, seen from its queues. An aborted task may finish the poll it is
in. -/
inductive DriverTask where
  | running
  | aborted
  | ended
deriving DecidableEq, Repr

namespace DriverTask

def abort : DriverTask → DriverTask
  | ended => ended
  | _ => aborted

end DriverTask

/-- A tunnel in service. What `data` and `inbound` hold is the byte stream the multiplexer rides on;
`sent` and `received` are the messages of the socket so far, the handshake's first. -/
structure TunnelTasks where
  reader : TunnelReader
  writer : TunnelWriter
  driver : DriverTask
  inbound : Fifo Bytes FRAME_QUEUE_CAPACITY
  data : Fifo Bytes FRAME_QUEUE_CAPACITY
  outgoing : Fifo Outgoing COMMAND_CAPACITY
  shutdown : Bool
  sent : List TunnelMessage
  received : List TunnelMessage
deriving DecidableEq

inductive TaskLabel where
  | receive (message : TunnelMessage)
  /-- The socket ends, fails or is silent for too long. -/
  | fail (cause : CloseCause)
  | reader
  /-- `write_frames` takes the branch of `data.recv()`. -/
  | takeData
  /-- It takes the branch of `outgoing.recv()`. -/
  | takeCommand
  | tick
  /-- The socket operation the writer waits for returns. -/
  | socketReturns (ok : Bool)
  | driverReads
  | driverWrites (bytes : Bytes)
  | driverEnds
  /-- `send_frame` or `close` on a handle of the tunnel. -/
  | command (message : Outgoing)
deriving DecidableEq

namespace TunnelTasks

def start (welcome hello : ControlFrame) : TunnelTasks :=
  ⟨.reading, .selecting, .running, .empty, .empty, .empty, false, [.text (.ok welcome)],
    [.text (.ok hello)]⟩

/-- `try_send` on the outgoing channel, whose receiver is dropped with the writer. -/
def queue (message : Outgoing) (s : TunnelTasks) : TunnelTasks :=
  if s.writer = .ended then s else { s with outgoing := s.outgoing.offer message }

/-- `read_frames` on one message. What a control frame does to the registry is no matter of these
tasks; a ping is answered on the tunnel itself. -/
def receive (message : TunnelMessage) (s : TunnelTasks) : TunnelTasks :=
  let s := { s with received := s.received ++ [message] }
  match message with
  | .binary bytes => { s with reader := .delivering bytes }
  | .text (.ok .ping) => s.queue (.control .pong)
  | .text _ => s
  | .close _ => { s with reader := .stopped .peerClosed }

/-- What the session does by itself. -/
def readerTurn (s : TunnelTasks) : Option TunnelTasks :=
  match s.reader with
  | .reading => if s.shutdown then some { s with reader := .stopped .closedByRelay } else none
  | .delivering bytes =>
      if s.driver = .ended then some { s with reader := .stopped .transport }
      else (s.inbound.put bytes).map fun inbound => { s with inbound, reader := .reading }
  | .stopped cause =>
      some { s.queue (.close .goingAway REASON_CLOSING) with reader := .closed cause }
  | .closed cause => some { s with driver := s.driver.abort, reader := .joining cause }
  | .joining cause => if s.writer = .ended then some { s with reader := .leaving cause } else none
  | .leaving cause => some { s with reader := .left cause }
  | .left _ => none

/-- `data.recv()`, which gives nothing only once the multiplexer is gone and its frames are sent. -/
def takeData (s : TunnelTasks) : Option TunnelTasks :=
  match s.data.take with
  | some (bytes, data) =>
      some { s with data, writer := .sending, sent := s.sent ++ [.binary bytes] }
  | none => if s.driver = .ended then some { s with writer := .closing } else none

/-- `outgoing.recv()`, which waits while there is nothing: the session holds a handle itself. -/
def takeCommand (s : TunnelTasks) : Option TunnelTasks :=
  match s.outgoing.take with
  | some (.control frame, outgoing) =>
      some { s with outgoing, writer := .sending, sent := s.sent ++ [.text (.ok frame)] }
  | some (.close code reason, outgoing) =>
      some { s with
        outgoing
        writer := .sendingClose
        sent := s.sent ++ [.close (some (code, reason))] }
  | none => none

/-- `sink.send` or `sink.close` returns; only the end of the loop minds a failure. -/
def socketReturns (ok : Bool) (s : TunnelTasks) : Option TunnelTasks :=
  match s.writer with
  | .sending => some { s with writer := if ok then .selecting else .closing }
  | .sendingClose => some { s with writer := .closing }
  | .closing => some { s with writer := .ended, shutdown := true }
  | _ => none

def step (s : TunnelTasks) : TaskLabel → Option TunnelTasks
  | .receive message => if s.reader = .reading then some (s.receive message) else none
  | .fail cause =>
      if s.reader = .reading ∧ cause ≠ .closedByRelay then some { s with reader := .stopped cause }
      else none
  | .reader => s.readerTurn
  | .takeData => if s.writer = .selecting then s.takeData else none
  | .takeCommand => if s.writer = .selecting then s.takeCommand else none
  | .tick =>
      if s.writer = .selecting then
        some { s with writer := .sending, sent := s.sent ++ [.text (.ok .ping)] }
      else none
  | .socketReturns ok => s.socketReturns ok
  | .driverReads =>
      if s.driver = .ended then none
      else s.inbound.take.map fun next => { s with inbound := next.2 }
  | .driverWrites bytes =>
      if s.driver = .ended ∨ s.writer = .ended then none
      else (s.data.put bytes).map fun data => { s with data }
  | .driverEnds => if s.driver = .ended then none else some { s with driver := .ended }
  | .command message => some (s.queue message)

end TunnelTasks

def TaskLabel.received : TaskLabel → Option TunnelMessage
  | .receive message => some message
  | _ => none

/-- The steps of the tasks, one rule for each. -/
inductive TaskStep (s : TunnelTasks) : TaskLabel → TunnelTasks → Prop
  | received {message : TunnelMessage} (h : s.reader = .reading) :
      TaskStep s (.receive message) (s.receive message)
  | failed {cause : CloseCause} (h : s.reader = .reading) :
      TaskStep s (.fail cause) { s with reader := .stopped cause }
  | noticed (h : s.reader = .reading) (hshutdown : s.shutdown = true) :
      TaskStep s .reader { s with reader := .stopped .closedByRelay }
  | delivered {bytes : Bytes} {inbound : Fifo Bytes FRAME_QUEUE_CAPACITY}
      (h : s.reader = .delivering bytes) (hput : s.inbound.put bytes = some inbound) :
      TaskStep s .reader { s with inbound, reader := .reading }
  | undelivered {bytes : Bytes} (h : s.reader = .delivering bytes) :
      TaskStep s .reader { s with reader := .stopped .transport }
  | closed {cause : CloseCause} (h : s.reader = .stopped cause) :
      TaskStep s .reader { s.queue (.close .goingAway REASON_CLOSING) with reader := .closed cause }
  | aborted {cause : CloseCause} (h : s.reader = .closed cause) :
      TaskStep s .reader { s with driver := s.driver.abort, reader := .joining cause }
  | joined {cause : CloseCause} (h : s.reader = .joining cause) (hwriter : s.writer = .ended) :
      TaskStep s .reader { s with reader := .leaving cause }
  | left {cause : CloseCause} (h : s.reader = .leaving cause) :
      TaskStep s .reader { s with reader := .left cause }
  | tookData {bytes : Bytes} {data : Fifo Bytes FRAME_QUEUE_CAPACITY}
      (h : s.writer = .selecting) (htake : s.data.take = some (bytes, data)) :
      TaskStep s .takeData { s with data, writer := .sending, sent := s.sent ++ [.binary bytes] }
  | drained (h : s.writer = .selecting) (hdriver : s.driver = .ended) :
      TaskStep s .takeData { s with writer := .closing }
  | tookControl {frame : ControlFrame} {outgoing : Fifo Outgoing COMMAND_CAPACITY}
      (h : s.writer = .selecting) (htake : s.outgoing.take = some (.control frame, outgoing)) :
      TaskStep s .takeCommand
        { s with outgoing, writer := .sending, sent := s.sent ++ [.text (.ok frame)] }
  | tookClose {code : CloseCode} {reason : String} {outgoing : Fifo Outgoing COMMAND_CAPACITY}
      (h : s.writer = .selecting) (htake : s.outgoing.take = some (.close code reason, outgoing)) :
      TaskStep s .takeCommand
        { s with
          outgoing
          writer := .sendingClose
          sent := s.sent ++ [.close (some (code, reason))] }
  | ticked (h : s.writer = .selecting) :
      TaskStep s .tick { s with writer := .sending, sent := s.sent ++ [.text (.ok .ping)] }
  | wentOn {ok : Bool} (h : s.writer = .sending) :
      TaskStep s (.socketReturns ok) { s with writer := .selecting }
  | gaveUp {ok : Bool} (h : s.writer = .sending ∨ s.writer = .sendingClose) :
      TaskStep s (.socketReturns ok) { s with writer := .closing }
  | signalled {ok : Bool} (h : s.writer = .closing) :
      TaskStep s (.socketReturns ok) { s with writer := .ended, shutdown := true }
  | driverRead {bytes : Bytes} {inbound : Fifo Bytes FRAME_QUEUE_CAPACITY}
      (htake : s.inbound.take = some (bytes, inbound)) :
      TaskStep s .driverReads { s with inbound }
  | driverWrote {bytes : Bytes} {data : Fifo Bytes FRAME_QUEUE_CAPACITY}
      (hdriver : s.driver ≠ .ended) (hput : s.data.put bytes = some data) :
      TaskStep s (.driverWrites bytes) { s with data }
  | driverEnded (hdriver : s.driver ≠ .ended) :
      TaskStep s .driverEnds { s with driver := .ended }
  | queued {message : Outgoing} : TaskStep s (.command message) (s.queue message)

/-- What the channel of a tunnel does, or that it stays as it is. -/
inductive Channel.Moves (c : Channel) : Channel → Prop
  | stays : Moves c c
  | sends (message : Outgoing) : Moves c (c.trySend message)
  | writes {c' : Channel} (h : c.write = some c') : Moves c c'
  | stops : Moves c c.stop

namespace TunnelTasks

variable {s s' : TunnelTasks} {label : TaskLabel}

theorem readerTurn_eq_some (h : s.readerTurn = some s') : TaskStep s .reader s' := by
  unfold readerTurn at h
  cases hreader : s.reader with
  | reading =>
      simp only [hreader] at h
      split at h
      · next hshutdown =>
          cases h
          exact .noticed hreader hshutdown
      · cases h
  | delivering bytes =>
      simp only [hreader] at h
      split at h
      · cases h
        exact .undelivered hreader
      · obtain ⟨inbound, hput, rfl⟩ := Option.map_eq_some_iff.mp h
        exact .delivered hreader hput
  | stopped cause =>
      simp only [hreader] at h
      cases h
      exact .closed hreader
  | closed cause =>
      simp only [hreader] at h
      cases h
      exact .aborted hreader
  | joining cause =>
      simp only [hreader] at h
      split at h
      · next hwriter =>
          cases h
          exact .joined hreader hwriter
      · cases h
  | leaving cause =>
      simp only [hreader] at h
      cases h
      exact .left hreader
  | left cause =>
      simp only [hreader] at h
      cases h

theorem takeData_eq_some (hwriter : s.writer = .selecting) (h : s.takeData = some s') :
    TaskStep s .takeData s' := by
  unfold takeData at h
  split at h
  · next htake =>
      cases h
      exact .tookData hwriter htake
  · split at h
    · next hdriver =>
        cases h
        exact .drained hwriter hdriver
    · cases h

theorem takeCommand_eq_some (hwriter : s.writer = .selecting) (h : s.takeCommand = some s') :
    TaskStep s .takeCommand s' := by
  unfold takeCommand at h
  split at h
  · next htake =>
      cases h
      exact .tookControl hwriter htake
  · next htake =>
      cases h
      exact .tookClose hwriter htake
  · cases h

theorem socketReturns_eq_some {ok : Bool} (h : s.socketReturns ok = some s') :
    TaskStep s (.socketReturns ok) s' := by
  unfold socketReturns at h
  split at h
  · next hwriter =>
      cases h
      cases ok with
      | true => exact .wentOn hwriter
      | false => exact .gaveUp (.inl hwriter)
  · next hwriter =>
      cases h
      exact .gaveUp (.inr hwriter)
  · next hwriter =>
      cases h
      exact .signalled hwriter
  · cases h

theorem step_eq_some (h : s.step label = some s') : TaskStep s label s' := by
  cases label with
  | receive message =>
      simp only [step] at h
      split at h
      · next hreader =>
          cases h
          exact .received hreader
      · cases h
  | fail cause =>
      simp only [step] at h
      split at h
      · next hreader =>
          cases h
          exact .failed hreader.1
      · cases h
  | reader => exact readerTurn_eq_some h
  | takeData =>
      simp only [step] at h
      split at h
      · next hwriter => exact takeData_eq_some hwriter h
      · cases h
  | takeCommand =>
      simp only [step] at h
      split at h
      · next hwriter => exact takeCommand_eq_some hwriter h
      · cases h
  | tick =>
      simp only [step] at h
      split at h
      · next hwriter =>
          cases h
          exact .ticked hwriter
      · cases h
  | socketReturns ok => exact socketReturns_eq_some h
  | driverReads =>
      simp only [step] at h
      split at h
      · cases h
      · obtain ⟨next, htake, rfl⟩ := Option.map_eq_some_iff.mp h
        exact .driverRead htake
  | driverWrites bytes =>
      simp only [step] at h
      split at h
      · cases h
      · next hopen =>
          obtain ⟨data, hput, rfl⟩ := Option.map_eq_some_iff.mp h
          exact .driverWrote (not_or.mp hopen).1 hput
  | driverEnds =>
      simp only [step] at h
      split at h
      · cases h
      · next hdriver =>
          cases h
          exact .driverEnded hdriver
  | command message =>
      cases h
      exact .queued

/-! ## What the queues and the socket hold -/

section Fields

variable (s : TunnelTasks) (message : TunnelMessage) (command : Outgoing)

theorem queue_cases :
    s.queue command = s ∨
      s.queue command = { s with outgoing := s.outgoing.offer command } := by
  unfold queue
  split
  · exact .inl rfl
  · exact .inr rfl

theorem queue_eq :
    s.queue command = { s with outgoing := (s.queue command).outgoing } := by
  obtain h | h := queue_cases s command
  · rw [h]
  · rw [h]

@[simp] theorem reader_queue : (s.queue command).reader = s.reader := by
  rw [queue_eq]

@[simp] theorem writer_queue : (s.queue command).writer = s.writer := by
  rw [queue_eq]

@[simp] theorem driver_queue : (s.queue command).driver = s.driver := by
  rw [queue_eq]

@[simp] theorem inbound_queue : (s.queue command).inbound = s.inbound := by
  rw [queue_eq]

@[simp] theorem data_queue : (s.queue command).data = s.data := by
  rw [queue_eq]

@[simp] theorem shutdown_queue : (s.queue command).shutdown = s.shutdown := by
  rw [queue_eq]

@[simp] theorem sent_queue : (s.queue command).sent = s.sent := by
  rw [queue_eq]

@[simp] theorem received_queue : (s.queue command).received = s.received := by
  rw [queue_eq]

@[simp] theorem taken_queue : (s.queue command).outgoing.taken = s.outgoing.taken := by
  obtain h | h := queue_cases s command
  · rw [h]
  · rw [h]
    exact Fifo.taken_offer

theorem length_queue_le :
    (s.queue command).outgoing.queued.length ≤ s.outgoing.queued.length + 1 := by
  obtain h | h := queue_cases s command
  · rw [h]
    exact Nat.le_succ _
  · rw [h]
    exact Fifo.length_offer_le

theorem receive_eq :
    s.receive message = { s with
      reader := (s.receive message).reader
      outgoing := (s.receive message).outgoing
      received := s.received ++ [message] } := by
  unfold receive
  split
  · rfl
  · rw [reader_queue]
    exact queue_eq _ _
  · rfl
  · rfl

@[simp] theorem writer_receive : (s.receive message).writer = s.writer := by
  rw [receive_eq]

@[simp] theorem driver_receive : (s.receive message).driver = s.driver := by
  rw [receive_eq]

@[simp] theorem inbound_receive : (s.receive message).inbound = s.inbound := by
  rw [receive_eq]

@[simp] theorem data_receive : (s.receive message).data = s.data := by
  rw [receive_eq]

@[simp] theorem shutdown_receive : (s.receive message).shutdown = s.shutdown := by
  rw [receive_eq]

@[simp] theorem sent_receive : (s.receive message).sent = s.sent := by
  rw [receive_eq]

@[simp] theorem received_receive :
    (s.receive message).received = s.received ++ [message] := by
  rw [receive_eq]

theorem receive_ping :
    s.receive (.text (.ok .ping)) =
      { s.queue (.control .pong) with received := s.received ++ [.text (.ok .ping)] } := by
  simp only [receive, queue]
  split
  · rfl
  · rfl

theorem outgoing_receive (h : message ≠ .text (.ok .ping)) :
    (s.receive message).outgoing = s.outgoing := by
  unfold receive
  split
  · rfl
  · exact absurd rfl h
  · rfl
  · rfl

@[simp] theorem taken_receive : (s.receive message).outgoing.taken = s.outgoing.taken := by
  by_cases h : message = .text (.ok .ping)
  · rw [h, receive_ping]
    exact taken_queue s _
  · rw [outgoing_receive s message h]

theorem reader_receive (h : s.reader = .reading) :
    (s.receive message).reader = match message with
      | .binary bytes => .delivering bytes
      | .text _ => .reading
      | .close _ => .stopped .peerClosed := by
  unfold receive
  split
  · rfl
  · simpa using h
  · exact h
  · rfl

end Fields

/-- Where the data plane that came in is: with the multiplexer, in its queue or with the reader.
Only what the reader holds when it stops is lost. -/
def Delivered (reader : TunnelReader) (entered received : List Bytes) : Prop :=
  match reader with
  | .reading => received = entered
  | .delivering bytes => received = entered ++ [bytes]
  | _ => entered <+: received

theorem Delivered.isPrefix {reader : TunnelReader} {entered received : List Bytes}
    (h : Delivered reader entered received) : entered <+: received := by
  cases reader with
  | reading =>
      rw [show received = entered from h]
  | delivering bytes => exact ⟨[bytes], Eq.symm h⟩
  | _ => exact h

theorem Delivered.serving {reader : TunnelReader} {entered received : List Bytes}
    (h : Delivered reader entered received) (hserves : reader.serves = true) :
    received = entered ++ reader.holds := by
  cases reader with
  | reading => exact Eq.trans h (List.append_nil _).symm
  | delivering bytes => exact h
  | _ => cases hserves

structure Inv (s : TunnelTasks) : Prop where
  /-- The data plane of the socket is what the writer has taken from the multiplexer. -/
  carried : binaries s.sent = s.data.taken
  delivered : Delivered s.reader s.inbound.entered (binaries s.received)
  signalled : s.shutdown = true ↔ s.writer = .ended
  aborted : s.reader.hasAborted = true → s.driver ≠ .running
  joined : s.reader.hasJoined = true → s.writer = .ended
  /-- A close ends the loop, and nothing is sent after it. -/
  closed : s.writer.loops = true → ∀ message ∈ s.sent, message.isClose = false
  closedLast : ∀ message ∈ s.sent.dropLast, message.isClose = false

theorem inv_start (welcome hello : ControlFrame) : (start welcome hello).Inv where
  carried := rfl
  delivered := rfl
  signalled := by simp [start]
  aborted := nofun
  joined := nofun
  closed := by simp [start, TunnelMessage.isClose]
  closedLast := by simp [start]

theorem prefix_sent (h : s.step label = some s') : s.sent <+: s'.sent := by
  cases step_eq_some h with
  | received => simp
  | closed => simp
  | queued => simp
  | tookData => exact List.prefix_append _ _
  | tookControl => exact List.prefix_append _ _
  | tookClose => exact List.prefix_append _ _
  | ticked => exact List.prefix_append _ _
  | _ => exact List.prefix_refl _

theorem received_step (h : s.step label = some s') :
    s'.received = s.received ++ label.received.toList := by
  cases step_eq_some h with
  | received => simp [TaskLabel.received]
  | closed => simp [TaskLabel.received]
  | queued => simp [TaskLabel.received]
  | _ => exact (List.append_nil _).symm

theorem carried_step (hs : s.Inv) (h : s.step label = some s') :
    binaries s'.sent = s'.data.taken := by
  have hcarried := hs.carried
  cases step_eq_some h with
  | received => simpa using hcarried
  | closed => simpa using hcarried
  | queued => simpa using hcarried
  | tookData _ htake => simp [hcarried, (Fifo.take_eq_some htake).2]
  | tookControl => simpa using hcarried
  | tookClose => simpa using hcarried
  | ticked => simpa using hcarried
  | driverWrote _ hput => simp [hcarried, (Fifo.put_eq_some hput).1]
  | _ => exact hcarried

theorem delivered_step (hs : s.Inv) (h : s.step label = some s') :
    Delivered s'.reader s'.inbound.entered (binaries s'.received) := by
  have hdelivered := hs.delivered
  cases step_eq_some h with
  | @received message hreader =>
      rw [hreader] at hdelivered
      rw [reader_receive _ _ hreader, inbound_receive, received_receive, binaries_append]
      cases message with
      | binary bytes => exact congrArg (· ++ [bytes]) hdelivered
      | text decoded => exact (List.append_nil _).trans hdelivered
      | close frame =>
          refine ⟨[], ?_⟩
          rw [binaries_close, List.append_nil, List.append_nil]
          exact hdelivered.symm
  | failed => exact hdelivered.isPrefix
  | noticed => exact hdelivered.isPrefix
  | undelivered => exact hdelivered.isPrefix
  | delivered hreader hput =>
      rw [hreader] at hdelivered
      exact hdelivered.trans (Fifo.entered_put hput).symm
  | closed => simpa [Delivered] using hdelivered.isPrefix
  | aborted => exact hdelivered.isPrefix
  | joined => exact hdelivered.isPrefix
  | left => exact hdelivered.isPrefix
  | driverRead htake =>
      rw [Fifo.entered_take htake]
      exact hdelivered
  | queued => simpa using hdelivered
  | _ => exact hdelivered

theorem signalled_step (hs : s.Inv) (h : s.step label = some s') :
    s'.shutdown = true ↔ s'.writer = .ended := by
  have hsignalled := hs.signalled
  cases step_eq_some h with
  | received => simpa using hsignalled
  | closed => simpa using hsignalled
  | queued => simpa using hsignalled
  | tookData hwriter => simpa [hwriter] using hsignalled
  | drained hwriter => simpa [hwriter] using hsignalled
  | tookControl hwriter => simpa [hwriter] using hsignalled
  | tookClose hwriter => simpa [hwriter] using hsignalled
  | ticked hwriter => simpa [hwriter] using hsignalled
  | wentOn hwriter => simpa [hwriter] using hsignalled
  | gaveUp hwriter =>
      obtain hwriter | hwriter := hwriter
      · simpa [hwriter] using hsignalled
      · simpa [hwriter] using hsignalled
  | signalled => simp
  | _ => exact hsignalled

theorem aborted_step (hs : s.Inv) (h : s.step label = some s') :
    s'.reader.hasAborted = true → s'.driver ≠ .running := by
  have haborted := hs.aborted
  cases step_eq_some h with
  | @received message hreader =>
      rw [reader_receive _ _ hreader]
      cases message with
      | _ => exact nofun
  | aborted =>
      intro _
      cases hdriver : s.driver with
      | _ => simp [DriverTask.abort]
  | joined hreader =>
      rw [hreader] at haborted
      exact haborted
  | left hreader =>
      rw [hreader] at haborted
      exact haborted
  | driverEnded => exact fun _ => nofun
  | queued => simpa using haborted
  | failed => exact nofun
  | noticed => exact nofun
  | delivered => exact nofun
  | undelivered => exact nofun
  | closed => exact nofun
  | _ => exact haborted

theorem joined_step (hs : s.Inv) (h : s.step label = some s') :
    s'.reader.hasJoined = true → s'.writer = .ended := by
  have hjoined := hs.joined
  have hstays : s.writer ≠ .ended → s.reader.hasJoined = false := by
    intro hwriter
    rw [Bool.eq_false_iff]
    exact fun h => hwriter (hjoined h)
  cases step_eq_some h with
  | @received message hreader =>
      rw [reader_receive _ _ hreader]
      cases message with
      | _ => exact nofun
  | joined _ hwriter => exact fun _ => hwriter
  | left hreader =>
      rw [hreader] at hjoined
      exact hjoined
  | tookData hwriter => simp [hstays (by simp [hwriter])]
  | drained hwriter => simp [hstays (by simp [hwriter])]
  | tookControl hwriter => simp [hstays (by simp [hwriter])]
  | tookClose hwriter => simp [hstays (by simp [hwriter])]
  | ticked hwriter => simp [hstays (by simp [hwriter])]
  | wentOn hwriter => simp [hstays (by simp [hwriter])]
  | gaveUp hwriter =>
      obtain hwriter | hwriter := hwriter
      · simp [hstays (by simp [hwriter])]
      · simp [hstays (by simp [hwriter])]
  | signalled => exact fun _ => rfl
  | queued => simpa using hjoined
  | failed => exact nofun
  | noticed => exact nofun
  | delivered => exact nofun
  | undelivered => exact nofun
  | closed => exact nofun
  | aborted => exact nofun
  | _ => exact hjoined

theorem closed_step (hs : s.Inv) (h : s.step label = some s') :
    s'.writer.loops = true → ∀ message ∈ s'.sent, message.isClose = false := by
  have hclosed := hs.closed
  cases step_eq_some h with
  | received => simpa using hclosed
  | closed => simpa using hclosed
  | queued => simpa using hclosed
  | tookData hwriter =>
      have hnone := hclosed (by rw [hwriter]; rfl)
      exact fun _ => by simpa [or_imp, forall_and, TunnelMessage.isClose] using hnone
  | tookControl hwriter =>
      have hnone := hclosed (by rw [hwriter]; rfl)
      exact fun _ => by simpa [or_imp, forall_and, TunnelMessage.isClose] using hnone
  | ticked hwriter =>
      have hnone := hclosed (by rw [hwriter]; rfl)
      exact fun _ => by simpa [or_imp, forall_and, TunnelMessage.isClose] using hnone
  | wentOn hwriter => exact fun _ => hclosed (by rw [hwriter]; rfl)
  | drained => exact nofun
  | tookClose => exact nofun
  | gaveUp => exact nofun
  | signalled => exact nofun
  | _ => exact hclosed

theorem closedLast_step (hs : s.Inv) (h : s.step label = some s') :
    ∀ message ∈ s'.sent.dropLast, message.isClose = false := by
  have hloops : s.writer = .selecting → ∀ message ∈ s.sent, message.isClose = false := by
    intro hwriter
    exact hs.closed (by rw [hwriter]; rfl)
  have hlast := hs.closedLast
  cases step_eq_some h with
  | received => simpa using hlast
  | closed => simpa using hlast
  | queued => simpa using hlast
  | tookData hwriter => simpa only [List.dropLast_concat] using hloops hwriter
  | tookControl hwriter => simpa only [List.dropLast_concat] using hloops hwriter
  | tookClose hwriter => simpa only [List.dropLast_concat] using hloops hwriter
  | ticked hwriter => simpa only [List.dropLast_concat] using hloops hwriter
  | _ => exact hlast

theorem inv_step (hs : s.Inv) (h : s.step label = some s') : s'.Inv where
  carried := carried_step hs h
  delivered := delivered_step hs h
  signalled := signalled_step hs h
  aborted := aborted_step hs h
  joined := joined_step hs h
  closed := closed_step hs h
  closedLast := closedLast_step hs h

theorem inv_of_reachable {welcome hello : ControlFrame}
    (hr : Reachable step (start welcome hello) s) : s.Inv :=
  hr.invariant (inv_start welcome hello) fun _ _ _ => inv_step

/-! ## The channel as other tasks see it -/

/-- The channel stands for the writer and the commands of these tasks: while the writer is in its
loop the same commands are queued, and it has taken the same ones off. -/
structure Shows (s : TunnelTasks) (c : Channel) : Prop where
  writing : c.writing = s.writer.loops
  sent : c.sent = s.outgoing.taken
  queued : s.writer.loops = true → c.queued = s.outgoing.queued

theorem Shows.queue {c : Channel} (hc : s.Shows c) (message : Outgoing) :
    (s.queue message).Shows (c.trySend message) := by
  by_cases hended : s.writer = .ended
  · have hqueue : s.queue message = s := by simp [TunnelTasks.queue, hended]
    have hsend : c.trySend message = c := by
      simp [Channel.trySend, Channel.accepts, hc.writing, hended, TunnelWriter.loops]
    rw [hqueue, hsend]
    exact hc
  · have hqueue : s.queue message = { s with outgoing := s.outgoing.offer message } := by
      simp [TunnelTasks.queue, hended]
    rw [hqueue]
    constructor
    · simp only [Channel.trySend]
      split
      · exact hc.writing
      · exact hc.writing
    · simp only [Channel.trySend, Fifo.taken_offer]
      split
      · exact hc.sent
      · exact hc.sent
    · intro hloops
      have hqueued := hc.queued hloops
      have hwriting : c.writing = true := hc.writing.trans hloops
      obtain ⟨hroom, -, hoffer⟩ | ⟨hfull, hoffer⟩ := s.outgoing.offer_cases message
      · simp [Channel.trySend, Channel.accepts, hwriting, hqueued, hroom, hoffer]
      · simp [Channel.trySend, Channel.accepts, hwriting, hqueued, hfull, hoffer]

/-- A turn of the writer on a command is a turn of the channel. -/
theorem Shows.write {c : Channel} {message : Outgoing} {outgoing : Fifo Outgoing COMMAND_CAPACITY}
    (hc : s.Shows c) (hwriter : s.writer = .selecting)
    (htake : s.outgoing.take = some (message, outgoing)) :
    c.write = some ⟨outgoing.queued, outgoing.taken, !message.message.isClose⟩ := by
  have hwriting : c.writing = true := by rw [hc.writing, hwriter]; rfl
  have hqueued := hc.queued (by rw [hwriter]; rfl)
  rw [(Fifo.take_eq_some htake).1] at hqueued
  simp only [Channel.write, hwriting, hqueued, hc.sent, (Fifo.take_eq_some htake).2]
  cases message with
  | control frame => rfl
  | close code reason => rfl

theorem shows_step {c : Channel} (hc : s.Shows c) (h : s.step label = some s') :
    ∃ c', c.Moves c' ∧ s'.Shows c' := by
  have hstays : s'.writer.loops = s.writer.loops → s'.outgoing = s.outgoing →
      ∃ c', c.Moves c' ∧ s'.Shows c' := by
    intro hloops houtgoing
    refine ⟨c, .stays, ?_, ?_, ?_⟩
    · rw [hloops, hc.writing]
    · rw [houtgoing, hc.sent]
    · rw [hloops, houtgoing]
      exact hc.queued
  have hstops : s'.writer.loops = false → s'.outgoing = s.outgoing →
      ∃ c', c.Moves c' ∧ s'.Shows c' := by
    intro hloops houtgoing
    refine ⟨c.stop, .stops, hloops.symm, ?_, ?_⟩
    · rw [houtgoing]
      exact hc.sent
    · rw [hloops]
      exact nofun
  cases step_eq_some h with
  | @received message =>
      by_cases hping : message = .text (.ok .ping)
      · have hqueue := hc.queue (.control .pong)
        subst hping
        rw [receive_ping]
        exact ⟨_, .sends _, hqueue.writing, hqueue.sent, hqueue.queued⟩
      · exact hstays (by simp) (outgoing_receive _ _ hping)
  | closed =>
      have hqueue := hc.queue (.close .goingAway REASON_CLOSING)
      exact ⟨_, .sends _, hqueue.writing, hqueue.sent, hqueue.queued⟩
  | @queued message => exact ⟨_, .sends message, hc.queue message⟩
  | tookControl hwriter htake => exact ⟨_, .writes (hc.write hwriter htake), rfl, rfl, fun _ => rfl⟩
  | tookClose hwriter htake => exact ⟨_, .writes (hc.write hwriter htake), rfl, rfl, nofun⟩
  | tookData hwriter => exact hstays (by rw [hwriter]; rfl) rfl
  | ticked hwriter => exact hstays (by rw [hwriter]; rfl) rfl
  | wentOn hwriter => exact hstays (by rw [hwriter]; rfl) rfl
  | drained => exact hstops rfl rfl
  | gaveUp => exact hstops rfl rfl
  | signalled => exact hstops rfl rfl
  | _ => exact hstays rfl rfl

/-- Every command the writer took is on the socket, in order. -/
theorem taken_sublist_step (hs : (s.outgoing.taken.map Outgoing.message).Sublist s.sent)
    (h : s.step label = some s') :
    (s'.outgoing.taken.map Outgoing.message).Sublist s'.sent := by
  have hgrows : ∀ {taken : List Outgoing}, taken = s.outgoing.taken →
      (taken.map Outgoing.message).Sublist s'.sent := by
    intro taken htaken
    rw [htaken]
    exact hs.trans (prefix_sent h).sublist
  have htook : ∀ {message : Outgoing} {outgoing : Fifo Outgoing COMMAND_CAPACITY},
      s.outgoing.take = some (message, outgoing) →
      (outgoing.taken.map Outgoing.message).Sublist (s.sent ++ [message.message]) := by
    intro message outgoing htake
    rw [(Fifo.take_eq_some htake).2, List.map_append]
    exact hs.append (List.Sublist.refl _)
  cases step_eq_some h with
  | tookControl _ htake => exact htook htake
  | tookClose _ htake => exact htook htake
  | received => exact hgrows (by simp)
  | closed => exact hgrows (by simp)
  | queued => exact hgrows (by simp)
  | _ => exact hgrows rfl

/-- The tasks of a tunnel do what its channel does: in every run there is a run of the channel that
has the same commands queued while the writer is in its loop and the same ones sent, in the order of
the socket. A close that was sent is the last message of the socket, and a session that has waited
for its writer finds the channel stopped. -/
theorem refines_channel (welcome hello : ControlFrame)
    (hr : Reachable step (start welcome hello) s) :
    ∃ c, Relation.ReflTransGen Channel.Moves .new c ∧ s.Shows c ∧
      (c.sent.map Outgoing.message).Sublist s.sent ∧
      (∀ before message after, s.sent = before ++ message :: after → message.isClose = true →
        after = []) ∧
      (s.reader.hasJoined = true → c.writing = false) := by
  have hs := inv_of_reachable hr
  have hsublist : (s.outgoing.taken.map Outgoing.message).Sublist s.sent := by
    refine hr.invariant (P := fun s => (s.outgoing.taken.map Outgoing.message).Sublist s.sent) ?_ ?_
    · exact List.nil_sublist _
    · exact fun _ _ _ => taken_sublist_step
  have hchannel : ∃ c, Relation.ReflTransGen Channel.Moves .new c ∧ s.Shows c := by
    refine hr.invariant
      (P := fun s => ∃ c, Relation.ReflTransGen Channel.Moves .new c ∧ s.Shows c) ?_ ?_
    · exact ⟨.new, .refl, rfl, rfl, fun _ => rfl⟩
    · intro s label s' ⟨c, hc, hshows⟩ h
      obtain ⟨c', hmoves, hshows'⟩ := shows_step hshows h
      exact ⟨c', hc.tail hmoves, hshows'⟩
  obtain ⟨c, hc, hshows⟩ := hchannel
  refine ⟨c, hc, hshows, ?_, ?_, ?_⟩
  · rw [hshows.sent]
    exact hsublist
  · intro before message after hsent hclose
    cases after with
    | nil => rfl
    | cons next after =>
        have hmem : message ∈ s.sent.dropLast := by
          rw [hsent, List.dropLast_append_of_ne_nil (by simp), List.dropLast_cons_cons]
          simp
        rw [hs.closedLast message hmem] at hclose
        cases hclose
  · intro hjoined
    rw [hshows.writing, hs.joined hjoined]
    rfl

def deskTunnel : TunnelTasks :=
  start (.welcome "device-a" "relay-a" [] []) (.hello 1 .desktop "1" "desk" none)

theorem refines_channel_revoked :
    ∃ s c, run step deskTunnel [.command (.close .revoked "gone"), .takeCommand] = some s ∧
      Relation.ReflTransGen Channel.Moves .new c ∧ c.sent = [.close .revoked "gone"] ∧
      c.writing = false := by
  obtain ⟨s, hrun, htaken, hwriter⟩ := exists_run step deskTunnel
    [.command (.close .revoked "gone"), .takeCommand]
    (fun s => s.outgoing.taken = [.close .revoked "gone"] ∧ s.writer = .sendingClose) (by decide)
  obtain ⟨c, hc, hshows, -⟩ := refines_channel _ _ ⟨_, hrun⟩
  refine ⟨s, c, hrun, hc, hshows.sent.trans htaken, ?_⟩
  rw [hshows.writing, hwriter]
  rfl

end TunnelTasks

end TermexoRelay
