import TermexoRelay.Tunnel.Tasks
import TermexoRelay.Upstream.Dialing

/-!
# The byte stream between two relays

A tunnel between two relays carries one byte stream each way for the multiplexers at its ends, cut
into binary frames among the control frames. The upstream's end is served by three tasks, the link's
by one that does everything in turn; the link skips binary frames until it is welcomed. Whatever the
order in which all of them act, each multiplexer reads what the other one wrote.
-/

namespace TermexoRelay

open Transition

def FRAME_CAPACITY : Nat := 256

namespace TunnelMessage

def isBinary : TunnelMessage → Bool
  | binary _ => true
  | _ => false

/-- A message as whoever minds the control plane of the link reads it. -/
def read : TunnelMessage → SocketMessage
  | binary _ => .other
  | text decoded => .text decoded
  | close frame => .close (frame.map fun (code, reason) => (some code, reason))

end TunnelMessage

/-! ## The link's end -/

/-- The link's end of a tunnel, from its `hello` on. `driver` is the task of the multiplexer, which
is spawned by `pump`; `inbound` and `outbound` are its queues. -/
structure LinkTasks where
  link : LinkStage
  /-- The first snapshot has been sent, and `pump` is in its loop. -/
  announced : Bool
  /-- A binary frame waits for room in the queue of the multiplexer. -/
  delivering : Option Bytes
  driver : Option DriverTask
  inbound : Fifo Bytes FRAME_CAPACITY
  outbound : Fifo Bytes FRAME_CAPACITY
  closing : Bool
  sent : List TunnelMessage
  received : List TunnelMessage
deriving DecidableEq

inductive LinkTaskLabel where
  | receive (message : TunnelMessage)
  /-- `inbound.send` gets room, or finds the multiplexer gone. -/
  | deliver
  | announce (devices : List AnnouncedDevice)
  /-- A ping, or what has changed at this relay. -/
  | say (frame : ControlFrame)
  /-- `outbound_receiver.recv()` -/
  | carry
  | fail (failure : LinkFailure)
  | close
  | driverReads
  | driverWrites (bytes : Bytes)
  | driverEnds
deriving DecidableEq

namespace LinkTasks

def start (hello : ControlFrame) : LinkTasks :=
  ⟨.awaitingWelcome, false, none, none, .empty, .empty, false, [.text (.ok hello)], []⟩

/-- `pump` is at its `select!`. -/
def isSelecting (s : LinkTasks) : Bool :=
  s.announced && s.delivering.isNone && match s.link with
    | .pumping _ => true
    | _ => false

/-- The session is over: the multiplexer is aborted, and the socket closed if the loop was
reached. -/
def finish (outcome : SessionOutcome) (s : LinkTasks) : LinkTasks :=
  { s with
    link := .ended outcome
    delivering := none
    driver := s.driver.map DriverTask.abort
    closing := s.announced }

def handleMessage (message : TunnelMessage) (s : LinkTasks) : LinkTasks :=
  match message with
  | .binary bytes => { s with delivering := some bytes }
  | .text (.ok .ping) => { s with sent := s.sent ++ [.text (.ok .pong)] }
  | _ => s

def receive (relayId : String) (message : TunnelMessage) (s : LinkTasks) : Option LinkTasks :=
  let next := { s with received := s.received ++ [message] }
  match s.link, Dial.receive relayId message.read s.link with
  | .awaitingWelcome, some (.pumping welcome) =>
      some { next with link := .pumping welcome, driver := some .running }
  | .awaitingWelcome, some link => some { next with link }
  | .pumping _, some (.ended outcome) =>
      if s.isSelecting then some (next.finish outcome) else none
  | .pumping _, some _ => if s.isSelecting then some (next.handleMessage message) else none
  | _, _ => none

def deliver (s : LinkTasks) : Option LinkTasks :=
  match s.delivering with
  | none => none
  | some bytes =>
      if s.driver = some .running then
        (s.inbound.put bytes).map fun inbound => { s with inbound, delivering := none }
      else some (s.finish ⟨true, .interrupted MULTIPLEXER_CLOSED⟩)

def carry (s : LinkTasks) : Option LinkTasks :=
  match s.outbound.take with
  | some (bytes, outbound) => some { s with outbound, sent := s.sent ++ [.binary bytes] }
  | none =>
      if s.driver = some .running then none
      else some (s.finish ⟨true, .interrupted MULTIPLEXER_CLOSED⟩)

/-- While a frame waits for room nothing else is looked at, and before the loop only the snapshot
can fail. -/
def canFail (failure : LinkFailure) (s : LinkTasks) : Bool :=
  s.delivering.isNone && match s.link, failure with
    | .pumping _, .sendControl _ => true
    | .pumping _, _ => s.announced
    | _, _ => true

def step (relayId : String) (s : LinkTasks) : LinkTaskLabel → Option LinkTasks
  | .receive message => s.receive relayId message
  | .deliver => s.deliver
  | .announce devices =>
      match s.link with
      | .pumping _ =>
          if s.announced then none
          else some
            { s with announced := true, sent := s.sent ++ [.text (.ok (.announce devices))] }
      | _ => none
  | .say frame =>
      if s.isSelecting then some { s with sent := s.sent ++ [.text (.ok frame)] } else none
  | .carry => if s.isSelecting then s.carry else none
  | .fail failure =>
      if s.canFail failure then (failure.outcome s.link).map fun outcome => s.finish outcome
      else none
  | .close =>
      if s.closing then some { s with closing := false, sent := s.sent ++ [.close none] } else none
  | .driverReads =>
      match s.driver with
      | none => none
      | some .ended => none
      | some _ => s.inbound.take.map fun next => { s with inbound := next.2 }
  | .driverWrites bytes =>
      if s.driver = some .running then
        (s.outbound.put bytes).map fun outbound => { s with outbound }
      else none
  | .driverEnds =>
      match s.driver with
      | none => none
      | some .ended => none
      | some _ => some { s with driver := some .ended }

end LinkTasks

/-- The steps of the link's end, one rule for each. -/
inductive LinkTaskStep (s : LinkTasks) : LinkTaskLabel → LinkTasks → Prop
  | skipped {message : TunnelMessage} (h : s.link = .awaitingWelcome)
      (hbinary : message.isBinary = true) :
      LinkTaskStep s (.receive message) { s with received := s.received ++ [message] }
  | welcomed {message : TunnelMessage} {welcome : Welcome} (h : s.link = .awaitingWelcome)
      (hbinary : message.isBinary = false) :
      LinkTaskStep s (.receive message)
        { s with
          link := .pumping welcome
          driver := some .running
          received := s.received ++ [message] }
  | refused {message : TunnelMessage} {outcome : SessionOutcome} (h : s.link = .awaitingWelcome)
      (hbinary : message.isBinary = false) :
      LinkTaskStep s (.receive message)
        { s with link := .ended outcome, received := s.received ++ [message] }
  | took {bytes : Bytes} {welcome : Welcome} (h : s.link = .pumping welcome)
      (hdelivering : s.delivering = none) :
      LinkTaskStep s (.receive (.binary bytes))
        { s with received := s.received ++ [.binary bytes], delivering := some bytes }
  | answered {welcome : Welcome} (h : s.link = .pumping welcome)
      (hdelivering : s.delivering = none) :
      LinkTaskStep s (.receive (.text (.ok .ping)))
        { s with
          received := s.received ++ [.text (.ok .ping)]
          sent := s.sent ++ [.text (.ok .pong)] }
  | heard {message : TunnelMessage} {welcome : Welcome} (h : s.link = .pumping welcome)
      (hdelivering : s.delivering = none) (hbinary : message.isBinary = false) :
      LinkTaskStep s (.receive message) { s with received := s.received ++ [message] }
  | left {message : TunnelMessage} {welcome : Welcome} {outcome : SessionOutcome}
      (h : s.link = .pumping welcome) (hdelivering : s.delivering = none)
      (hbinary : message.isBinary = false) :
      LinkTaskStep s (.receive message)
        ({ s with received := s.received ++ [message] }.finish outcome)
  | delivered {bytes : Bytes} {inbound : Fifo Bytes FRAME_CAPACITY}
      (h : s.delivering = some bytes) (hput : s.inbound.put bytes = some inbound) :
      LinkTaskStep s .deliver { s with inbound, delivering := none }
  | carried {bytes : Bytes} {outbound : Fifo Bytes FRAME_CAPACITY}
      (htake : s.outbound.take = some (bytes, outbound)) :
      LinkTaskStep s .carry { s with outbound, sent := s.sent ++ [.binary bytes] }
  | said {label : LinkTaskLabel} {decoded : Except String ControlFrame} {announced : Bool}
      (h : ∀ message, label ≠ .receive message) :
      LinkTaskStep s label { s with announced, sent := s.sent ++ [.text decoded] }
  | finished {label : LinkTaskLabel} {outcome : SessionOutcome}
      (h : ∀ message, label ≠ .receive message) : LinkTaskStep s label (s.finish outcome)
  | closed : LinkTaskStep s .close { s with closing := false, sent := s.sent ++ [.close none] }
  | driverRead {bytes : Bytes} {inbound : Fifo Bytes FRAME_CAPACITY}
      (htake : s.inbound.take = some (bytes, inbound)) :
      LinkTaskStep s .driverReads { s with inbound }
  | driverWrote {bytes : Bytes} {outbound : Fifo Bytes FRAME_CAPACITY}
      (hput : s.outbound.put bytes = some outbound) :
      LinkTaskStep s (.driverWrites bytes) { s with outbound }
  | driverEnded : LinkTaskStep s .driverEnds { s with driver := some .ended }

namespace LinkTasks

variable {relayId : String} {s s' : LinkTasks} {label : LinkTaskLabel}

theorem isSelecting_delivering (h : s.isSelecting = true) : s.delivering = none := by
  simp only [isSelecting, Bool.and_eq_true, Option.isNone_iff_eq_none] at h
  exact h.1.2

theorem receive_awaitingWelcome {message : TunnelMessage} {link : LinkStage}
    (h : Dial.receive relayId message.read .awaitingWelcome = some link) :
    (link = .awaitingWelcome ∧ message.isBinary = true) ∨
      (message.isBinary = false ∧
        ((∃ welcome, link = .pumping welcome) ∨ ∃ outcome, link = .ended outcome)) := by
  simp only [Dial.receive] at h
  cases message with
  | binary bytes =>
      cases h
      exact .inl ⟨rfl, rfl⟩
  | text decoded =>
      refine .inr ⟨rfl, ?_⟩
      simp only [TunnelMessage.read, nextControlFrame] at h
      split at h
      · cases h
        exact .inr ⟨_, rfl⟩
      · cases h
        split
        · exact .inr ⟨_, rfl⟩
        · exact .inl ⟨_, rfl⟩
  | close frame =>
      cases h
      exact .inr ⟨rfl, .inr ⟨_, rfl⟩⟩

theorem receive_pumping {message : TunnelMessage} {welcome : Welcome} {link : LinkStage}
    (h : Dial.receive relayId message.read (.pumping welcome) = some link) :
    link = .pumping welcome ∨ (message.isBinary = false ∧ ∃ outcome, link = .ended outcome) := by
  simp only [Dial.receive] at h
  cases message with
  | binary bytes =>
      cases h
      exact .inl rfl
  | text decoded =>
      split at h
      · cases h
        exact .inl rfl
      · cases h
        exact .inr ⟨rfl, _, rfl⟩
  | close frame =>
      cases h
      exact .inr ⟨rfl, _, rfl⟩

theorem handleMessage_step {message : TunnelMessage} {welcome : Welcome}
    (h : s.link = .pumping welcome) (hdelivering : s.delivering = none) :
    LinkTaskStep s (.receive message)
      ({ s with received := s.received ++ [message] }.handleMessage message) := by
  unfold handleMessage
  split
  · exact .took h hdelivering
  · exact .answered h hdelivering
  · next hbinary _ =>
      refine .heard h hdelivering ?_
      cases message with
      | binary bytes => exact absurd rfl (hbinary bytes)
      | text decoded => rfl
      | close frame => rfl

theorem receive_eq_some {message : TunnelMessage} (h : s.receive relayId message = some s') :
    LinkTaskStep s (.receive message) s' := by
  cases hlink : s.link with
  | dialing => simp [receive, hlink] at h
  | ended outcome => simp [receive, hlink] at h
  | awaitingWelcome =>
      cases hread : Dial.receive relayId message.read .awaitingWelcome with
      | none => simp [receive, hlink, hread] at h
      | some link =>
          obtain ⟨rfl, hbinary⟩ | ⟨hbinary, ⟨welcome, rfl⟩ | ⟨outcome, rfl⟩⟩ :=
            receive_awaitingWelcome hread
          · simp only [receive, hlink, hread] at h
            cases h
            rw [← hlink]
            exact .skipped hlink hbinary
          · simp only [receive, hlink, hread] at h
            cases h
            exact .welcomed hlink hbinary
          · simp only [receive, hlink, hread] at h
            cases h
            exact .refused hlink hbinary
  | pumping welcome =>
      cases hread : Dial.receive relayId message.read (.pumping welcome) with
      | none => simp [receive, hlink, hread] at h
      | some link =>
          obtain rfl | ⟨hbinary, outcome, rfl⟩ := receive_pumping hread
          · simp only [receive, hlink, hread] at h
            split at h
            · next hselecting =>
                cases h
                rw [← hlink]
                exact handleMessage_step hlink (isSelecting_delivering hselecting)
            · cases h
          · simp only [receive, hlink, hread] at h
            split at h
            · next hselecting =>
                cases h
                rw [← hlink]
                exact .left hlink (isSelecting_delivering hselecting) hbinary
            · cases h

theorem deliver_eq_some (h : s.deliver = some s') : LinkTaskStep s .deliver s' := by
  unfold deliver at h
  split at h
  · cases h
  · next hdelivering =>
      split at h
      · obtain ⟨inbound, hput, rfl⟩ := Option.map_eq_some_iff.mp h
        exact .delivered hdelivering hput
      · cases h
        exact .finished nofun

theorem carry_eq_some (h : s.carry = some s') : LinkTaskStep s .carry s' := by
  unfold carry at h
  split at h
  · next htake =>
      cases h
      exact .carried htake
  · split at h
    · cases h
    · cases h
      exact .finished nofun

theorem step_eq_some (h : s.step relayId label = some s') : LinkTaskStep s label s' := by
  cases label with
  | receive message => exact receive_eq_some h
  | deliver => exact deliver_eq_some h
  | announce devices =>
      simp only [step] at h
      split at h
      · split at h
        · cases h
        · cases h
          exact .said nofun
      · cases h
  | say frame =>
      simp only [step] at h
      split at h
      · cases h
        exact .said nofun
      · cases h
  | carry =>
      simp only [step] at h
      split at h
      · exact carry_eq_some h
      · cases h
  | fail failure =>
      simp only [step] at h
      split at h
      · obtain ⟨outcome, -, rfl⟩ := Option.map_eq_some_iff.mp h
        exact .finished nofun
      · cases h
  | close =>
      simp only [step] at h
      split at h
      · cases h
        exact .closed
      · cases h
  | driverReads =>
      simp only [step] at h
      split at h
      · cases h
      · cases h
      · obtain ⟨next, htake, rfl⟩ := Option.map_eq_some_iff.mp h
        exact .driverRead htake
  | driverWrites bytes =>
      simp only [step] at h
      split at h
      · obtain ⟨outbound, hput, rfl⟩ := Option.map_eq_some_iff.mp h
        exact .driverWrote hput
      · cases h
  | driverEnds =>
      simp only [step] at h
      split at h
      · cases h
      · cases h
      · cases h
        exact .driverEnded

def heeded (received : List TunnelMessage) : List TunnelMessage :=
  received.dropWhile TunnelMessage.isBinary

theorem heeded_append_of_eq {received : List TunnelMessage} (message : TunnelMessage)
    (h : heeded received = []) : heeded (received ++ [message]) = heeded [message] := by
  unfold heeded at h ⊢
  rw [List.dropWhile_append, h]
  rfl

theorem heeded_append_of_ne {received : List TunnelMessage} (message : TunnelMessage)
    (h : heeded received ≠ []) : heeded (received ++ [message]) = heeded received ++ [message] := by
  unfold heeded at h ⊢
  rw [List.dropWhile_append, if_neg (by simpa using h)]

/-- Where the data plane that came in since the welcome is: with the multiplexer, in its queue or
waiting for room. Only what waits when the session ends is lost. -/
def Delivered (s : LinkTasks) : Prop :=
  match s.link with
  | .pumping _ => heeded s.received ≠ [] ∧
      binaries (heeded s.received) = s.inbound.entered ++ s.delivering.toList
  | .ended _ => s.delivering = none ∧ s.inbound.entered <+: binaries (heeded s.received)
  | _ => s.delivering = none ∧ heeded s.received = [] ∧ s.inbound.entered = []

theorem delivered_start (hello : ControlFrame) : (start hello).Delivered := ⟨rfl, rfl, rfl⟩

theorem Delivered.finish (hs : s.Delivered) (outcome : SessionOutcome) :
    (s.finish outcome).Delivered := by
  refine ⟨rfl, ?_⟩
  simp only [LinkTasks.finish]
  cases hlink : s.link with
  | pumping welcome =>
      simp only [Delivered, hlink] at hs
      exact ⟨s.delivering.toList, hs.2.symm⟩
  | ended outcome =>
      simp only [Delivered, hlink] at hs
      exact hs.2
  | _ =>
      simp only [Delivered, hlink] at hs
      rw [hs.2.2]
      exact List.nil_prefix

theorem Delivered.control (hs : s.Delivered) {welcome : Welcome} {message : TunnelMessage}
    (hlink : s.link = .pumping welcome) (hbinary : message.isBinary = false) :
    Delivered { s with received := s.received ++ [message] } := by
  simp only [Delivered, hlink] at hs ⊢
  have hnone : binaries [message] = [] := by
    cases message with
    | binary bytes => cases hbinary
    | text decoded => rfl
    | close frame => rfl
  rw [heeded_append_of_ne _ hs.1, binaries_append, hnone, List.append_nil]
  exact ⟨by simp, hs.2⟩

theorem delivered_step (hs : s.Delivered) (h : s.step relayId label = some s') :
    s'.Delivered := by
  cases step_eq_some h with
  | @skipped message hlink hbinary =>
      simp only [Delivered, hlink] at hs ⊢
      refine ⟨hs.1, ?_, hs.2.2⟩
      rw [heeded_append_of_eq _ hs.2.1]
      simp [heeded, hbinary]
  | @welcomed message welcome hlink hbinary =>
      simp only [Delivered, hlink] at hs
      have hheeded : heeded (s.received ++ [message]) = [message] := by
        rw [heeded_append_of_eq _ hs.2.1]
        simp [heeded, hbinary]
      have hnone : binaries [message] = [] := by
        cases message with
        | binary bytes => cases hbinary
        | text decoded => rfl
        | close frame => rfl
      simp only [Delivered, hheeded, hnone, hs.1, hs.2.2]
      simp
  | @refused message outcome hlink hbinary =>
      simp only [Delivered, hlink] at hs
      refine ⟨hs.1, ?_⟩
      simp only [hs.2.2]
      exact List.nil_prefix
  | @took bytes welcome hlink hdelivering =>
      simp only [Delivered, hlink, hdelivering] at hs ⊢
      rw [heeded_append_of_ne _ hs.1, binaries_append, hs.2]
      simp
  | answered hlink => exact hs.control hlink rfl
  | heard hlink _ hbinary => exact hs.control hlink hbinary
  | left hlink _ hbinary => exact (hs.control hlink hbinary).finish _
  | delivered hdelivering hput =>
      cases hlink : s.link with
      | pumping welcome =>
          simp only [Delivered, hlink, hdelivering] at hs ⊢
          rw [Fifo.entered_put hput]
          simpa using hs
      | _ => simp [Delivered, hlink, hdelivering] at hs
  | driverRead htake =>
      unfold Delivered at hs ⊢
      simpa only [Fifo.entered_take htake] using hs
  | finished => exact hs.finish _
  | _ => exact hs

/-- The data plane of the link's socket is what was taken from its multiplexer. -/
theorem carried_step (hs : binaries s.sent = s.outbound.taken)
    (h : s.step relayId label = some s') : binaries s'.sent = s'.outbound.taken := by
  cases step_eq_some h with
  | answered => simpa using hs
  | said => simpa using hs
  | closed => simpa using hs
  | carried htake => simp [hs, (Fifo.take_eq_some htake).2]
  | driverWrote hput => simp [hs, (Fifo.put_eq_some hput).1]
  | _ => exact hs

theorem prefix_sent (h : s.step relayId label = some s') : s.sent <+: s'.sent := by
  cases step_eq_some h with
  | answered => exact List.prefix_append _ _
  | said => exact List.prefix_append _ _
  | closed => exact List.prefix_append _ _
  | carried => exact List.prefix_append _ _
  | _ => exact List.prefix_refl _

end LinkTasks

def LinkTaskLabel.received : LinkTaskLabel → Option TunnelMessage
  | .receive message => some message
  | _ => none

theorem LinkTasks.received_step {relayId : String} {s s' : LinkTasks} {label : LinkTaskLabel}
    (h : s.step relayId label = some s') :
    s'.received = s.received ++ label.received.toList := by
  cases step_eq_some h with
  | said hlabel =>
      cases label with
      | receive message => exact absurd rfl (hlabel message)
      | _ => exact (List.append_nil _).symm
  | finished hlabel =>
      cases label with
      | receive message => exact absurd rfl (hlabel message)
      | _ => exact (List.append_nil _).symm
  | delivered => exact (List.append_nil _).symm
  | carried => exact (List.append_nil _).symm
  | closed => exact (List.append_nil _).symm
  | driverRead => exact (List.append_nil _).symm
  | driverWrote => exact (List.append_nil _).symm
  | driverEnded => exact (List.append_nil _).symm
  | _ => rfl

def linkEnd (relayId : String) : Party LinkTasks LinkTaskLabel TunnelMessage where
  step := LinkTasks.step relayId
  receives := LinkTaskLabel.received
  sent := LinkTasks.sent
  received := LinkTasks.received
  sent_step := fun _ _ _ => LinkTasks.prefix_sent
  received_step := fun _ _ _ => LinkTasks.received_step

/-! ## The upstream's end -/

/-- The upstream's end of a tunnel: `accept_hello`, then the tasks. -/
inductive TunnelEnd where
  | accepting
  /-- The tunnel was refused, or its `welcome` could not be sent. -/
  | refused (sent received : List TunnelMessage)
  | serving (tasks : TunnelTasks)

inductive TunnelEndLabel where
  /-- The first message; `welcomed` tells whether the answer could be sent. -/
  | accept (message : TunnelMessage) (welcomed : Bool) (addresses : List RelayAddress)
      (chain : List String)
  | giveUp
  | task (label : TaskLabel)

/-- A tunnel is refused with a frame and close code 4401. -/
def rejection (reason : String) : List TunnelMessage :=
  [.text (.ok (.authFailed reason)), .close (some (.unauthorized, ""))]

namespace TunnelEnd

def sent : TunnelEnd → List TunnelMessage
  | accepting => []
  | refused sent _ => sent
  | serving tasks => tasks.sent

def received : TunnelEnd → List TunnelMessage
  | accepting => []
  | refused _ received => received
  | serving tasks => tasks.received

def isServing : TunnelEnd → Bool
  | serving _ => true
  | _ => false

/-- `accept_hello` on the first message. -/
def accept (config : RelayConfig) (device : DeviceRecord) (message : TunnelMessage)
    (welcomed : Bool) (addresses : List RelayAddress) (chain : List String) : TunnelEnd :=
  match message with
  | .text (.ok frame) =>
      match acceptHello config.protocolVersion device (.frame frame) with
      | .ok _ =>
          let welcome : ControlFrame := .welcome device.id config.relayId addresses chain
          if welcomed then .serving (.start welcome frame)
          else .refused [.text (.ok welcome)] [message]
      | .error reason => .refused (rejection reason) [message]
  | _ => .refused (rejection REASON_PROTOCOL) [message]

def step (config : RelayConfig) (device : DeviceRecord) (s : TunnelEnd) :
    TunnelEndLabel → Option TunnelEnd
  | .accept message welcomed addresses chain =>
      match s with
      | accepting => some (accept config device message welcomed addresses chain)
      | _ => none
  | .giveUp =>
      match s with
      | accepting => some (refused (rejection REASON_PROTOCOL) [])
      | _ => none
  | .task label =>
      match s with
      | serving tasks => (tasks.step label).map serving
      | _ => none

end TunnelEnd

def TunnelEndLabel.received : TunnelEndLabel → Option TunnelMessage
  | accept message _ _ _ => some message
  | giveUp => none
  | task label => label.received

namespace TunnelEnd

variable {config : RelayConfig} {device : DeviceRecord} {s s' : TunnelEnd}

theorem received_accept {message : TunnelMessage} {welcomed : Bool}
    {addresses : List RelayAddress} {chain : List String} :
    (accept config device message welcomed addresses chain).received = [message] := by
  unfold accept
  split
  · split
    · split
      · rfl
      · rfl
    · rfl
  · rfl

theorem prefix_sent {label : TunnelEndLabel} (h : s.step config device label = some s') :
    s.sent <+: s'.sent := by
  cases s with
  | accepting => exact List.nil_prefix
  | refused sent received =>
      cases label with
      | _ => cases h
  | serving tasks =>
      cases label with
      | task label =>
          obtain ⟨tasks', htasks, rfl⟩ := Option.map_eq_some_iff.mp h
          exact TunnelTasks.prefix_sent htasks
      | _ => cases h

theorem received_step {label : TunnelEndLabel} (h : s.step config device label = some s') :
    s'.received = s.received ++ label.received.toList := by
  cases s with
  | accepting =>
      cases label with
      | accept message welcomed addresses chain =>
          cases h
          exact received_accept
      | giveUp =>
          cases h
          rfl
      | task label => cases h
  | refused sent received =>
      cases label with
      | _ => cases h
  | serving tasks =>
      cases label with
      | task label =>
          obtain ⟨tasks', htasks, rfl⟩ := Option.map_eq_some_iff.mp h
          exact TunnelTasks.received_step htasks
      | _ => cases h

def Greets (messages : List TunnelMessage) : Prop :=
  ∃ frame rest, messages = .text (.ok frame) :: rest

theorem Greets.grow {before after : List TunnelMessage} (h : Greets before)
    (hgrow : before <+: after) : Greets after := by
  obtain ⟨frame, rest, rfl⟩ := h
  obtain ⟨more, rfl⟩ := hgrow
  exact ⟨frame, rest ++ more, rfl⟩

def Sound : TunnelEnd → Prop
  | accepting => True
  | refused sent _ => Greets sent
  | serving tasks => tasks.Inv ∧ Greets tasks.sent

theorem sound_accept {message : TunnelMessage} {welcomed : Bool}
    {addresses : List RelayAddress} {chain : List String} :
    (accept config device message welcomed addresses chain).Sound := by
  unfold accept
  split
  · split
    · split
      · exact ⟨TunnelTasks.inv_start _ _, _, _, rfl⟩
      · exact ⟨_, _, rfl⟩
    · exact ⟨_, _, rfl⟩
  · exact ⟨_, _, rfl⟩

theorem sound_step {label : TunnelEndLabel} (hs : s.Sound)
    (h : s.step config device label = some s') : s'.Sound := by
  cases s with
  | accepting =>
      cases label with
      | accept message welcomed addresses chain =>
          cases h
          exact sound_accept
      | giveUp =>
          cases h
          exact ⟨_, _, rfl⟩
      | task label => cases h
  | refused sent received =>
      cases label with
      | _ => cases h
  | serving tasks =>
      cases label with
      | task label =>
          obtain ⟨tasks', htasks, rfl⟩ := Option.map_eq_some_iff.mp h
          exact ⟨TunnelTasks.inv_step hs.1 htasks, hs.2.grow (TunnelTasks.prefix_sent htasks)⟩
      | _ => cases h

end TunnelEnd

def tunnelEnd (config : RelayConfig) (device : DeviceRecord) :
    Party TunnelEnd TunnelEndLabel TunnelMessage where
  step := TunnelEnd.step config device
  receives := TunnelEndLabel.received
  sent := TunnelEnd.sent
  received := TunnelEnd.received
  sent_step := fun _ _ _ => TunnelEnd.prefix_sent
  received_step := fun _ _ _ => TunnelEnd.received_step

/-! ## Both ends -/

namespace LinkTasks

theorem heeded_of_greets {received sent : List TunnelMessage} (h : TunnelEnd.Greets sent)
    (hpre : received <+: sent) : heeded received = received := by
  obtain ⟨frame, rest, rfl⟩ := h
  cases received with
  | nil => rfl
  | cons message received =>
      obtain ⟨more, hmore⟩ := hpre
      cases hmore
      rfl

theorem Delivered.isPrefix {s : LinkTasks} (h : s.Delivered) :
    s.inbound.entered <+: binaries (heeded s.received) := by
  cases hlink : s.link with
  | pumping welcome =>
      simp only [Delivered, hlink] at h
      exact ⟨s.delivering.toList, h.2.symm⟩
  | ended outcome =>
      simp only [Delivered, hlink] at h
      exact h.2
  | _ =>
      simp only [Delivered, hlink] at h
      rw [h.2.2]
      exact List.nil_prefix

end LinkTasks

/-- In every run of both ends of a tunnel between two relays, what the multiplexer at one end has
read is the beginning of what the other one has written. And while an end serves, everything written
for it is in exactly one place: with its multiplexer, in its queue, waiting for room there, on the
socket, or still queued at the end it comes from. -/
theorem byte_stream_carried (config : RelayConfig) (device : DeviceRecord) (link : LinkIdentity)
    (tasks : TunnelTasks) (far : LinkTasks)
    (hr : Reachable (pairStep (tunnelEnd config device) (linkEnd link.relayId))
      (.accepting, .start link.helloFrame) (.serving tasks, far)) :
    far.inbound.taken <+: tasks.data.entered ∧ tasks.inbound.taken <+: far.outbound.entered ∧
      (∀ welcome, far.link = .pumping welcome →
        tasks.data.entered = far.inbound.entered ++ far.delivering.toList ++
          binaries (tasks.sent.drop far.received.length) ++ tasks.data.queued) ∧
      (tasks.reader.serves = true →
        far.outbound.entered = tasks.inbound.entered ++ tasks.reader.holds ++
          binaries (far.sent.drop tasks.received.length) ++ far.outbound.queued) := by
  have hwire : tasks.received <+: far.sent ∧ far.received <+: tasks.sent :=
    received_prefix_sent (a := TunnelEnd.accepting) (b := LinkTasks.start link.helloFrame)
      List.nil_prefix List.nil_prefix hr
  have hnear : tasks.Inv ∧ TunnelEnd.Greets tasks.sent :=
    hr.left.invariant (P := TunnelEnd.Sound) trivial fun _ _ _ => TunnelEnd.sound_step
  have hfar : far.Delivered :=
    hr.right.invariant (P := LinkTasks.Delivered) (LinkTasks.delivered_start _)
      fun _ _ _ => LinkTasks.delivered_step
  have hcarried : binaries far.sent = far.outbound.taken :=
    hr.right.invariant (P := fun s => binaries s.sent = s.outbound.taken) rfl
      fun _ _ _ => LinkTasks.carried_step
  have hheeded : LinkTasks.heeded far.received = far.received :=
    LinkTasks.heeded_of_greets hnear.2 hwire.2
  have hdown : binaries far.received <+: tasks.data.taken := by
    rw [← hnear.1.carried]
    exact binaries_isPrefix hwire.2
  have hup : binaries tasks.received <+: far.outbound.taken := by
    rw [← hcarried]
    exact binaries_isPrefix hwire.1
  refine ⟨?_, ?_, ?_, ?_⟩
  · have hread := hfar.isPrefix
    rw [hheeded] at hread
    exact far.inbound.prefix_entered.trans
      (hread.trans (hdown.trans tasks.data.prefix_entered))
  · exact tasks.inbound.prefix_entered.trans
      (hnear.1.delivered.isPrefix.trans (hup.trans far.outbound.prefix_entered))
  · intro welcome hlink
    simp only [LinkTasks.Delivered, hlink, hheeded] at hfar
    rw [← hfar.2, ← binaries_of_isPrefix hwire.2, hnear.1.carried]
    rfl
  · intro hserves
    rw [← hnear.1.delivered.serving hserves, ← binaries_of_isPrefix hwire.1, hcarried]
    rfl

def relayDevice : DeviceRecord :=
  ⟨"device-b", .relay, "lower", none, "hash", none, 0, none, none, none, none, .publicAccess⟩

def relayLink : LinkIdentity := ⟨"relay-b", "b.example", "1", 1⟩

def carryOneFrame : List (PairLabel TunnelEndLabel LinkTaskLabel) :=
  [.left (.accept (.text (.ok relayLink.helloFrame)) true [] []),
    .right (.receive (.text (.ok (.welcome "device-b" "relay-a" [] [])))),
    .right (.announce []),
    .left (.task (.driverWrites [1, 2])),
    .left (.task .takeData),
    .right (.receive (.binary [1, 2])),
    .right .deliver,
    .right .driverReads]

theorem byte_stream_carried_frame :
    ∃ tasks far, run (pairStep (tunnelEnd System.plainConfig relayDevice) (linkEnd "relay-b"))
        (.accepting, .start relayLink.helloFrame) carryOneFrame = some (.serving tasks, far) ∧
      far.inbound.taken = [[1, 2]] ∧ far.inbound.taken <+: tasks.data.entered := by
  obtain ⟨⟨near, far⟩, hrun, htaken, hserving⟩ :=
    exists_run (pairStep (tunnelEnd System.plainConfig relayDevice) (linkEnd "relay-b"))
      (.accepting, .start relayLink.helloFrame) carryOneFrame
      (fun p => p.2.inbound.taken = [[1, 2]] ∧ p.1.isServing = true) (by decide)
  cases near with
  | serving tasks =>
      have hcarried := byte_stream_carried System.plainConfig relayDevice relayLink tasks far
        ⟨carryOneFrame, hrun⟩
      exact ⟨tasks, far, hrun, htaken, hcarried.1⟩
  | accepting => cases hserving
  | refused sent received => cases hserving

end TermexoRelay
