import TermexoRelay.Relay.Attempts
import TermexoRelay.Upstream.Link

/-!
# One connection attempt, at both of its ends

The link asks for the upgrade, says `hello` and waits for the `welcome`; the upstream checks the
credential and the `hello`, and serves the tunnel from then on. Each end takes its actions in any
order with the other's and with everything else the upstream does, and the socket may fail at any
time. What an attempt ended with decides whether there is another one.
-/

namespace TermexoRelay

open FailureThrottle Transition

def SOCKET_CLOSED : String := "与上游中继的连接已断开。"
def IDLE_MESSAGE : String := "上游隧道空闲超时，已断开重连。"
def MULTIPLEXER_CLOSED : String := "上游隧道多路复用已结束。"
def WELCOME_TIMEOUT : String := "上游中继未在规定时间内完成握手。"
def UNEXPECTED_HANDSHAKE : String := "上游中继在握手阶段发送了意外的帧。"
def REGISTRY_CLOSED : String := "本中继的路由表已停止发布变更。"

def StatusCode.asU16 : StatusCode → Nat
  | badRequest => 400
  | unauthorized => 401
  | forbidden => 403
  | notFound => 404
  | conflict => 409
  | internalServerError => 500

def StatusCode.isClientError (status : StatusCode) : Bool :=
  decide (400 ≤ status.asU16) && decide (status.asU16 < 500)

/-- An error of the WebSocket client: its text, and the status where the upstream answered. -/
structure ConnectError where
  status : Option StatusCode
  display : String
deriving DecidableEq, Repr

/-- An answer to the upgrade is the upstream deciding; anything else is a network problem. -/
def connectFailure (error : ConnectError) : SessionEnd :=
  match error.status.filter StatusCode.isClientError with
  | some status =>
      .refused ("上游中继拒绝了本中继的接入（HTTP " ++ toString status.asU16 ++ "）。")
  | none => .interrupted ("无法连接上游中继：" ++ error.display)

/-- What the link's socket yields. A text has been decoded; a close may carry a code, which may be
none of the relay's own. -/
inductive SocketMessage where
  | text (decoded : Except String ControlFrame)
  | close (frame : Option (Option CloseCode × String))
  | other
deriving DecidableEq

def closeReason : Option (Option CloseCode × String) → SessionEnd
  | none => .interrupted SOCKET_CLOSED
  | some (some .revoked, reason) => .revoked reason
  | some (some .unauthorized, reason) => .refused reason
  | some (_, reason) => .interrupted ("上游中继关闭了隧道：" ++ reason)

def decodeControl (decoded : Except String ControlFrame) : Except SessionEnd ControlFrame :=
  decoded.mapError fun error => .interrupted ("上游控制帧无法解析：" ++ error)

/-- What one message means to whoever waits for a control frame; the data plane is skipped. -/
def nextControlFrame : SocketMessage → Option (Except SessionEnd ControlFrame)
  | .text decoded => some (decodeControl decoded)
  | .close frame => some (.error (closeReason frame))
  | .other => none

def awaitWelcome : Except SessionEnd ControlFrame → Except SessionEnd Welcome
  | .error ending => .error ending
  | .ok (.welcome deviceId relayId addresses chain) => .ok ⟨deviceId, relayId, addresses, chain⟩
  | .ok (.authFailed reason) => .error (.refused reason)
  | .ok (.revoked reason) => .error (.revoked reason)
  | .ok _ => .error (.interrupted UNEXPECTED_HANDSHAKE)

/-- Why a control frame ends the session, if it does. -/
def handleControl : Except String ControlFrame → Option SessionEnd
  | .error _ => none
  | .ok (.revoked reason) => some (.revoked reason)
  | .ok (.authFailed reason) => some (.refused reason)
  | .ok _ => none

def handleMessage : SocketMessage → Option SessionEnd
  | .text decoded => handleControl decoded
  | .close frame => some (closeReason frame)
  | .other => none

inductive LinkStage where
  | dialing
  | awaitingWelcome
  | pumping (welcome : Welcome)
  | ended (outcome : SessionOutcome)
deriving DecidableEq

/-- What goes wrong on the link's own side or on the network. -/
inductive LinkFailure where
  | request (reason : String)
  | connect (error : String)
  | welcomeTimeout
  | socketClosed
  | read (error : String)
  | sendControl (error : String)
  | idle
  | multiplexerClosed
  | sendData (error : String)
  | registryClosed
deriving DecidableEq, Repr

namespace LinkFailure

def ending : LinkFailure → SessionEnd
  | request reason => .interrupted reason
  | connect error => connectFailure ⟨none, error⟩
  | welcomeTimeout => .interrupted WELCOME_TIMEOUT
  | socketClosed => .interrupted SOCKET_CLOSED
  | read error => .interrupted ("上游隧道读取失败：" ++ error)
  | sendControl error => .interrupted ("无法向上游中继发送控制帧：" ++ error)
  | idle => .interrupted IDLE_MESSAGE
  | multiplexerClosed => .interrupted MULTIPLEXER_CLOSED
  | sendData error => .interrupted ("无法向上游中继发送数据：" ++ error)
  | registryClosed => .interrupted REGISTRY_CLOSED

/-- How the session ends when the failure meets it at this stage, if it can. -/
def outcome (failure : LinkFailure) : LinkStage → Option SessionOutcome
  | .dialing =>
      match failure with
      | request _ => some (.failed failure.ending)
      | connect _ => some (.failed failure.ending)
      | _ => none
  | .awaitingWelcome =>
      match failure with
      | welcomeTimeout => some (.failed failure.ending)
      | socketClosed => some (.failed failure.ending)
      | read _ => some (.failed failure.ending)
      | sendControl _ => some (.failed failure.ending)
      | _ => none
  | .pumping _ =>
      match failure with
      | request _ => none
      | connect _ => none
      | welcomeTimeout => none
      | _ => some ⟨true, failure.ending⟩
  | .ended _ => none

end LinkFailure

structure LinkIdentity where
  relayId : String
  publicHost : String
  version : String
  protocolVersion : Nat
deriving DecidableEq, Repr

def LinkIdentity.helloFrame (link : LinkIdentity) : ControlFrame :=
  .hello link.protocolVersion .relay link.version link.publicHost (some link.relayId)

inductive UpstreamStage where
  | upgrading (ip : String) (check : CredentialCheck)
  | upgraded (peer : Peer)
  | serving (peer : Peer)
  | closed
deriving DecidableEq

/-- What the upstream sends on a tunnel it serves, other than a revocation. -/
inductive Served where
  | data
  | ping
  | pong
  | addresses (current : List RelayAddress)
  /-- The tunnel was displaced, disconnected by an operator, or has ended. -/
  | goingAway (reason : String)
  /-- The writer has ended without a close of its own. -/
  | closed
deriving DecidableEq

namespace Served

def message : Served → SocketMessage
  | data => .other
  | ping => .text (.ok .ping)
  | pong => .text (.ok .pong)
  | addresses current => .text (.ok (.addresses current))
  | goingAway reason => .close (some (some .goingAway, reason))
  | closed => .close none

def ends : Served → Bool
  | goingAway _ => true
  | closed => true
  | _ => false

end Served

/-- One attempt: both ends, and what is on its way between them. -/
structure Dial where
  /-- What the upstream's endpoints share. -/
  doors : Doors
  upstream : UpstreamStage
  hello : Option ControlFrame
  inbound : List SocketMessage
  link : LinkStage
deriving DecidableEq

inductive DialLabel where
  | others (doors : Doors)
  | upgrade (choice : TaskChoice)
  /-- The link reads the answer to its request; `display` is the client's text for a refusal. -/
  | answer (display : String)
  /-- `accept_hello`: the `hello` is read, or `HELLO_TIMEOUT` passes without it. -/
  | acceptHello (arrived : Bool) (addresses : List RelayAddress) (chain : List String)
  | serve (served : Served)
  /-- An operator's revocation of `deviceId`, routed to this tunnel: the frame, or the close. -/
  | revoke (deviceId : String) (closes : Bool)
  | receive
  | fail (failure : LinkFailure)
deriving DecidableEq

namespace Dial

def init (doors : Doors) (ip : String) (credential : DeviceCredential) : Dial :=
  ⟨doors, .upgrading ip (.arriving ip (.tunnel (some credential))), none, [], .dialing⟩

def send (dial : Dial) (messages : List SocketMessage) (upstream : UpstreamStage) : Dial :=
  { dial with upstream, inbound := dial.inbound ++ messages }

/-- Refuses a tunnel after the upgrade: with a frame and close code 4401. -/
def reject (dial : Dial) (reason : String) : Dial :=
  dial.send [.text (.ok (.authFailed reason)), .close (some (some .unauthorized, ""))] .closed

def receive (relayId : String) (message : SocketMessage) : LinkStage → Option LinkStage
  | .dialing => none
  | .awaitingWelcome =>
      match nextControlFrame message with
      | none => some .awaitingWelcome
      | some read =>
          match awaitWelcome read with
          | .error ending => some (.ended (.failed ending))
          | .ok welcome =>
              some (if refuseLoop relayId welcome then .ended (.failed (.looped LOOP_DETECTED))
                else .pumping welcome)
  | .pumping welcome =>
      match handleMessage message with
      | none => some (.pumping welcome)
      | some ending => some (.ended ⟨true, ending⟩)
  | .ended _ => none

def step (config : RelayConfig) (throttle : FailureThrottle) (link : LinkIdentity) (dial : Dial) :
    DialLabel → Option Dial
  | .others doors => some { dial with doors }
  | .upgrade choice =>
      match dial.upstream with
      | .upgrading ip check =>
          match check.step config throttle dial.doors choice with
          | none => none
          | some (doors, check) => some { dial with doors, upstream := .upgrading ip check }
      | _ => none
  | .answer display =>
      match dial.link, dial.upstream with
      | .dialing, .upgrading _ (.answered (.error error)) =>
          some { dial with
            upstream := .closed
            link := .ended (.failed (connectFailure ⟨some error.status, display⟩)) }
      | .dialing, .upgrading ip (.answered (.ok (.authenticated (some credential) device))) =>
          some { dial with
            upstream := .upgraded ⟨credential, device, ip⟩
            hello := some link.helloFrame
            link := .awaitingWelcome }
      | _, _ => none
  | .acceptHello arrived addresses chain =>
      match dial.upstream, arrived, dial.hello with
      | .upgraded peer, true, some frame =>
          let dial := { dial with hello := none }
          match acceptHello config.protocolVersion peer.device (.frame frame) with
          | .error reason => some (dial.reject reason)
          | .ok _ =>
              some (dial.send [.text (.ok (.welcome peer.device.id config.relayId addresses chain))]
                (.serving peer))
      | .upgraded _, false, _ => some (dial.reject REASON_PROTOCOL)
      | _, _, _ => none
  | .serve served =>
      match dial.upstream with
      | .serving peer =>
          some (dial.send [served.message] (if served.ends then .closed else .serving peer))
      | _ => none
  | .revoke deviceId closes =>
      match dial.upstream with
      | .serving peer =>
          if (dial.doors.relay.database.devices.find deviceId).any DeviceRecord.isRevoked then
            some (if closes then
                dial.send [.close (some (some .revoked, REVOKED_REASON))] .closed
              else dial.send [.text (.ok (.revoked REVOKED_REASON))] (.serving peer))
          else none
      | _ => none
  | .receive =>
      match dial.inbound with
      | [] => none
      | message :: inbound =>
          match receive link.relayId message dial.link with
          | none => none
          | some stage => some { dial with inbound, link := stage }
  | .fail failure =>
      match failure.outcome dial.link with
      | none => none
      | some outcome => some { dial with link := .ended outcome }

/-- The upstream holds the row the credential is for, unrevoked, with its secret and kind. -/
def Held (config : RelayConfig) (credential : DeviceCredential) (doors : Doors) : Prop :=
  ∃ device, doors.relay.database.devices.find credential.deviceId = some device ∧
    device.isRevoked = false ∧
    config.secretMatchesHash credential.secret device.secretHash = true ∧ device.kind = .relay

/-- The attempt is left to the credential: its address is not locked when the table is read, the
lookup of the device does not fail, the `hello` is read in time, and no operator's revocation of
another device is sent down this tunnel. -/
def undisturbed (throttle : FailureThrottle) (credential : DeviceCredential) (dial : Dial) :
    DialLabel → Bool
  | .upgrade choice =>
      match dial.upstream with
      | .upgrading _ (.arriving source _) =>
          !throttle.isLocked dial.doors.calls source dial.doors.now
      | .upgrading _ (.comparing _ _) => choice.fault.isNone
      | _ => true
  | .acceptHello arrived _ _ => arrived
  | .revoke deviceId _ => decide (deviceId = credential.deviceId)
  | _ => true

/-- There will be another attempt, or the chain is circular. -/
def Goes (outcome : SessionOutcome) : Prop :=
  nextStep outcome = .retry ∨ nextStep outcome = .looped

instance (outcome : SessionOutcome) : Decidable (Goes outcome) :=
  inferInstanceAs (Decidable (_ ∨ _))

/-- The check of a credential whose row is held, while nothing disturbs it. -/
def Admits (credential : DeviceCredential) : CredentialCheck → Prop
  | .arriving _ presented => presented = .tunnel (some credential)
  | .comparing _ presented => presented = .tunnel (some credential)
  | .clearing _ accepted =>
      ∃ device, accepted = .authenticated (some credential) device ∧ device.kind = .relay
  | .answered outcome =>
      ∃ device, outcome = .ok (.authenticated (some credential) device) ∧ device.kind = .relay
  | _ => False

/-- A message after which the link goes on or makes another attempt. -/
def Harmless : SocketMessage → Prop
  | .text decoded => ∀ frame, decoded = .ok frame →
      (∀ reason, frame ≠ .authFailed reason) ∧ ∀ reason, frame ≠ .revoked reason
  | .close frame => ∃ reason, closeReason frame = .interrupted reason
  | .other => True

/-- Nothing that gives the link up has happened or is on its way. -/
structure Inv (config : RelayConfig) (link : LinkIdentity) (credential : DeviceCredential)
    (dial : Dial) : Prop where
  held : Held config credential dial.doors
  upgrading : ∀ ip check, dial.upstream = .upgrading ip check → Admits credential check
  upgraded : ∀ peer, dial.upstream = .upgraded peer → peer.device.kind = .relay
  hello : ∀ frame, dial.hello = some frame → frame = link.helloFrame
  inbound : ∀ message ∈ dial.inbound, Harmless message
  ended : ∀ outcome, dial.link = .ended outcome → Goes outcome

section Steps

variable {config : RelayConfig} {throttle : FailureThrottle} {link : LinkIdentity}
  {credential : DeviceCredential} {doors doors' : Doors} {dial dial' : Dial}
  {check check' : CredentialCheck} {choice : TaskChoice}

theorem authenticate_of_held (h : Held config credential doors) :
    ∃ device, authenticate config doors.relay.database none (some credential) = .ok device ∧
      device.kind = .relay := by
  obtain ⟨device, hfind, hrevoked, hsecret, hkind⟩ := h
  have hfound : doors.relay.database.findDevice none credential.deviceId = .ok (some device) :=
    Fault.guard_eq_ok.mpr ⟨rfl, by rw [hfind]⟩
  refine ⟨device, ?_, hkind⟩
  simp [authenticate, hfound, hrevoked, hsecret]

theorem Admits.step (hheld : Held config credential doors) {ip : String}
    (hcheck : Admits credential check) (hdoors : dial.doors = doors)
    (hupstream : dial.upstream = .upgrading ip check)
    (hok : undisturbed throttle credential dial (.upgrade choice) = true)
    (hstep : check.step config throttle doors choice = some (doors', check')) :
    Admits credential check' ∧ doors'.relay = doors.relay := by
  subst hdoors
  rw [undisturbed, hupstream] at hok
  cases check with
  | arriving source presented =>
      obtain rfl : presented = .tunnel (some credential) := hcheck
      have hunlocked : throttle.isLocked dial.doors.calls source dial.doors.now = false :=
        (Bool.not_eq_true' _).mp hok
      simp only [CredentialCheck.step, Presented.throttled, hunlocked, Bool.and_false,
        Bool.false_eq_true, if_false] at hstep
      cases hstep
      exact ⟨rfl, rfl⟩
  | comparing source presented =>
      obtain rfl : presented = .tunnel (some credential) := hcheck
      obtain ⟨device, hauth, hkind⟩ := authenticate_of_held hheld
      simp only [CredentialCheck.step, CredentialCheck.compare, Option.isNone_iff_eq_none.mp hok,
        hauth] at hstep
      cases hstep
      exact ⟨⟨device, rfl, hkind⟩, rfl⟩
  | enrolling source request => cases hcheck
  | recording source error => cases hcheck
  | clearing source accepted =>
      obtain ⟨device, rfl, hkind⟩ := hcheck
      cases hstep
      exact ⟨⟨device, rfl, hkind⟩, rfl⟩
  | answered outcome => cases hstep

theorem Harmless.awaitWelcome {message : SocketMessage} {read : Except SessionEnd ControlFrame}
    {ending : SessionEnd} (hharmless : Harmless message)
    (hread : nextControlFrame message = some read)
    (h : awaitWelcome read = .error ending) : ∃ reason, ending = .interrupted reason := by
  cases message with
  | text decoded =>
      cases hread
      cases decoded with
      | error error =>
          cases h
          exact ⟨_, rfl⟩
      | ok frame =>
          obtain ⟨hfailed, hrevoked⟩ := hharmless frame rfl
          cases frame with
          | welcome deviceId relayId addresses chain => cases h
          | authFailed reason => exact absurd rfl (hfailed reason)
          | revoked reason => exact absurd rfl (hrevoked reason)
          | _ =>
              cases h
              exact ⟨_, rfl⟩
  | close frame =>
      obtain ⟨reason, hreason⟩ := hharmless
      cases hread
      cases h
      exact ⟨reason, hreason⟩
  | other => cases hread

theorem Harmless.handleMessage {message : SocketMessage} {ending : SessionEnd}
    (hharmless : Harmless message) (h : handleMessage message = some ending) :
    ∃ reason, ending = .interrupted reason := by
  cases message with
  | text decoded =>
      cases decoded with
      | error error => cases h
      | ok frame =>
          obtain ⟨hfailed, hrevoked⟩ := hharmless frame rfl
          cases frame with
          | authFailed reason => exact absurd rfl (hfailed reason)
          | revoked reason => exact absurd rfl (hrevoked reason)
          | _ => cases h
  | close frame =>
      obtain ⟨reason, hreason⟩ := hharmless
      cases h
      exact ⟨reason, hreason⟩
  | other => cases h

theorem goes_interrupted {connected : Bool} {ending : SessionEnd}
    (h : ∃ reason, ending = .interrupted reason) : Goes ⟨connected, ending⟩ := by
  obtain ⟨reason, rfl⟩ := h
  exact .inl rfl

theorem Harmless.goes {relayId : String} {message : SocketMessage} {stage : LinkStage}
    {outcome : SessionOutcome} (hharmless : Harmless message)
    (h : receive relayId message stage = some (.ended outcome)) : Goes outcome := by
  cases stage with
  | dialing => cases h
  | awaitingWelcome =>
      simp only [receive] at h
      split at h
      · cases h
      · next read hread =>
          split at h
          · next ending hending =>
              cases h
              exact goes_interrupted (hharmless.awaitWelcome hread hending)
          · rw [Option.some.injEq] at h
            split at h
            · cases h
              exact .inr rfl
            · cases h
  | pumping welcome =>
      simp only [receive] at h
      split at h
      · cases h
      · next ending hending =>
          cases h
          exact goes_interrupted (hharmless.handleMessage hending)
  | ended outcome => cases h

theorem goes_failure {failure : LinkFailure} {stage : LinkStage} {outcome : SessionOutcome}
    (h : failure.outcome stage = some outcome) : Goes outcome := by
  have hinterrupted : ∃ reason, failure.ending = .interrupted reason := by
    cases failure <;> exact ⟨_, rfl⟩
  have hending : outcome.ending = failure.ending := by
    cases stage <;> cases failure <;> cases h <;> rfl
  obtain ⟨connected, ending⟩ := outcome
  subst hending
  exact goes_interrupted hinterrupted

theorem harmless_text {frame : ControlFrame} (hfailed : ∀ reason, frame ≠ .authFailed reason)
    (hrevoked : ∀ reason, frame ≠ .revoked reason) : Harmless (.text (.ok frame)) := by
  intro other hother
  cases hother
  exact ⟨hfailed, hrevoked⟩

theorem harmless_served (served : Served) : Harmless served.message := by
  cases served with
  | data => trivial
  | goingAway reason => exact ⟨_, rfl⟩
  | closed => exact ⟨_, rfl⟩
  | ping | pong | addresses current =>
      exact harmless_text (fun _ => ControlFrame.noConfusion) fun _ => ControlFrame.noConfusion

theorem Inv.send (h : Inv config link credential dial) {messages : List SocketMessage}
    {upstream : UpstreamStage} (hmessages : ∀ message ∈ messages, Harmless message)
    (hupstream : upstream = .closed ∨ ∃ peer, upstream = .serving peer) :
    Inv config link credential (dial.send messages upstream) where
  held := h.held
  upgrading ip check hcheck := by
    rcases hupstream with rfl | ⟨peer, rfl⟩ <;> cases hcheck
  upgraded peer hpeer := by
    rcases hupstream with rfl | ⟨peer, rfl⟩ <;> cases hpeer
  hello := h.hello
  inbound message hmessage := (List.mem_append.mp hmessage).elim (h.inbound message)
    (hmessages message)
  ended := h.ended

theorem Inv.upgrade (h : Inv config link credential dial)
    (hok : undisturbed throttle credential dial (.upgrade choice) = true)
    (hstep : dial.step config throttle link (.upgrade choice) = some dial') :
    Inv config link credential dial' := by
  simp only [Dial.step] at hstep
  split at hstep
  · next ip check hupstream =>
      split at hstep
      · cases hstep
      · next doors check' hcheck =>
          cases hstep
          obtain ⟨hadmits, hrelay⟩ :=
            (h.upgrading ip check hupstream).step h.held rfl hupstream hok hcheck
          refine { h with held := ?_, upgrading := ?_, upgraded := ?_ }
          · rw [Held, hrelay]
            exact h.held
          · intro _ _ hnext
            cases hnext
            exact hadmits
          · intro peer hpeer
            cases hpeer
  · cases hstep

theorem Inv.answer {display : String} (h : Inv config link credential dial)
    (hstep : dial.step config throttle link (.answer display) = some dial') :
    Inv config link credential dial' := by
  simp only [Dial.step] at hstep
  split at hstep
  · next error hlink hupstream =>
      obtain ⟨device, hdevice, -⟩ := h.upgrading _ _ hupstream
      cases hdevice
  · next ip presented device hlink hupstream =>
      cases hstep
      obtain ⟨row, hrow, hkind⟩ := h.upgrading _ _ hupstream
      cases hrow
      refine { h with upgrading := ?_, upgraded := ?_, hello := ?_, ended := ?_ }
      · intro _ _ hnext
        cases hnext
      · intro peer hpeer
        cases hpeer
        exact hkind
      · intro frame hframe
        cases hframe
        rfl
      · intro outcome houtcome
        cases houtcome
  · cases hstep

theorem Inv.acceptHello (hversion : link.protocolVersion = config.protocolVersion)
    {addresses : List RelayAddress} {chain : List String} (h : Inv config link credential dial)
    (hstep : dial.step config throttle link (.acceptHello true addresses chain) = some dial') :
    Inv config link credential dial' := by
  simp only [Dial.step] at hstep
  split at hstep
  · next peer frame hupstream harrived hhello =>
      have hframe := h.hello frame hhello
      have hkind := h.upgraded peer hupstream
      have haccepted : TermexoRelay.acceptHello config.protocolVersion peer.device (.frame frame) =
          .ok ⟨.relay, link.version, some link.relayId⟩ := by
        simp [hframe, LinkIdentity.helloFrame, TermexoRelay.acceptHello, hversion, hkind]
      rw [haccepted] at hstep
      cases hstep
      have hread : Inv config link credential { dial with hello := none } :=
        { h with hello := fun _ hnone => by cases hnone }
      refine hread.send (fun message hmessage => ?_) (.inr ⟨peer, rfl⟩)
      rw [List.mem_singleton.mp hmessage]
      exact harmless_text (fun _ => ControlFrame.noConfusion) fun _ => ControlFrame.noConfusion
  · next _ harrived => cases harrived
  · cases hstep

theorem Inv.receive (h : Inv config link credential dial)
    (hstep : dial.step config throttle link .receive = some dial') :
    Inv config link credential dial' := by
  simp only [Dial.step] at hstep
  split at hstep
  · cases hstep
  · next message inbound hinbound =>
      have hharmless : ∀ message' ∈ message :: inbound, Harmless message' := by
        rw [← hinbound]
        exact h.inbound
      split at hstep
      · cases hstep
      · next stage hreceive =>
          cases hstep
          refine { h with inbound := fun _ hmem => ?_, ended := fun outcome houtcome => ?_ }
          · exact hharmless _ (List.mem_cons_of_mem _ hmem)
          · obtain rfl : stage = .ended outcome := houtcome
            exact (hharmless _ List.mem_cons_self).goes hreceive

/-- One undisturbed step of either end, while the row is held. -/
theorem Inv.step (hversion : link.protocolVersion = config.protocolVersion) {label : DialLabel}
    (h : Inv config link credential dial) (hok : undisturbed throttle credential dial label = true)
    (hheld : ∀ doors, label = .others doors → Held config credential doors)
    (hstep : dial.step config throttle link label = some dial') :
    Inv config link credential dial' := by
  cases label with
  | others doors =>
      cases hstep
      exact { h with held := hheld doors rfl }
  | upgrade choice => exact h.upgrade hok hstep
  | answer display => exact h.answer hstep
  | acceptHello arrived addresses chain =>
      obtain rfl : arrived = true := hok
      exact h.acceptHello hversion hstep
  | serve served =>
      simp only [Dial.step] at hstep
      split at hstep
      · next peer hupstream =>
          cases hstep
          refine h.send (fun message hmessage => ?_) ?_
          · rw [List.mem_singleton.mp hmessage]
            exact harmless_served served
          · split
            · exact .inl rfl
            · exact .inr ⟨peer, rfl⟩
      · cases hstep
  | revoke deviceId closes =>
      obtain rfl : deviceId = credential.deviceId := of_decide_eq_true hok
      obtain ⟨device, hfind, hrevoked, -⟩ := h.held
      simp only [Dial.step, hfind, Option.any_some, hrevoked, Bool.false_eq_true, if_false] at hstep
      split at hstep <;> cases hstep
  | receive => exact h.receive hstep
  | fail failure =>
      simp only [Dial.step] at hstep
      split at hstep
      · cases hstep
      · next outcome hfailure =>
          cases hstep
          refine { h with ended := fun _ houtcome => ?_ }
          cases houtcome
          exact goes_failure hfailure

end Steps

theorem inv_init (link : LinkIdentity) {credential : DeviceCredential} {doors : Doors} (ip : String)
    (hheld : Held config credential doors) :
    Inv config link credential (init doors ip credential) where
  held := hheld
  upgrading _ _ hcheck := by
    cases hcheck
    rfl
  upgraded _ hpeer := by cases hpeer
  hello _ hframe := by cases hframe
  inbound _ hmessage := absurd hmessage List.not_mem_nil
  ended _ houtcome := by cases houtcome

/-- In every undisturbed run of an attempt, whatever else the upstream does while it holds the row:
once the attempt has ended it is made again, unless the chain is circular. -/
theorem held_credential_redials (config : RelayConfig) (throttle : FailureThrottle)
    (link : LinkIdentity) (hversion : link.protocolVersion = config.protocolVersion)
    (doors : Doors) (ip : String) (credential : DeviceCredential)
    (hheld : Held config credential doors) (labels : List DialLabel)
    (hothers : ∀ doors', .others doors' ∈ labels → Held config credential doors') (dial : Dial)
    (hrun : run (step config throttle link) (init doors ip credential) labels = some dial)
    (hok : Meets (step config throttle link)
      (fun dial label => undisturbed throttle credential dial label = true)
      (init doors ip credential) labels)
    (outcome : SessionOutcome) (hended : dial.link = .ended outcome) :
    nextStep outcome = .retry ∨ nextStep outcome = .looped := by
  have hmeets := hok.and_forall (q := fun label => ∀ doors', label = .others doors' →
    Held config credential doors') fun label hlabel doors' heq => hothers doors' (heq ▸ hlabel)
  have hinv : Inv config link credential dial :=
    run_invariant (fun _ _ _ h hok hstep => h.step hversion hok.1 hok.2 hstep)
      (inv_init link ip hheld) hmeets hrun
  exact hinv.ended outcome hended

def linkRow : DeviceRecord :=
  Database.newDevice ⟨"link-b", .relay, "relay-b", none, "secret", none⟩ 0

def doorsOf (rows : List DeviceRecord) (calls : ThrottleCalls) : Doors where
  relay :=
    { Relay.new with
      database := { Database.empty with
        devices := rows.foldl (fun devices row => (devices.insert row).getD devices) .empty } }
  calls := calls
  comparisons := []
  now := 0

def upstreamDoors : Doors := doorsOf [linkRow] []

def relayB : LinkIdentity := ⟨"relay-b", "relay-b.example.com", "1.0", 1⟩

def linkCredential : DeviceCredential := ⟨"link-b", "secret"⟩

def guessesElsewhere : DialLabel :=
  .others (doorsOf [linkRow] (List.replicate 5 (.mark "203.0.113.5" 0)))

def accept : List DialLabel := [.upgrade {}, .upgrade {}, .upgrade {}, .answer ""]

def establish : List DialLabel := accept ++ [.acceptHello true [] [], .receive]

def dropped : List DialLabel :=
  establish ++ [guessesElsewhere, .serve (.goingAway DISCONNECTED_REASON), .receive]

theorem held_upstreamDoors (calls : ThrottleCalls) (rows : List DeviceRecord)
    (hrows : (doorsOf rows calls).relay.database.devices.find "link-b" = some linkRow) :
    Held System.plainConfig linkCredential (doorsOf rows calls) :=
  ⟨linkRow, hrows, rfl, by decide, rfl⟩

theorem held_credential_redials_dropped :
    ∃ dial outcome, run (step System.plainConfig fiveFailures relayB)
        (init upstreamDoors "203.0.113.5" linkCredential) dropped = some dial ∧
      dial.link = .ended outcome ∧ (nextStep outcome = .retry ∨ nextStep outcome = .looped) := by
  obtain ⟨dial, hrun, hlink⟩ := exists_run (step System.plainConfig fiveFailures relayB)
    (init upstreamDoors "203.0.113.5" linkCredential) dropped
    (fun dial => dial.link =
      .ended ⟨true, .interrupted ("上游中继关闭了隧道：" ++ DISCONNECTED_REASON)⟩)
    (by decide)
  refine ⟨dial, _, hrun, hlink, held_credential_redials System.plainConfig fiveFailures relayB rfl
    upstreamDoors "203.0.113.5" linkCredential (held_upstreamDoors _ _ (by decide))
    dropped (fun doors hdoors => ?_) dial hrun (by decide) _ hlink⟩
  simp only [dropped, establish, accept, guessesElsewhere, List.cons_append, List.nil_append,
    List.mem_cons, List.not_mem_nil, reduceCtorEq, false_or, or_false, DialLabel.others.injEq]
    at hdoors
  subst hdoors
  exact held_upstreamDoors _ _ (by decide)

def lockedOut : List DialLabel := [guessesElsewhere, .upgrade {}, .answer ""]

def lookupFailed : List DialLabel :=
  [.upgrade {}, .upgrade { fault := some 0 }, .upgrade {}, .answer ""]

def helloMissed : List DialLabel := accept ++ [.acceptHello false [] [], .receive]

def deviceRevoked : List DialLabel :=
  establish ++
    [.others (doorsOf [linkRow, { linkRow with id := "device-a", revokedAt := some 0 }] []),
      .revoke "device-a" false, .receive]

def LinkStage.givenUp : LinkStage → Bool
  | .ended outcome => !decide (Goes outcome)
  | _ => false

/-- The upstream holds the row all along, and each of these gives the link up. -/
theorem held_credential_given_up :
    Held System.plainConfig linkCredential upstreamDoors ∧
      ∀ labels ∈ [lockedOut, lookupFailed, helloMissed, deviceRevoked],
        (∀ doors, .others doors ∈ labels → Held System.plainConfig linkCredential doors) ∧
        ¬ ∀ dial outcome, run (step System.plainConfig fiveFailures relayB)
              (init upstreamDoors "203.0.113.5" linkCredential) labels = some dial →
            dial.link = .ended outcome →
          nextStep outcome = .retry ∨ nextStep outcome = .looped := by
  have hgivenUp : ∀ labels, (run (step System.plainConfig fiveFailures relayB)
      (init upstreamDoors "203.0.113.5" linkCredential) labels).any
        (fun dial => decide (LinkStage.givenUp dial.link = true)) = true →
      ¬ ∀ dial outcome, run (step System.plainConfig fiveFailures relayB)
            (init upstreamDoors "203.0.113.5" linkCredential) labels = some dial →
          dial.link = .ended outcome → Goes outcome := by
    intro labels hany hgoes
    obtain ⟨dial, hrun, hlost⟩ := exists_run _ _ labels _ hany
    cases hlink : dial.link with
    | ended outcome =>
        rw [hlink, LinkStage.givenUp, decide_eq_true (hgoes dial outcome hrun hlink)] at hlost
        cases hlost
    | _ =>
        rw [hlink] at hlost
        cases hlost
  refine ⟨held_upstreamDoors _ _ (by decide), fun labels hlabels => ?_⟩
  simp only [List.mem_cons, List.not_mem_nil, or_false] at hlabels
  rcases hlabels with rfl | rfl | rfl | rfl
  · refine ⟨fun doors hdoors => ?_, hgivenUp _ (by decide)⟩
    simp only [lockedOut, guessesElsewhere, List.mem_cons, List.not_mem_nil, reduceCtorEq,
      or_false, DialLabel.others.injEq] at hdoors
    subst hdoors
    exact held_upstreamDoors _ _ (by decide)
  · refine ⟨fun doors hdoors => ?_, hgivenUp _ (by decide)⟩
    simp [lookupFailed] at hdoors
  · refine ⟨fun doors hdoors => ?_, hgivenUp _ (by decide)⟩
    simp [helloMissed, accept] at hdoors
  · refine ⟨fun doors hdoors => ?_, hgivenUp _ (by decide)⟩
    simp only [deviceRevoked, establish, accept, List.cons_append, List.nil_append, List.mem_cons,
      List.not_mem_nil, reduceCtorEq, false_or, or_false, DialLabel.others.injEq] at hdoors
    subst hdoors
    exact held_upstreamDoors _ _ (by decide)

end Dial

end TermexoRelay
