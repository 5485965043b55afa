import TermexoRelay.Relay.State
import TermexoRelay.Database.Standing

/-!
# One tunnel session, action by action

`upgrade` authenticates the credential, `accept_hello` checks the first frame, and `run` registers
the tunnel, reads frames until the socket or the writer ends, and deregisters it under the serial it
was registered with. Between two actions any other task may act.
-/

namespace TermexoRelay

def REASON_REPLACED : String := "设备已在别处重新接入。"
def REASON_PROTOCOL : String := "未收到有效的 hello 帧。"
def REASON_VERSION_MISMATCH : String := "隧道协议版本不匹配。"
def REASON_KIND_MISMATCH : String := "设备类型与中继记录不一致。"
def REASON_CLOSING : String := "中继正在关闭这条隧道。"

/-- Why a credential is refused is only written to the audit trail. -/
inductive RejectionReason where
  | malformedCredential
  | lookupFailed
  | unknownDevice
  | revoked
  | secretMismatch
deriving DecidableEq, Repr

def authenticate (config : RelayConfig) (db : Database) (fault : Fault)
    (credential : Option DeviceCredential) : Except RejectionReason DeviceRecord :=
  match credential with
  | none => .error .malformedCredential
  | some credential =>
      match db.findDevice fault credential.deviceId with
      | .error _ => .error .lookupFailed
      | .ok none => .error .unknownDevice
      | .ok (some device) =>
          if device.isRevoked then .error .revoked
          else if config.secretMatchesHash credential.secret device.secretHash then .ok device
          else .error .secretMismatch

theorem authenticate_eq_ok {config : RelayConfig} {db : Database} {fault : Fault}
    {credential : Option DeviceCredential} {device : DeviceRecord}
    (h : authenticate config db fault credential = .ok device) :
    ∃ presented, credential = some presented ∧ db.devices.find presented.deviceId = some device ∧
      device.isRevoked = false ∧
      config.secretMatchesHash presented.secret device.secretHash = true := by
  unfold authenticate at h
  cases credential with
  | none => cases h
  | some presented =>
      simp only at h
      split at h
      · cases h
      · cases h
      · next row hfind =>
          obtain ⟨-, hrow⟩ := Fault.guard_eq_ok.mp hfind
          split at h
          · cases h
          · next hrevoked =>
              split at h
              · next hmatches =>
                  cases h
                  exact ⟨presented, rfl, Except.ok.inj hrow, by simpa using hrevoked, hmatches⟩
              · cases h

/-- What an accepted `hello` told the relay. -/
structure Hello where
  kind : DeviceKind
  version : String
  relayId : Option String
deriving DecidableEq, Repr

/-- The check of the first frame; the error is the reason the tunnel is refused with. -/
def acceptHello (protocolVersion : Nat) (device : DeviceRecord) : Received → Except String Hello
  | .frame (.hello protocol kind version _ relayId) =>
      if protocol ≠ protocolVersion then .error REASON_VERSION_MISMATCH
      else if kind ≠ device.kind then .error REASON_KIND_MISMATCH
      else .ok ⟨kind, version, relayId⟩
  | _ => .error REASON_PROTOCOL

/-- Who is at the other end: the row `authenticate` returned, for the credential it was given. -/
structure Peer where
  credential : DeviceCredential
  device : DeviceRecord
  ip : String
deriving DecidableEq, Repr

/-- An accepted tunnel. -/
structure Tunnel where
  peer : Peer
  hello : Hello
  handle : TunnelHandle
deriving DecidableEq, Repr

namespace Tunnel

def deviceId (tunnel : Tunnel) : String := tunnel.peer.device.id

def presence (tunnel : Tunnel) : DirectPresence where
  deviceId := tunnel.peer.device.id
  name := tunnel.peer.device.name
  kind := tunnel.hello.kind
  relayId := tunnel.hello.relayId
  ip := some tunnel.peer.ip
  version := some tunnel.hello.version
  handle := tunnel.handle

end Tunnel

/-- Whether the tunnel's snapshot has reached the table. The source has no such mark: it records
which frames the session has already handled. -/
inductive Snapshot where
  | awaited
  | applying
  | applied
deriving DecidableEq, Repr

inductive Session where
  /-- `tunnel` is what the session had been accepted as, if it was. -/
  | ended (tunnel : Option Tunnel)
  /-- `upgrade`: the credential of the request is checked next. -/
  | arriving (credential : Option DeviceCredential) (ip : String)
  /-- `accept_hello` is next. -/
  | upgraded (peer : Peer)
  /-- `Registry::connect` is next: first the number, then the table. -/
  | accepted (tunnel : Tunnel)
  | numbered (tunnel : Tunnel) (serial : Nat)
  /-- The displaced tunnel is closed next. -/
  | displacing (tunnel : Tunnel) (serial : Nat) (previous : TunnelHandle)
  | recording (tunnel : Tunnel) (serial : Nat)
  /-- `read_frames`, with what is left of the frame being handled. -/
  | reading (tunnel : Tunnel) (serial : Nat) (job : Job) (snapshot : Snapshot)
  /-- The session's own close is next, then it waits for the writer. -/
  | closing (tunnel : Tunnel) (serial : Nat) (snapshot : Snapshot)
  | draining (tunnel : Tunnel) (serial : Nat) (snapshot : Snapshot)
  /-- `Registry::disconnect` is next. -/
  | leaving (tunnel : Tunnel) (serial : Nat) (snapshot : Snapshot)
  | disconnected (tunnel : Tunnel)
deriving DecidableEq

/-- The registry operation one control frame asks for. Only a downstream relay may speak for other
devices; every other frame leaves the registry alone. -/
def controlFrameJob (handle : TunnelHandle) (kind : DeviceKind) : ControlFrame → Job
  | .announce devices =>
      if kind = .relay then .apply handle.deviceId handle devices else .finished
  | .deviceOnline id name via =>
      if kind = .relay then .announce handle.deviceId handle ⟨id, name, true, via⟩ none
      else .finished
  | .deviceOffline id =>
      if kind = .relay then .withdraw handle.deviceId id [] else .finished
  | _ => .finished

/-- How a frame moves the snapshot mark. -/
def Snapshot.receive (snapshot : Snapshot) : Job → Snapshot
  | .apply _ _ _ => if snapshot = .awaited then .applying else snapshot
  | _ => snapshot

/-- How the end of a frame's handling moves it. -/
def Snapshot.settle (snapshot : Snapshot) (job : Job) : Snapshot :=
  if snapshot = .applying ∧ job = .finished then .applied else snapshot

/-- A ping is answered on the tunnel itself. -/
def answerPing (handle : TunnelHandle) (frame : ControlFrame) (relay : Relay) : Relay :=
  if frame = .ping then relay.sendFrame handle .pong else relay

namespace Session

def starts : Session → Bool
  | .arriving _ _ => true
  | _ => false

def step (config : RelayConfig) (relay : Relay) (choice : TaskChoice) :
    Session → Option (Relay × Session)
  | .ended _ => none
  | .arriving credential ip =>
      match authenticate config relay.database choice.fault credential, credential with
      | .ok device, some credential => some (relay, .upgraded ⟨credential, device, ip⟩)
      | _, _ => some (relay, .ended none)
  | .upgraded peer =>
      match acceptHello config.protocolVersion peer.device choice.received with
      | .ok hello =>
          let handle : TunnelHandle := ⟨peer.device.id, relay.channels.length⟩
          some ({ relay with channels := relay.channels ++ [Channel.new] },
            .accepted ⟨peer, hello, handle⟩)
      | .error _ => some (relay, .ended none)
  | .accepted tunnel =>
      let serial := relay.registry.sequence
      some ({ relay with registry := { relay.registry with sequence := serial + 1 } },
        .numbered tunnel serial)
  | .numbered tunnel serial =>
      let locked :=
        relay.registry.state.connectLocked config.relayId tunnel.presence serial choice.now
      some ({ relay with registry := { relay.registry with state := locked.1 } },
        match locked.2.1 with
        | some previous => .displacing tunnel serial previous
        | none => .recording tunnel serial)
  | .displacing tunnel serial previous =>
      some (relay.close previous .goingAway REASON_REPLACED, .recording tunnel serial)
  | .recording tunnel serial =>
      let recorded := relay.database.recordDeviceConnection choice.fault tunnel.deviceId
        tunnel.peer.ip tunnel.hello.version choice.now
      some ({ relay with database := recorded.toOption.getD relay.database },
        .reading tunnel serial .finished .awaited)
  | .reading tunnel serial .finished snapshot =>
      match choice.received with
      | .frame frame =>
          let job := controlFrameJob tunnel.handle tunnel.hello.kind frame
          some (answerPing tunnel.handle frame relay,
            .reading tunnel serial job (snapshot.receive job))
      | .other => some (relay, .reading tunnel serial .finished snapshot)
      | .ended => some (relay, .closing tunnel serial snapshot)
  | .reading tunnel serial job snapshot =>
      match job.step config.relayId config.maxHops relay.registry ⟨choice.now, choice.order⟩ with
      | some (registry, job, _) =>
          some ({ relay with registry }, .reading tunnel serial job (snapshot.settle job))
      | none => none
  | .closing tunnel serial snapshot =>
      some (relay.close tunnel.handle .goingAway REASON_CLOSING, .draining tunnel serial snapshot)
  | .draining tunnel serial snapshot =>
      match relay.channels[tunnel.handle.channel]? with
      | some channel =>
          if channel.writing then none else some (relay, .leaving tunnel serial snapshot)
      | none => none
  | .leaving tunnel serial _ =>
      match (Job.disconnect tunnel.deviceId serial).step config.relayId config.maxHops
          relay.registry ⟨choice.now, choice.order⟩ with
      | some (registry, _, _) => some ({ relay with registry }, .disconnected tunnel)
      | none => none
  | .disconnected tunnel =>
      let recorded := relay.database.recordDeviceDisconnection choice.fault tunnel.deviceId
        choice.now
      some ({ relay with database := recorded.toOption.getD relay.database },
        .ended (some tunnel))

end Session

/-- The actions of a session, one rule for each: the relay before, the session, and what they
become. -/
inductive SessionStep (config : RelayConfig) (choice : TaskChoice) (relay : Relay) :
    Session → Relay → Session → Prop
  | refused {credential : Option DeviceCredential} {ip : String} :
      SessionStep config choice relay (.arriving credential ip) relay (.ended none)
  | authenticated {credential : DeviceCredential} {device : DeviceRecord} {ip : String}
      (h : authenticate config relay.database choice.fault (some credential) = .ok device) :
      SessionStep config choice relay (.arriving (some credential) ip) relay
        (.upgraded ⟨credential, device, ip⟩)
  | rejected {peer : Peer} :
      SessionStep config choice relay (.upgraded peer) relay (.ended none)
  | accepted {peer : Peer} {hello : Hello}
      (h : acceptHello config.protocolVersion peer.device choice.received = .ok hello) :
      SessionStep config choice relay (.upgraded peer)
        { relay with channels := relay.channels ++ [Channel.new] }
        (.accepted ⟨peer, hello, ⟨peer.device.id, relay.channels.length⟩⟩)
  | numbered {tunnel : Tunnel} :
      SessionStep config choice relay (.accepted tunnel)
        { relay with
          registry := { relay.registry with sequence := relay.registry.sequence + 1 } }
        (.numbered tunnel relay.registry.sequence)
  | connected {tunnel : Tunnel} {serial : Nat} {session : Session}
      (h : session = .recording tunnel serial ∨ ∃ previous,
        (relay.registry.state.connectLocked config.relayId tunnel.presence serial choice.now).2.1 =
          some previous ∧ session = .displacing tunnel serial previous) :
      SessionStep config choice relay (.numbered tunnel serial)
        { relay with
          registry := { relay.registry with
            state := (relay.registry.state.connectLocked config.relayId tunnel.presence serial
              choice.now).1 } }
        session
  | displaced {tunnel : Tunnel} {serial : Nat} {previous : TunnelHandle} :
      SessionStep config choice relay (.displacing tunnel serial previous)
        (relay.close previous .goingAway REASON_REPLACED) (.recording tunnel serial)
  | recorded {tunnel : Tunnel} {serial : Nat} {database : Database}
      (h : relay.database.Keeps database) :
      SessionStep config choice relay (.recording tunnel serial) { relay with database }
        (.reading tunnel serial .finished .awaited)
  | received {tunnel : Tunnel} {serial : Nat} {snapshot : Snapshot} {frame : ControlFrame} :
      SessionStep config choice relay (.reading tunnel serial .finished snapshot)
        (answerPing tunnel.handle frame relay)
        (.reading tunnel serial (controlFrameJob tunnel.handle tunnel.hello.kind frame)
          (snapshot.receive (controlFrameJob tunnel.handle tunnel.hello.kind frame)))
  | skipped {tunnel : Tunnel} {serial : Nat} {snapshot : Snapshot} :
      SessionStep config choice relay (.reading tunnel serial .finished snapshot) relay
        (.reading tunnel serial .finished snapshot)
  | stopped {tunnel : Tunnel} {serial : Nat} {snapshot : Snapshot} :
      SessionStep config choice relay (.reading tunnel serial .finished snapshot) relay
        (.closing tunnel serial snapshot)
  | worked {tunnel : Tunnel} {serial : Nat} {job job' : Job} {snapshot : Snapshot}
      {registry : Registry} {changes : List RegistryChange} (hjob : job ≠ .finished)
      (h : job.step config.relayId config.maxHops relay.registry ⟨choice.now, choice.order⟩ =
        some (registry, job', changes)) :
      SessionStep config choice relay (.reading tunnel serial job snapshot) { relay with registry }
        (.reading tunnel serial job' (snapshot.settle job'))
  | closed {tunnel : Tunnel} {serial : Nat} {snapshot : Snapshot} :
      SessionStep config choice relay (.closing tunnel serial snapshot)
        (relay.close tunnel.handle .goingAway REASON_CLOSING) (.draining tunnel serial snapshot)
  | drained {tunnel : Tunnel} {serial : Nat} {snapshot : Snapshot} :
      SessionStep config choice relay (.draining tunnel serial snapshot) relay
        (.leaving tunnel serial snapshot)
  | left {tunnel : Tunnel} {serial : Nat} {snapshot : Snapshot} {registry : Registry} {job : Job}
      {changes : List RegistryChange}
      (h : (Job.disconnect tunnel.deviceId serial).step config.relayId config.maxHops
        relay.registry ⟨choice.now, choice.order⟩ = some (registry, job, changes)) :
      SessionStep config choice relay (.leaving tunnel serial snapshot) { relay with registry }
        (.disconnected tunnel)
  | gone {tunnel : Tunnel} {database : Database} (h : relay.database.Keeps database) :
      SessionStep config choice relay (.disconnected tunnel) { relay with database }
        (.ended (some tunnel))

theorem Database.keeps_getD {db : Database} {result : Except DatabaseError Database}
    (h : ∀ db', result = .ok db' → db.Keeps db') : db.Keeps (result.toOption.getD db) := by
  cases result with
  | error e => exact Database.Keeps.refl db
  | ok db' => exact h db' rfl

theorem Session.step_eq_some {config : RelayConfig} {choice : TaskChoice} {relay relay' : Relay}
    {session session' : Session}
    (h : session.step config relay choice = some (relay', session')) :
    SessionStep config choice relay session relay' session' := by
  cases session with
  | ended tunnel => cases h
  | arriving credential ip =>
      simp only [Session.step] at h
      split at h
      · next device presented hauth =>
          cases h
          exact .authenticated hauth
      · cases h
        exact .refused
  | upgraded peer =>
      simp only [Session.step] at h
      split at h
      · next hello hhello =>
          cases h
          exact .accepted hhello
      · cases h
        exact .rejected
  | accepted tunnel =>
      cases h
      exact .numbered
  | numbered tunnel serial =>
      simp only [Session.step, Option.some.injEq, Prod.mk.injEq] at h
      obtain ⟨rfl, hsession⟩ := h
      refine .connected ?_
      split at hsession
      · next previous hprevious => exact .inr ⟨previous, hprevious, hsession.symm⟩
      · exact .inl hsession.symm
  | displacing tunnel serial previous =>
      cases h
      exact .displaced
  | recording tunnel serial =>
      cases h
      exact .recorded (Database.keeps_getD fun _ => Database.keeps_recordDeviceConnection)
  | reading tunnel serial job snapshot =>
      by_cases hjob : job = .finished
      · subst hjob
        simp only [Session.step] at h
        split at h
        · cases h
          exact .received
        · cases h
          exact .skipped
        · cases h
          exact .stopped
      · have hstep : Session.step config relay choice (.reading tunnel serial job snapshot) =
            match job.step config.relayId config.maxHops relay.registry
              ⟨choice.now, choice.order⟩ with
            | some (registry, job, _) =>
                some ({ relay with registry },
                  Session.reading tunnel serial job (snapshot.settle job))
            | none => none := by
          cases job with
          | finished => exact absurd rfl hjob
          | _ => rfl
        rw [hstep] at h
        split at h
        · next hwork =>
            cases h
            exact .worked hjob hwork
        · cases h
  | closing tunnel serial snapshot =>
      cases h
      exact .closed
  | draining tunnel serial snapshot =>
      simp only [Session.step] at h
      split at h
      · split at h
        · cases h
        · cases h
          exact .drained
      · cases h
  | leaving tunnel serial snapshot =>
      simp only [Session.step] at h
      split at h
      · next hleft =>
          cases h
          exact .left hleft
      · cases h
  | disconnected tunnel =>
      cases h
      exact .gone (Database.keeps_getD fun _ => Database.keeps_recordDeviceDisconnection)

theorem Session.database_cases {config : RelayConfig} {choice : TaskChoice} {relay relay' : Relay}
    {session session' : Session}
    (h : session.step config relay choice = some (relay', session')) :
    relay'.database = relay.database ∨ ∃ deviceId f hf,
      (∀ device : DeviceRecord, (f device).name = device.name) ∧
        relay'.database = relay.database.setDevice deviceId f hf := by
  cases session with
  | recording tunnel serial =>
      cases h
      cases hrecorded : relay.database.recordDeviceConnection choice.fault tunnel.deviceId
        tunnel.peer.ip tunnel.hello.version choice.now with
      | error e => exact .inl rfl
      | ok database =>
          obtain ⟨-, hok⟩ := Fault.guard_eq_ok.mp hrecorded
          refine .inr ⟨_, _, _, ?_, (Except.ok.inj hok).symm⟩
          exact fun _ => rfl
  | disconnected tunnel =>
      cases h
      cases hrecorded : relay.database.recordDeviceDisconnection choice.fault tunnel.deviceId
        choice.now with
      | error e => exact .inl rfl
      | ok database =>
          obtain ⟨-, hok⟩ := Fault.guard_eq_ok.mp hrecorded
          refine .inr ⟨_, _, _, ?_, (Except.ok.inj hok).symm⟩
          exact fun _ => rfl
  | reading tunnel serial job snapshot =>
      left
      cases Session.step_eq_some h with
      | received =>
          unfold answerPing
          split <;> rfl
      | _ => rfl
  | _ =>
      left
      cases Session.step_eq_some h <;> rfl

end TermexoRelay
