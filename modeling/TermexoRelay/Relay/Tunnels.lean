import TermexoRelay.Registry.Links
import TermexoRelay.Relay.System

/-!
# What holds of the tunnels in every run

Whatever the order of the actions: a session beyond its authentication presented the secret of a row
that is still there, its channel and its serial are its own, the jobs it works on speak for its own
tunnel, and every registered direct tunnel is the one of a session that has not deregistered it yet.
-/

namespace TermexoRelay

open Transition

namespace Session

/-- Who the session authenticated, once it has. -/
def peer : Session → Option Peer
  | .ended tunnel => tunnel.map Tunnel.peer
  | .arriving _ _ => none
  | .upgraded peer => some peer
  | .accepted tunnel => some tunnel.peer
  | .numbered tunnel _ => some tunnel.peer
  | .displacing tunnel _ _ => some tunnel.peer
  | .recording tunnel _ => some tunnel.peer
  | .reading tunnel _ _ _ => some tunnel.peer
  | .closing tunnel _ _ => some tunnel.peer
  | .draining tunnel _ _ => some tunnel.peer
  | .leaving tunnel _ _ => some tunnel.peer
  | .disconnected tunnel => some tunnel.peer

def tunnel : Session → Option Tunnel
  | .ended tunnel => tunnel
  | .arriving _ _ => none
  | .upgraded _ => none
  | .accepted tunnel => some tunnel
  | .numbered tunnel _ => some tunnel
  | .displacing tunnel _ _ => some tunnel
  | .recording tunnel _ => some tunnel
  | .reading tunnel _ _ _ => some tunnel
  | .closing tunnel _ _ => some tunnel
  | .draining tunnel _ _ => some tunnel
  | .leaving tunnel _ _ => some tunnel
  | .disconnected tunnel => some tunnel

/-- The tunnel and the serial the session registered and has not deregistered yet. -/
def registration : Session → Option (Tunnel × Nat)
  | .displacing tunnel serial _ => some (tunnel, serial)
  | .recording tunnel serial => some (tunnel, serial)
  | .reading tunnel serial _ _ => some (tunnel, serial)
  | .closing tunnel serial _ => some (tunnel, serial)
  | .draining tunnel serial _ => some (tunnel, serial)
  | .leaving tunnel serial _ => some (tunnel, serial)
  | _ => none

def serial : Session → Option Nat
  | .numbered _ serial => some serial
  | session => session.registration.map Prod.snd

def snapshot : Session → Snapshot
  | .reading _ _ _ snapshot => snapshot
  | .closing _ _ snapshot => snapshot
  | .draining _ _ snapshot => snapshot
  | .leaving _ _ snapshot => snapshot
  | _ => .awaited

def job : Session → Job
  | .reading _ _ job _ => job
  | _ => .finished

theorem tunnel_of_registration {session : Session} {tunnel : Tunnel} {serial : Nat}
    (h : session.registration = some (tunnel, serial)) :
    session.tunnel = some tunnel ∧ session.serial = some serial := by
  cases session <;> cases h <;> exact ⟨rfl, rfl⟩

theorem peer_of_tunnel {session : Session} {tunnel : Tunnel} (h : session.tunnel = some tunnel) :
    session.peer = some tunnel.peer := by
  cases session <;> cases h <;> rfl

end Session

/-- What the relay never takes back: rows with their secrets and revocations, channels, numbers and
messages put on a channel. -/
structure Relay.Precedes (relay relay' : Relay) : Prop where
  standing : ∀ deviceId row, relay.database.standing deviceId = some row →
    ∃ row', relay'.database.standing deviceId = some row' ∧ row'.secretHash = row.secretHash ∧
      (row.revoked = true → row'.revoked = true)
  channels : relay.channels.length ≤ relay'.channels.length
  sequence : relay.registry.sequence ≤ relay'.registry.sequence
  given : ∀ channel message, relay.Given channel message → relay'.Given channel message

theorem Database.Keeps.standing_persists {db db' : Database} (h : db.Keeps db') {deviceId : String}
    {row : Standing} (hrow : db.standing deviceId = some row) :
    ∃ row', db'.standing deviceId = some row' ∧ row'.secretHash = row.secretHash ∧
      (row.revoked = true → row'.revoked = true) :=
  ⟨row, h.standing ▸ hrow, rfl, id⟩

section Precedes

variable {config : RelayConfig} {choice : TaskChoice} {relay relay' : Relay}

theorem Relay.Precedes.refl (relay : Relay) : relay.Precedes relay :=
  ⟨fun _ row h => ⟨row, h, rfl, id⟩, le_rfl, le_rfl, fun _ _ h => h⟩

theorem Relay.precedes_trySend (relay : Relay) (handle : TunnelHandle) (message : Outgoing) :
    relay.Precedes (relay.trySend handle message) :=
  ⟨fun _ row h => ⟨row, h, rfl, id⟩, (Relay.length_trySend _ _ _).ge, le_rfl,
    fun _ _ h => h.trySend⟩

theorem Relay.precedes_database {database : Database} (h : relay.database.Keeps database) :
    relay.Precedes { relay with database } :=
  ⟨fun _ _ hrow => h.standing_persists hrow, le_rfl, le_rfl, fun _ _ h => h⟩

theorem Relay.precedes_registry {registry : Registry}
    (h : relay.registry.sequence ≤ registry.sequence) : relay.Precedes { relay with registry } :=
  ⟨fun _ row hrow => ⟨row, hrow, rfl, id⟩, le_rfl, h, fun _ _ h => h⟩

theorem SessionStep.precedes {session session' : Session}
    (h : SessionStep config choice relay session relay' session') : relay.Precedes relay' := by
  cases h with
  | accepted _ =>
      refine ⟨fun _ row hrow => ⟨row, hrow, rfl, id⟩, ?_, le_rfl, ?_⟩
      · rw [List.length_append]
        exact Nat.le_add_right _ _
      · rintro channel message ⟨c, hc, hgiven⟩
        exact ⟨c, getElem?_append_of_some hc, hgiven⟩
  | numbered => exact Relay.precedes_registry (Nat.le_succ _)
  | connected _ => exact Relay.precedes_registry le_rfl
  | displaced => exact relay.precedes_trySend _ _
  | recorded h => exact Relay.precedes_database h
  | received =>
      unfold answerPing
      split
      · exact relay.precedes_trySend _ _
      · exact Relay.Precedes.refl relay
  | worked _ h => exact Relay.precedes_registry (Job.step_sequence_le h)
  | closed => exact relay.precedes_trySend _ _
  | left h => exact Relay.precedes_registry (Job.step_sequence_le h)
  | gone h => exact Relay.precedes_database h
  | _ => exact Relay.Precedes.refl relay

theorem RequestStep.precedes {request request' : Request}
    (h : RequestStep config choice relay request relay' request') : relay.Precedes relay' := by
  refine ⟨fun _ _ hrow => h.standing_persists hrow, ?_, ?_, fun _ _ hgiven => h.given hgiven⟩
  · rcases h.channels_cases with hsame | ⟨_, _, _, -, rfl⟩
    · rw [hsame]
    · exact (Relay.length_trySend _ _ _).ge
  · rw [h.registry_eq]

theorem Relay.precedes_channelStep {event : ChannelEvent}
    (h : relay.channelStep event = some relay') : relay.Precedes relay' := by
  obtain ⟨hdatabase, hregistry, hlength, hgiven⟩ := Relay.channelStep_eq_some h
  refine ⟨fun _ row hrow => ⟨row, hdatabase ▸ hrow, rfl, id⟩, hlength.ge, ?_, hgiven⟩
  rw [hregistry]

theorem System.StepCases.precedes {s s' : System} {label : SystemLabel}
    (h : System.StepCases config s label s') : s.shared.Precedes s'.shared := by
  cases h with
  | spawn _ => exact Relay.Precedes.refl _
  | session _ h => exact h.precedes
  | request _ h => exact h.precedes
  | channel h => exact Relay.precedes_channelStep h

end Precedes

/-- The session's credential is the one of a row that is still there. -/
structure Authenticated (config : RelayConfig) (db : Database) (peer : Peer) : Prop where
  deviceId : peer.credential.deviceId = peer.device.id
  secret : config.secretMatchesHash peer.credential.secret peer.device.secretHash = true
  row : ∃ row, db.standing peer.device.id = some row ∧ row.secretHash = peer.device.secretHash

/-- What holds of one session by itself. -/
structure Session.Sound (config : RelayConfig) (relay : Relay) (session : Session) : Prop where
  authenticated : ∀ peer, session.peer = some peer → Authenticated config relay.database peer
  handle : ∀ tunnel, session.tunnel = some tunnel →
    tunnel.handle.deviceId = tunnel.deviceId ∧ tunnel.handle.channel < relay.channels.length
  serial : ∀ serial, session.serial = some serial → serial < relay.registry.sequence
  job : ∀ tunnel, session.tunnel = some tunnel → session.job.SpeaksFor tunnel.handle

section Sound

variable {config : RelayConfig} {choice : TaskChoice} {relay relay' : Relay}
  {session session' : Session}

theorem Session.Sound.mono (h : session.Sound config relay) (hprecedes : relay.Precedes relay') :
    session.Sound config relay' where
  authenticated peer hpeer := by
    obtain ⟨hid, hsecret, row, hrow, hhash⟩ := h.authenticated peer hpeer
    obtain ⟨row', hrow', hhash', -⟩ := hprecedes.standing _ row hrow
    exact ⟨hid, hsecret, row', hrow', hhash'.trans hhash⟩
  handle tunnel htunnel :=
    ⟨(h.handle tunnel htunnel).1, (h.handle tunnel htunnel).2.trans_le hprecedes.channels⟩
  serial serial hserial := (h.serial serial hserial).trans_le hprecedes.sequence
  job := h.job

theorem Session.sound_of_no_tunnel
    (hpeer : ∀ peer, session.peer = some peer → Authenticated config relay.database peer)
    (htunnel : session.tunnel = none) (hserial : session.serial = none) :
    session.Sound config relay where
  authenticated := hpeer
  handle tunnel h := by
    rw [htunnel] at h
    cases h
  serial serial h := by
    rw [hserial] at h
    cases h
  job tunnel h := by
    rw [htunnel] at h
    cases h

theorem Session.sound_of_starts (h : session.starts = true) : session.Sound config relay := by
  cases session <;> cases h
  exact Session.sound_of_no_tunnel (fun _ h => nomatch h) rfl rfl

theorem speaksFor_controlFrameJob (handle : TunnelHandle) (kind : DeviceKind)
    (frame : ControlFrame) : (controlFrameJob handle kind frame).SpeaksFor handle := by
  unfold controlFrameJob
  split
  · split
    · exact ⟨rfl, rfl⟩
    · trivial
  · split
    · exact ⟨rfl, rfl⟩
    · trivial
  · split
    · exact rfl
    · trivial
  · trivial

theorem Session.Sound.move (h : session.Sound config relay)
    (hpeer : session'.peer = session.peer) (htunnel : session'.tunnel = session.tunnel)
    (hserial : ∀ serial, session'.serial = some serial → session.serial = some serial)
    (hjob : session'.job = .finished) : session'.Sound config relay where
  authenticated peer hp := h.authenticated peer (hpeer ▸ hp)
  handle tunnel ht := h.handle tunnel (htunnel ▸ ht)
  serial serial hs := h.serial serial (hserial serial hs)
  job tunnel _ := by
    rw [hjob]
    trivial

theorem SessionStep.sound (h : SessionStep config choice relay session relay' session')
    (hs : session.Sound config relay) : session'.Sound config relay' := by
  have hmono := hs.mono h.precedes
  cases h with
  | refused => exact Session.sound_of_no_tunnel (fun _ h => nomatch h) rfl rfl
  | authenticated hauth =>
      obtain ⟨presented, hpresented, hfind, -, hmatches⟩ := authenticate_eq_ok hauth
      obtain rfl := Option.some.inj hpresented
      refine Session.sound_of_no_tunnel (fun peer hpeer => ?_) rfl rfl
      obtain rfl := Option.some.inj hpeer
      have hid := Rows.key_of_find hfind
      exact ⟨hid.symm, hmatches, _, Database.standing_of_find (hid.symm ▸ hfind), rfl⟩
  | rejected => exact Session.sound_of_no_tunnel (fun _ h => nomatch h) rfl rfl
  | accepted hello =>
      refine ⟨hmono.authenticated, fun tunnel htunnel => ?_, (fun _ h => nomatch h),
        fun _ _ => trivial⟩
      obtain rfl := Option.some.inj htunnel
      refine ⟨rfl, ?_⟩
      simp
  | numbered =>
      refine ⟨hmono.authenticated, hmono.handle, fun serial hserial => ?_, fun _ _ => trivial⟩
      obtain rfl := Option.some.inj hserial
      exact Nat.lt_succ_self _
  | connected hsession =>
      rcases hsession with rfl | ⟨previous, -, rfl⟩
      · exact hmono.move rfl rfl (fun _ h => h) rfl
      · exact hmono.move rfl rfl (fun _ h => h) rfl
  | displaced => exact hmono.move rfl rfl (fun _ h => h) rfl
  | recorded _ => exact hmono.move rfl rfl (fun _ h => h) rfl
  | received =>
      refine ⟨hmono.authenticated, hmono.handle, hmono.serial, fun tunnel htunnel => ?_⟩
      obtain rfl := Option.some.inj htunnel
      exact speaksFor_controlFrameJob _ _ _
  | skipped => exact hs
  | stopped => exact hmono.move rfl rfl (fun _ h => h) rfl
  | worked hjob hwork =>
      refine ⟨hmono.authenticated, hmono.handle, hmono.serial, fun tunnel htunnel => ?_⟩
      exact ((hs.job tunnel htunnel).step hwork).speaksFor
  | closed => exact hmono.move rfl rfl (fun _ h => h) rfl
  | drained => exact hmono.move rfl rfl (fun _ h => h) rfl
  | left _ => exact hmono.move rfl rfl (fun _ h => nomatch h) rfl
  | gone _ => exact hmono.move rfl rfl (fun _ h => nomatch h) rfl

end Sound

def Task.channel : Task → Option Nat
  | .session s => s.tunnel.map fun tunnel => tunnel.handle.channel
  | .request _ => none

def Task.serial : Task → Option Nat
  | .session s => s.serial
  | .request _ => none

/-- Every registered direct tunnel is the one of a session that registered it under that serial. -/
def DirectOwned (s : System) : Prop :=
  ∀ deviceId entry serial, s.shared.registry.state.entries.lookup deviceId = some entry →
    entry.origin = .direct serial → ∃ session tunnel, .session session ∈ s.tasks ∧
      session.registration = some (tunnel, serial) ∧ tunnel.deviceId = deviceId ∧
      entry.device.route = .direct tunnel.handle

structure TunnelsInv (config : RelayConfig) (s : System) : Prop where
  sound : ∀ session, .session session ∈ s.tasks → session.Sound config s.shared
  channels : DistinctKeys Task.channel s.tasks
  serials : DistinctKeys Task.serial s.tasks
  wellFormed : s.shared.registry.state.WellFormed
  direct : DirectOwned s

section Steps

variable {config : RelayConfig} {choice : TaskChoice} {relay relay' : Relay}
  {session session' : Session}

theorem SessionStep.wellFormed (h : SessionStep config choice relay session relay' session')
    (hs : relay.registry.state.WellFormed) : relay'.registry.state.WellFormed := by
  cases h with
  | connected _ => exact hs.connectLocked config.relayId _ _ _
  | received =>
      unfold answerPing
      split <;> exact hs
  | worked _ h => exact (Job.step_tableUpdate h).wellFormed hs
  | left h => exact (Job.step_tableUpdate h).wellFormed hs
  | _ => exact hs

theorem SessionStep.state_cases (h : SessionStep config choice relay session relay' session') :
    (relay'.registry.state = relay.registry.state ∧ session.job = .finished ∧
      session'.registration = session.registration) ∨
    (∃ tunnel serial, session = .numbered tunnel serial ∧
      session'.registration = some (tunnel, serial) ∧
      relay'.registry.state = (relay.registry.state.connectLocked config.relayId tunnel.presence
        serial choice.now).1) ∨
    (∃ tunnel serial job snapshot job' changes, session = .reading tunnel serial job snapshot ∧
      job.step config.relayId config.maxHops relay.registry ⟨choice.now, choice.order⟩ =
        some (relay'.registry, job', changes) ∧
      session' = .reading tunnel serial job' (snapshot.settle job')) ∨
    ∃ tunnel serial snapshot job changes, session = .leaving tunnel serial snapshot ∧
      (Job.disconnect tunnel.deviceId serial).step config.relayId config.maxHops relay.registry
        ⟨choice.now, choice.order⟩ = some (relay'.registry, job, changes) ∧
      session' = .disconnected tunnel := by
  cases h with
  | connected hsession =>
      refine .inr (.inl ⟨_, _, rfl, ?_, rfl⟩)
      rcases hsession with rfl | ⟨_, -, rfl⟩
      · rfl
      · rfl
  | worked _ h => exact .inr (.inr (.inl ⟨_, _, _, _, _, _, rfl, h, rfl⟩))
  | left h => exact .inr (.inr (.inr ⟨_, _, _, _, _, rfl, h, rfl⟩))
  | received =>
      refine .inl ⟨?_, rfl, rfl⟩
      unfold answerPing
      split <;> rfl
  | _ => exact .inl ⟨rfl, rfl, rfl⟩

theorem SessionStep.keeps (h : SessionStep config choice relay session relay' session') :
    relay.database.Keeps relay'.database := by
  cases h with
  | recorded h => exact h
  | gone h => exact h
  | received =>
      unfold answerPing
      split <;> exact Database.Keeps.refl _
  | _ => exact Database.Keeps.refl _

theorem SessionStep.tunnel_persists (h : SessionStep config choice relay session relay' session')
    {tunnel : Tunnel} (htunnel : session.tunnel = some tunnel) :
    session'.tunnel = some tunnel := by
  cases h with
  | connected hsession => rcases hsession with rfl | ⟨_, -, rfl⟩ <;> exact htunnel
  | refused => cases htunnel
  | authenticated _ => cases htunnel
  | rejected => cases htunnel
  | accepted _ => cases htunnel
  | _ => exact htunnel

theorem SessionStep.tunnel_cases (h : SessionStep config choice relay session relay' session')
    {tunnel : Tunnel} (htunnel : session'.tunnel = some tunnel) :
    session.tunnel = some tunnel ∨
      ∃ peer, session = .upgraded peer ∧ session' = .accepted tunnel := by
  cases h with
  | connected hsession => rcases hsession with rfl | ⟨_, -, rfl⟩ <;> exact .inl htunnel
  | refused => cases htunnel
  | authenticated _ => cases htunnel
  | rejected => cases htunnel
  | accepted _ =>
      cases htunnel
      exact .inr ⟨_, rfl, rfl⟩
  | _ => exact .inl htunnel

/-- A new route leads over the tunnel of the session that acts; a direct one is the one `connect`
has just registered. -/
theorem SessionStep.route_cases (h : SessionStep config choice relay session relay' session')
    (hs : session.Sound config relay) {deviceId : String} {route : Route}
    (hroute : relay'.registry.state.route deviceId = some route) :
    relay.registry.state.route deviceId = some route ∨
      ∃ tunnel, session.tunnel = some tunnel ∧ route.link = tunnel.handle ∧
        (route.isDirect = true → tunnel.deviceId = deviceId ∧
          ∃ serial, session = .numbered tunnel serial) := by
  rcases h.state_cases with ⟨hsame, -⟩ | ⟨tunnel, serial, rfl, -, hstate⟩ |
    ⟨tunnel, serial, job, snapshot, job', changes, rfl, hwork, -⟩ |
    ⟨tunnel, serial, snapshot, job, changes, rfl, hleft, -⟩
  · exact .inl (hsame ▸ hroute)
  · obtain ⟨entry, hentry, rfl⟩ := Option.map_eq_some_iff.mp hroute
    rw [hstate, RegistryState.connectLocked_entries] at hentry
    rcases Table.lookup_insert_cases hentry with ⟨rfl, rfl⟩ | ⟨-, hentry⟩
    · exact .inr ⟨tunnel, rfl, rfl, fun _ => ⟨rfl, serial, rfl⟩⟩
    · exact .inl (by rw [RegistryState.route, hentry, Option.map_some])
  · obtain ⟨entry, hentry, rfl⟩ := Option.map_eq_some_iff.mp hroute
    rcases ((hs.job tunnel rfl).step hwork).state_cases with
      hsame | ⟨device, _, _, _, -, hlocked⟩ | ⟨_, _, _, -, hlocked⟩
    · rw [hsame] at hentry
      exact .inl (by rw [RegistryState.route, hentry, Option.map_some])
    · rw [(RegistryState.announceLocked_eq_some hlocked).2.1] at hentry
      rcases Table.lookup_insert_cases hentry with ⟨rfl, rfl⟩ | ⟨-, hentry⟩
      · exact .inr ⟨tunnel, rfl, rfl, fun hdirect => nomatch hdirect⟩
      · exact .inl (by rw [RegistryState.route, hentry, Option.map_some])
    · have hentry := RegistryState.lookup_of_withdrawLocked hlocked hentry
      exact .inl (by rw [RegistryState.route, hentry, Option.map_some])
  · left
    obtain ⟨entry, hentry, rfl⟩ := Option.map_eq_some_iff.mp hroute
    rw [RegistryState.route, Job.lookup_of_disconnect hleft hentry, Option.map_some]

theorem SessionStep.channel (h : SessionStep config choice relay session relay' session')
    (channel : Nat) (hchannel : Task.channel (.session session') = some channel) :
    Task.channel (.session session) = some channel ∨ channel = relay.channels.length := by
  cases h with
  | accepted _ => exact .inr (Option.some.inj hchannel).symm
  | connected hsession => rcases hsession with rfl | ⟨_, -, rfl⟩ <;> exact .inl hchannel
  | refused => cases hchannel
  | authenticated _ => cases hchannel
  | rejected => cases hchannel
  | _ => exact .inl hchannel

theorem SessionStep.serial (h : SessionStep config choice relay session relay' session')
    (serial : Nat) (hserial : Task.serial (.session session') = some serial) :
    Task.serial (.session session) = some serial ∨ serial = relay.registry.sequence := by
  cases h with
  | numbered => exact .inr (Option.some.inj hserial).symm
  | connected hsession => rcases hsession with rfl | ⟨_, -, rfl⟩ <;> exact .inl hserial
  | refused => cases hserial
  | authenticated _ => cases hserial
  | rejected => cases hserial
  | accepted _ => cases hserial
  | left _ => cases hserial
  | gone _ => cases hserial
  | _ => exact .inl hserial

variable {s s' : System} {label : SystemLabel}

theorem forall_sound_step (h : System.StepCases config s label s')
    (hs : ∀ session, .session session ∈ s.tasks → session.Sound config s.shared) :
    ∀ session, .session session ∈ s'.tasks → session.Sound config s'.shared := by
  intro other hother
  have hmono : ∀ session, .session session ∈ s.tasks → session.Sound config s'.shared :=
    fun session hsession => (hs session hsession).mono h.precedes
  cases h with
  | spawn hstarts =>
      rcases List.mem_append.mp hother with hold | hnew
      · exact hs other hold
      · rw [← List.mem_singleton.mp hnew] at hstarts
        exact Session.sound_of_starts hstarts
  | session htask hstep =>
      rcases mem_set_cases hother with heq | ⟨i, -, hi⟩
      · cases heq
        exact hstep.sound (hs _ (List.mem_of_getElem? htask))
      · exact hmono other (List.mem_of_getElem? hi)
  | request htask hstep =>
      rcases mem_set_cases hother with heq | ⟨i, -, hi⟩
      · cases heq
      · exact hmono other (List.mem_of_getElem? hi)
  | channel _ => exact hmono other hother

theorem distinctKeys_step {key : Task → Option Nat} (h : System.StepCases config s label s')
    (hrequest : ∀ request, key (.request request) = none)
    (hstarts : ∀ task, task.starts = true → key task = none)
    (hsession : ∀ {choice : TaskChoice} {session session' : Session} {relay : Relay},
      SessionStep config choice s.shared session relay session' →
      ∀ k, key (.session session') = some k → key (.session session) = some k ∨
        ∀ (i : Nat) t, s.tasks[i]? = some t → key t ≠ some k)
    (hd : DistinctKeys key s.tasks) : DistinctKeys key s'.tasks := by
  cases h with
  | spawn hstart => exact hd.append (hstarts _ hstart)
  | session htask hstep => exact hd.set htask (hsession hstep)
  | request htask _ =>
      refine hd.set htask fun k hkey => ?_
      rw [hrequest] at hkey
      cases hkey
  | channel _ => exact hd

theorem distinct_channels_step (h : System.StepCases config s label s')
    (hs : ∀ session, .session session ∈ s.tasks → session.Sound config s.shared)
    (hd : DistinctKeys Task.channel s.tasks) : DistinctKeys Task.channel s'.tasks := by
  refine distinctKeys_step h (fun _ => rfl) (fun task hstarts => ?_)
    (fun hstep channel hchannel => ?_) hd
  · cases task with
    | session other => cases other <;> cases hstarts; rfl
    | request other => rfl
  · rcases hstep.channel channel hchannel with hold | hfresh
    · exact .inl hold
    · refine .inr fun i t hi ht => ?_
      cases t with
      | request other => cases ht
      | session other =>
          obtain ⟨tunnel, htunnel, hlt⟩ := Option.map_eq_some_iff.mp ht
          have := ((hs other (List.mem_of_getElem? hi)).handle tunnel htunnel).2
          omega

theorem distinct_serials_step (h : System.StepCases config s label s')
    (hs : ∀ session, .session session ∈ s.tasks → session.Sound config s.shared)
    (hd : DistinctKeys Task.serial s.tasks) : DistinctKeys Task.serial s'.tasks := by
  refine distinctKeys_step h (fun _ => rfl) (fun task hstarts => ?_)
    (fun hstep serial hserial => ?_) hd
  · cases task with
    | session other => cases other <;> cases hstarts; rfl
    | request other => rfl
  · rcases hstep.serial serial hserial with hold | hfresh
    · exact .inl hold
    · refine .inr fun i t hi ht => ?_
      cases t with
      | request other => cases ht
      | session other =>
          have := (hs other (List.mem_of_getElem? hi)).serial serial ht
          omega

theorem exists_registration_set {index : Nat} {task : Task} (task' : Task)
    (htask : s.tasks[index]? = some task) {tunnel : Tunnel} {serial : Nat}
    (hmove : ∀ session, task = .session session → session.registration = some (tunnel, serial) →
      ∃ session', task' = .session session' ∧ session'.registration = some (tunnel, serial))
    (h : ∃ session, .session session ∈ s.tasks ∧ session.registration = some (tunnel, serial)) :
    ∃ session, .session session ∈ s.tasks.set index task' ∧
      session.registration = some (tunnel, serial) := by
  obtain ⟨session, hsession, hregistration⟩ := h
  have hex : ∃ t ∈ s.tasks, ∃ session, t = .session session ∧
      session.registration = some (tunnel, serial) := ⟨_, hsession, session, rfl, hregistration⟩
  obtain ⟨t, ht, session', rfl, hregistration'⟩ := exists_mem_set task' htask hex
    fun ⟨session, hsession, hregistration⟩ => hmove session hsession hregistration
  exact ⟨session', ht, hregistration'⟩

theorem directOwned_step (h : System.StepCases config s label s')
    (hs : ∀ session, .session session ∈ s.tasks → session.Sound config s.shared)
    (hwell : s.shared.registry.state.WellFormed) (hd : DirectOwned s) : DirectOwned s' := by
  intro deviceId entry serial hentry horigin
  have hold : s.shared.registry.state.entries.lookup deviceId = some entry →
      ∃ tunnel, (∃ session, .session session ∈ s.tasks ∧
        session.registration = some (tunnel, serial)) ∧ tunnel.deviceId = deviceId ∧
        entry.device.route = .direct tunnel.handle := by
    intro h
    obtain ⟨session, tunnel, hsession, hregistration, hrest⟩ := hd deviceId entry serial h horigin
    exact ⟨tunnel, ⟨session, hsession, hregistration⟩, hrest⟩
  cases h with
  | spawn _ =>
      obtain ⟨session, tunnel, hsession, hrest⟩ := hd deviceId entry serial hentry horigin
      exact ⟨session, tunnel, List.mem_append_left _ hsession, hrest⟩
  | channel h =>
      rw [(Relay.channelStep_eq_some h).2.1] at hentry
      exact hd deviceId entry serial hentry horigin
  | request htask hstep =>
      rw [hstep.registry_eq] at hentry
      obtain ⟨tunnel, hex, hrest⟩ := hold hentry
      obtain ⟨session, hsession, hregistration⟩ :=
        exists_registration_set _ htask (fun _ h => nomatch h) hex
      exact ⟨session, tunnel, hsession, hregistration, hrest⟩
  | @session index choice session session' relay htask hstep =>
      have hkeep : s.shared.registry.state.entries.lookup deviceId = some entry →
          (∀ r, session.registration = some r → r.1.deviceId = deviceId → r.2 = serial →
            session'.registration = some r) →
          ∃ session₁ tunnel, .session session₁ ∈ s.tasks.set index (.session session') ∧
            session₁.registration = some (tunnel, serial) ∧ tunnel.deviceId = deviceId ∧
            entry.device.route = .direct tunnel.handle := by
        intro h hregistration
        obtain ⟨tunnel, hex, hid, hroute⟩ := hold h
        obtain ⟨session₁, hsession₁, hr⟩ := exists_registration_set
          (.session session') htask (fun session₁ heq hr => by
            cases heq
            exact ⟨session', rfl, hregistration _ hr hid rfl⟩) hex
        exact ⟨session₁, tunnel, hsession₁, hr, hid, hroute⟩
      rcases hstep.state_cases with ⟨hsame, -, hregistration⟩ |
        ⟨tunnel, serial', rfl, hregistration, hstate⟩ |
        ⟨tunnel, serial', job, snapshot, job', changes, rfl, hwork, rfl⟩ |
        ⟨tunnel, serial', snapshot, job, changes, rfl, hleft, rfl⟩
      · rw [hsame] at hentry
        exact hkeep hentry fun r hr _ _ => hregistration.trans hr
      · rw [hstate, RegistryState.connectLocked_entries] at hentry
        rcases Table.lookup_insert_cases hentry with ⟨rfl, rfl⟩ | ⟨-, hentry⟩
        · cases horigin
          exact ⟨session', tunnel, mem_set_self htask, hregistration, rfl, rfl⟩
        · exact hkeep hentry fun _ hr => nomatch hr
      · have hspeaks := (hs _ (List.mem_of_getElem? htask)).job tunnel rfl
        rw [(hspeaks.step hwork).lookup_direct hwell horigin] at hentry
        exact hkeep hentry fun r hr _ _ => hr
      · rcases Job.disconnect_cases hleft with ⟨state, -, hlocked, hregistry⟩ | ⟨hnot, hregistry⟩
        · obtain ⟨-, hentries, -⟩ := RegistryState.disconnectLocked_eq_some hlocked
          rw [hregistry] at hentry
          dsimp only at hentry
          rw [hentries] at hentry
          split at hentry
          · cases hentry
          · next hgone =>
              refine hkeep hentry fun r hr hid _ => ?_
              obtain rfl := Option.some.inj hr
              exact absurd (List.mem_cons.mpr (.inl hid.symm)) hgone
        · rw [hregistry] at hentry
          refine hkeep hentry fun r hr hid hserial => ?_
          obtain rfl := Option.some.inj hr
          obtain rfl : serial' = serial := hserial
          have := RegistryState.registered_iff.mpr ⟨entry, hid ▸ hentry, horigin⟩
          rw [hnot] at this
          cases this

theorem tunnelsInv_step (h : System.StepCases config s label s') (hs : TunnelsInv config s) :
    TunnelsInv config s' where
  sound := forall_sound_step h hs.sound
  channels := distinct_channels_step h hs.sound hs.channels
  serials := distinct_serials_step h hs.sound hs.serials
  wellFormed := by
    cases h with
    | spawn _ => exact hs.wellFormed
    | session _ hstep => exact hstep.wellFormed hs.wellFormed
    | request _ hstep =>
        rw [hstep.registry_eq]
        exact hs.wellFormed
    | channel h =>
        rw [(Relay.channelStep_eq_some h).2.1]
        exact hs.wellFormed
  direct := directOwned_step h hs.sound hs.wellFormed hs.direct

/-- Two sessions never have the same channel. -/
theorem TunnelsInv.tunnel_unique {session session' : Session} {tunnel tunnel' : Tunnel}
    (hs : TunnelsInv config s) (hsession : .session session ∈ s.tasks)
    (hsession' : .session session' ∈ s.tasks) (htunnel : session.tunnel = some tunnel)
    (htunnel' : session'.tunnel = some tunnel')
    (hchannel : tunnel.handle.channel = tunnel'.handle.channel) : tunnel = tunnel' := by
  have hsame : Task.session session = .session session' :=
    hs.channels.eq_of_mem (k := tunnel'.handle.channel) hsession hsession'
      (by simp [Task.channel, htunnel, hchannel]) (by simp [Task.channel, htunnel'])
  cases hsame
  rw [htunnel, Option.some.injEq] at htunnel'
  exact htunnel'

theorem tunnelsInv_init (config : RelayConfig) (database : Database) :
    TunnelsInv config (System.init database) where
  sound _ h := nomatch h
  channels _ _ _ _ _ h := nomatch h
  serials _ _ _ _ _ h := nomatch h
  wellFormed := RegistryState.wellFormed_empty
  direct deviceId entry serial h := by
    rw [System.init, Registry.new, RegistryState.empty, AList.lookup_empty] at h
    cases h

end Steps

end TermexoRelay
