import TermexoRelay.Relay.Tunnels

/-!
# Routes of the relay's own devices

An announcement is judged against the routing table alone, never against the rows. A registered
tunnel is not replaced by one, so an id with a row is safe while its own tunnel is there to defend
it: as long as such ids are not announced at other times, they are routed over a tunnel that
authenticated with that row, or not at all.
-/

namespace TermexoRelay

open Transition

/-- The id an announcement is about. -/
def Job.announcedId : Job → Option String
  | .announcing _ _ device _ _ => some device.id
  | _ => none

/-- An id with a row is announced only while its own tunnel is registered, and no row is created
under an id that is routed already. -/
def rowsUnannounced (s : System) : SystemLabel → Bool
  | .advance index choice =>
      match s.tasks[index]? with
      | some (.session session) => session.job.announcedId.all fun id =>
          (s.shared.database.devices.find id).isNone || s.shared.registry.state.hasTunnel id
      | some (.request (.issuing _ _ _ _)) => choice.credential.all fun credential =>
          (s.shared.database.devices.find credential.deviceId).isSome ||
            (s.shared.registry.state.route credential.deviceId).isNone
      | _ => true
  | _ => true

/-- An id with a row has a direct entry or none. -/
def RowsDirect (s : System) : Prop :=
  ∀ deviceId row entry, s.shared.database.standing deviceId = some row →
    s.shared.registry.state.entries.lookup deviceId = some entry →
    ∃ serial, entry.origin = .direct serial

theorem RegistryState.announceLocked_of_hasTunnel {state : RegistryState} (hs : state.WellFormed)
    {relayId linkDeviceId : String} {link : TunnelHandle} {device : AnnouncedDevice}
    {sequence : Nat} {now : Int} (h : state.hasTunnel device.id = true) :
    state.announceLocked relayId linkDeviceId link device sequence now = none := by
  obtain ⟨entry, serial, hentry, horigin⟩ := hasTunnel_iff.mp h
  obtain ⟨handle, hroute⟩ := (hs _ _ hentry).direct serial horigin
  simp [announceLocked, hentry, hroute, replaces]

section Steps

variable {config : RelayConfig} {s s' : System} {label : SystemLabel}

theorem rowsDirect_session {index : Nat} {choice : TaskChoice} {session session' : Session}
    {relay : Relay} (hinv : TunnelsInv config s) (hs : RowsDirect s)
    (hok : rowsUnannounced s (.advance index choice) = true)
    (htask : s.tasks[index]? = some (.session session))
    (h : SessionStep config choice s.shared session relay session') :
    RowsDirect ⟨relay, s.tasks.set index (.session session')⟩ := by
  intro deviceId row entry hrow hentry
  rw [h.keeps.standing] at hrow
  rcases h.state_cases with ⟨hsame, -⟩ | ⟨tunnel, serial, rfl, -, hstate⟩ |
    ⟨tunnel, serial, job, snapshot, job', changes, rfl, hwork, -⟩ |
    ⟨tunnel, serial, snapshot, job, changes, rfl, hleft, -⟩
  · rw [hsame] at hentry
    exact hs deviceId row entry hrow hentry
  · rw [hstate, RegistryState.connectLocked_entries] at hentry
    rcases Table.lookup_insert_cases hentry with ⟨rfl, rfl⟩ | ⟨-, hentry⟩
    · exact ⟨serial, rfl⟩
    · exact hs deviceId row entry hrow hentry
  · have hspeaks := (hinv.sound _ (List.mem_of_getElem? htask)).job tunnel rfl
    rcases (hspeaks.step hwork).state_cases with
      hsame | ⟨device, batch, sequence, change, hjob, hlocked⟩ | ⟨_, _, _, -, hlocked⟩
    · rw [hsame] at hentry
      exact hs deviceId row entry hrow hentry
    · rw [(RegistryState.announceLocked_eq_some hlocked).2.1] at hentry
      rcases Table.lookup_insert_cases hentry with ⟨rfl, rfl⟩ | ⟨-, hentry⟩
      · -- Its own tunnel is registered, and that is not replaced.
        have hjob : job = .announcing tunnel.handle.deviceId tunnel.handle device batch sequence :=
          hjob
        subst hjob
        obtain ⟨device', hfind, -⟩ := Database.find_of_standing hrow
        have hregistered : s.shared.registry.state.hasTunnel device.id = true := by
          simpa [rowsUnannounced, htask, Session.job, Job.announcedId, hfind] using hok
        rw [RegistryState.announceLocked_of_hasTunnel hinv.wellFormed hregistered] at hlocked
        cases hlocked
      · exact hs deviceId row entry hrow hentry
    · exact hs deviceId row entry hrow (RegistryState.lookup_of_withdrawLocked hlocked hentry)
  · exact hs deviceId row entry hrow (Job.lookup_of_disconnect hleft hentry)

theorem rowsDirect_request {index : Nat} {choice : TaskChoice} {request request' : Request}
    {relay : Relay} (hs : RowsDirect s)
    (hok : rowsUnannounced s (.advance index choice) = true)
    (htask : s.tasks[index]? = some (.request request))
    (h : RequestStep config choice s.shared request relay request') :
    RowsDirect ⟨relay, s.tasks.set index (.request request')⟩ := by
  intro deviceId row entry hrow hentry
  rw [h.registry_eq] at hentry
  cases hold : s.shared.database.standing deviceId with
  | some old => exact hs deviceId old entry hold hentry
  | none =>
      obtain ⟨kind, owner, name, enrollment, credential, rfl, hcredential, rfl, -⟩ :=
        h.standing_new hold hrow
      have hnone : s.shared.database.devices.find credential.deviceId = none := by
        simpa [Database.standing] using hold
      simp [rowsUnannounced, htask, hcredential, hnone, RegistryState.route, hentry] at hok

theorem rowsDirect_step (hinv : TunnelsInv config s) (hs : RowsDirect s)
    (hok : rowsUnannounced s label = true) (h : System.StepCases config s label s') :
    RowsDirect s' := by
  cases h with
  | spawn _ => exact hs
  | session htask h => exact rowsDirect_session hinv hs hok htask h
  | request htask h => exact rowsDirect_request hs hok htask h
  | channel h =>
      obtain ⟨hdatabase, hregistry, -⟩ := Relay.channelStep_eq_some h
      intro deviceId row entry hrow hentry
      exact hs deviceId row entry (hdatabase ▸ hrow) (hregistry ▸ hentry)

end Steps

/-- In every run that respects `rowsUnannounced`: an id with a row is routed over the tunnel of a
session that presented that row's secret, or not at all. -/
theorem route_of_row (config : RelayConfig) (database : Database) (labels : List SystemLabel)
    (s : System) (hrun : run (System.step config) (System.init database) labels = some s)
    (hok : Meets (System.step config) (fun s label => rowsUnannounced s label = true)
      (System.init database) labels)
    (deviceId : String) (device : DeviceRecord)
    (hfind : s.shared.database.devices.find deviceId = some device) :
    s.shared.registry.state.route deviceId = none ∨
      ∃ session tunnel serial, .session session ∈ s.tasks ∧
        session.registration = some (tunnel, serial) ∧
        s.shared.registry.state.route deviceId = some (.direct tunnel.handle) ∧
        tunnel.peer.credential.deviceId = deviceId ∧
        config.secretMatchesHash tunnel.peer.credential.secret device.secretHash = true := by
  have hinv : TunnelsInv config s ∧ RowsDirect s := by
    refine run_invariant (P := fun s => TunnelsInv config s ∧ RowsDirect s) ?_
      ⟨tunnelsInv_init config database, ?_⟩ hok hrun
    · rintro s label s' ⟨hinv, hs⟩ hok hstep
      have hcases := System.step_eq_some hstep
      exact ⟨tunnelsInv_step hcases hinv, rowsDirect_step hinv hs hok hcases⟩
    · intro deviceId row entry _ hentry
      rw [System.init, Registry.new, RegistryState.empty, AList.lookup_empty] at hentry
      cases hentry
  cases hentry : s.shared.registry.state.entries.lookup deviceId with
  | none => exact .inl (by rw [RegistryState.route, hentry, Option.map_none])
  | some entry =>
      right
      obtain ⟨serial, horigin⟩ :=
        hinv.2 deviceId _ entry (Database.standing_of_find hfind) hentry
      obtain ⟨session, tunnel, hsession, hregistration, rfl, hroute⟩ :=
        hinv.1.direct deviceId entry serial hentry horigin
      obtain ⟨hid, hsecret, row, hrow, hhash⟩ :=
        (hinv.1.sound session hsession).authenticated _
          (Session.peer_of_tunnel (Session.tunnel_of_registration hregistration).1)
      have hsame : device.secretHash = tunnel.peer.device.secretHash := by
        have hstanding := Database.standing_of_find hfind
        rw [show tunnel.deviceId = tunnel.peer.device.id from rfl, hrow, Option.some.injEq]
          at hstanding
        rw [← hhash, hstanding]
        rfl
      refine ⟨session, tunnel, serial, hsession, hregistration, ?_, hid, hsame ▸ hsecret⟩
      rw [RegistryState.route, hentry, Option.map_some, hroute]

def announceConnected : List SystemLabel :=
  System.enrollDevice 0 .desktop none "ABCD-EFGH-JKLM" "device-a" ++
    System.enrollDevice 2 .relay none "NPQR-STUV-WXYZ" "relay-b" ++
    System.acceptTunnel 4 .desktop "device-a" ++ System.registerTunnel 4 ++
    System.acceptTunnel 5 .relay "relay-b" ++ System.registerTunnel 5 ++
    System.announceDevice 5 "device-a"

theorem route_of_row_connected :
    ∃ s, run (System.step System.plainConfig) (System.init .empty) announceConnected = some s ∧
      ∃ session tunnel serial, .session session ∈ s.tasks ∧
        session.registration = some (tunnel, serial) ∧
        s.shared.registry.state.route "device-a" = some (.direct tunnel.handle) ∧
        tunnel.peer.credential.deviceId = "device-a" := by
  obtain ⟨s, hrun, hfind, hroute⟩ := exists_run (System.step System.plainConfig)
    (System.init .empty) announceConnected
    (fun s => (s.shared.database.devices.find "device-a").isSome = true ∧
      (s.shared.registry.state.route "device-a").isSome = true) (by decide)
  obtain ⟨device, hfind⟩ := Option.isSome_iff_exists.mp hfind
  rcases route_of_row System.plainConfig .empty announceConnected s hrun (by decide)
    "device-a" device hfind with hnone | ⟨session, tunnel, serial, hsession, hreg, hdirect, hid, -⟩
  · rw [hnone] at hroute
    cases hroute
  · exact ⟨s, hrun, session, tunnel, serial, hsession, hreg, hdirect, hid⟩

def announceEnrolled : List SystemLabel :=
  System.enrollDevice 0 .desktop none "ABCD-EFGH-JKLM" "device-a" ++
    System.enrollDevice 2 .relay none "NPQR-STUV-WXYZ" "relay-b" ++
    System.acceptTunnel 4 .relay "relay-b" ++ System.registerTunnel 4 ++
    System.announceDevice 4 "device-a"

/-- The device is routed to the link. -/
theorem route_of_row_announced :
    ¬ ∀ (config : RelayConfig) (database : Database) (labels : List SystemLabel) (s : System),
      run (System.step config) (System.init database) labels = some s →
      ∀ deviceId device, s.shared.database.devices.find deviceId = some device →
        s.shared.registry.state.route deviceId = none ∨ ∃ handle,
          s.shared.registry.state.route deviceId = some (.direct handle) := by
  intro h
  obtain ⟨s, hrun, hfind, hroute⟩ := exists_run (System.step System.plainConfig)
    (System.init .empty) announceEnrolled
    (fun s => (s.shared.database.devices.find "device-a").isSome = true ∧
      s.shared.registry.state.route "device-a" = some (.via ⟨"relay-b", 0⟩ ["relay-b"]))
    (by decide)
  obtain ⟨device, hfind⟩ := Option.isSome_iff_exists.mp hfind
  rcases h System.plainConfig .empty announceEnrolled s hrun "device-a" device hfind with
    hnone | ⟨handle, hdirect⟩
  · rw [hnone] at hroute
    cases hroute
  · rw [hdirect] at hroute
    cases hroute

end TermexoRelay
