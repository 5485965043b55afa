import TermexoRelay.Relay.Impersonation

/-!
# Announced routes and the sessions of their link

Announced entries belong to a link, while a session cleans up under its own serial, and a displaced
session handles the frames it still receives. As long as no announcement of such a session is
installed past the snapshot of the registered one, every entry of a link leads over the registered
tunnel once its snapshot is applied, and nothing of a link outlives its sessions.
-/

namespace TermexoRelay

open Transition

namespace Session

/-- Whether the session's snapshot still has to install the id anew or to withdraw it. -/
def leaves (deviceId : String) (session : Session) : Bool :=
  match session.snapshot with
  | .awaited => true
  | .applying => session.job.leaves deviceId
  | .applied => false

/-- Whether the session is the registered one of its device, which is the link, and an entry of the
link for the id leads over its tunnel or is still to be replaced by its snapshot. -/
def covers (state : RegistryState) (link : TunnelHandle) (deviceId : String)
    (session : Session) : Bool :=
  session.registration.any fun r =>
    decide (r.1.deviceId = link.deviceId) && state.registered r.1.deviceId r.2 &&
      (decide (r.1.handle = link) || session.leaves deviceId)

theorem covers_iff {state : RegistryState} {link : TunnelHandle} {deviceId : String}
    {session : Session} : session.covers state link deviceId = true ↔ ∃ tunnel serial,
      session.registration = some (tunnel, serial) ∧ tunnel.deviceId = link.deviceId ∧
      state.registered tunnel.deviceId serial = true ∧
      (tunnel.handle = link ∨ session.leaves deviceId = true) := by
  simp only [covers, Option.any_eq_true, Prod.exists, Bool.and_eq_true, Bool.or_eq_true,
    decide_eq_true_eq, and_assoc]

/-- Every entry of the session's link leads over its tunnel, if it is the registered one, or is
still to be replaced by its snapshot. -/
def RoutesCurrent (state : RegistryState) (session : Session) : Prop :=
  ∀ tunnel serial deviceId entry, session.registration = some (tunnel, serial) →
    state.registered tunnel.deviceId serial = true →
    state.entries.lookup deviceId = some entry → entry.origin = .announced tunnel.deviceId →
    entry.device.route.link = tunnel.handle ∨ session.leaves deviceId = true

end Session

def System.anySession (p : Session → Bool) (s : System) : Bool :=
  s.tasks.any fun
    | .session session => p session
    | .request _ => false

theorem System.anySession_iff {p : Session → Bool} {s : System} :
    s.anySession p = true ↔ ∃ session, .session session ∈ s.tasks ∧ p session = true := by
  simp only [anySession, List.any_eq_true]
  constructor
  · rintro ⟨task, htask, hp⟩
    cases task with
    | session session => exact ⟨session, htask, hp⟩
    | request _ => cases hp
  · rintro ⟨session, htask, hp⟩
    exact ⟨_, htask, hp⟩

/-- Whether an announcement about to be made is installed. -/
def Relay.installs (config : RelayConfig) (relay : Relay) (now : Int) : Job → Bool
  | .announcing linkDeviceId link device _ sequence =>
      (relay.registry.state.announceLocked config.relayId linkDeviceId link device sequence
        now).isSome
  | _ => false

/-- An announcement is installed only if the link has a registered session, whose own tunnel it is
or whose snapshot still has to replace that entry. -/
def linkCurrent (config : RelayConfig) (s : System) : SystemLabel → Bool
  | .advance index choice =>
      match s.tasks[index]? with
      | some (.session session) =>
          !s.shared.installs config choice.now session.job ||
            session.tunnel.all fun tunnel => session.job.announcedId.all fun deviceId =>
              s.anySession (Session.covers s.shared.registry.state tunnel.handle deviceId)
      | _ => true
  | _ => true

structure AnnouncementsInv (config : RelayConfig) (s : System) : Prop where
  tunnels : TunnelsInv config s
  links : s.shared.registry.state.LinksDirect
  current : ∀ session, .session session ∈ s.tasks →
    session.RoutesCurrent s.shared.registry.state

section Steps

variable {config : RelayConfig} {choice : TaskChoice} {relay relay' : Relay}
  {session session' : Session}

theorem SessionStep.leaves (h : SessionStep config choice relay session relay' session')
    (hjob : session.job = .finished) {deviceId : String}
    (hleaves : session.leaves deviceId = true) : session'.leaves deviceId = true := by
  cases h with
  | connected hsession => rcases hsession with rfl | ⟨_, -, rfl⟩ <;> rfl
  | worked hwork _ => exact absurd hjob hwork
  | @received tunnel serial snapshot frame =>
      cases snapshot with
      | awaited =>
          show Session.leaves deviceId
            (.reading tunnel serial _ (Snapshot.receive .awaited _)) = true
          cases controlFrameJob tunnel.handle tunnel.hello.kind frame <;> rfl
      | applying => cases hleaves
      | applied => cases hleaves
  | _ => first | exact hleaves | rfl

theorem Session.leaves_settle {tunnel : Tunnel} {serial : Nat} {job job' : Job}
    {snapshot : Snapshot} {deviceId : String}
    (hmono : job.leaves deviceId = true → job'.leaves deviceId = true)
    (h : (Session.reading tunnel serial job snapshot).leaves deviceId = true) :
    (Session.reading tunnel serial job' (snapshot.settle job')).leaves deviceId = true := by
  cases snapshot with
  | awaited => rfl
  | applied => cases h
  | applying =>
      have hleft : job'.leaves deviceId = true := hmono h
      have hjob : job' ≠ .finished := by
        rintro rfl
        cases hleft
      have hsettle : Snapshot.applying.settle job' = .applying := by simp [Snapshot.settle, hjob]
      rw [hsettle]
      exact hleft

theorem Session.RoutesCurrent.subset {state state' : RegistryState}
    (h : session.RoutesCurrent state)
    (hregistered : ∀ tunnel serial, session.registration = some (tunnel, serial) →
      state'.registered tunnel.deviceId serial = true →
      state.registered tunnel.deviceId serial = true)
    (hentries : ∀ deviceId entry linkDeviceId, state'.entries.lookup deviceId = some entry →
      entry.origin = .announced linkDeviceId → state.entries.lookup deviceId = some entry) :
    session.RoutesCurrent state' :=
  fun tunnel serial deviceId entry hregistration hreg hentry horigin =>
    h tunnel serial deviceId entry hregistration (hregistered _ _ hregistration hreg)
      (hentries _ _ _ hentry horigin) horigin

theorem LinkStep.registered {relayId : String} {link : TunnelHandle} {jobChoice : JobChoice}
    {registry registry' : Registry} {job job' : Job}
    (h : LinkStep relayId link jobChoice registry job registry' job')
    (hs : registry.state.WellFormed) {deviceId : String} {serial : Nat} :
    registry'.state.registered deviceId serial = true ↔
      registry.state.registered deviceId serial = true := by
  simp only [RegistryState.registered_iff]
  constructor
  · rintro ⟨entry, hentry, horigin⟩
    exact ⟨entry, (h.lookup_direct hs horigin).mp hentry, horigin⟩
  · rintro ⟨entry, hentry, horigin⟩
    exact ⟨entry, (h.lookup_direct hs horigin).mpr hentry, horigin⟩

theorem RegistryState.registered_unique {state : RegistryState} {deviceId : String}
    {serial serial' : Nat} (h : state.registered deviceId serial = true)
    (h' : state.registered deviceId serial' = true) : serial = serial' := by
  obtain ⟨entry, hentry, horigin⟩ := RegistryState.registered_iff.mp h
  obtain ⟨entry', hentry', horigin'⟩ := RegistryState.registered_iff.mp h'
  rw [hentry, Option.some.injEq] at hentry'
  subst hentry'
  rw [horigin, Origin.direct.injEq] at horigin'
  exact horigin'

theorem RegistryState.hasTunnel_of_registered {state : RegistryState} {deviceId : String}
    {serial : Nat} (h : state.registered deviceId serial = true) :
    state.hasTunnel deviceId = true := by
  obtain ⟨entry, hentry, horigin⟩ := RegistryState.registered_iff.mp h
  exact RegistryState.hasTunnel_iff.mpr ⟨entry, serial, hentry, horigin⟩

variable {s s' : System} {label : SystemLabel}

theorem TunnelsInv.session_unique (hs : TunnelsInv config s) {tunnel tunnel' : Tunnel}
    {serial : Nat} (hsession : .session session ∈ s.tasks) (hsession' : .session session' ∈ s.tasks)
    (h : session.registration = some (tunnel, serial))
    (h' : session'.registration = some (tunnel', serial)) :
    session = session' ∧ tunnel = tunnel' := by
  have hsame : Task.session session = .session session' :=
    hs.serials.eq_of_mem (k := serial) hsession hsession'
      (Session.tunnel_of_registration h).2 (Session.tunnel_of_registration h').2
  cases hsame
  rw [h, Option.some.injEq, Prod.mk.injEq] at h'
  exact ⟨rfl, h'.1⟩

theorem exists_covers {index : Nat} {device : AnnouncedDevice} {batch : Option Batch}
    {sequence serial : Nat} {tunnel : Tunnel} {snapshot : Snapshot} {state : RegistryState}
    {change : Option RegistryChange} (hok : linkCurrent config s (.advance index choice) = true)
    (htask : s.tasks[index]? = some (.session (.reading tunnel serial
      (.announcing tunnel.handle.deviceId tunnel.handle device batch sequence) snapshot)))
    (hlocked : s.shared.registry.state.announceLocked config.relayId tunnel.handle.deviceId
      tunnel.handle device sequence choice.now = some (state, change)) :
    ∃ session tunnel' serial', .session session ∈ s.tasks ∧
      session.registration = some (tunnel', serial') ∧
      tunnel'.deviceId = tunnel.handle.deviceId ∧
      s.shared.registry.state.registered tunnel'.deviceId serial' = true ∧
      (tunnel'.handle = tunnel.handle ∨ session.leaves device.id = true) := by
  have hcovered : s.anySession
      (Session.covers s.shared.registry.state tunnel.handle device.id) = true := by
    simpa [linkCurrent, htask, Relay.installs, Session.job, Session.tunnel, Job.announcedId,
      hlocked] using hok
  obtain ⟨session, hsession, hcovers⟩ := System.anySession_iff.mp hcovered
  obtain ⟨tunnel', serial', hrest⟩ := Session.covers_iff.mp hcovers
  exact ⟨session, tunnel', serial', hsession, hrest⟩

theorem linksDirect_session {index : Nat} (hs : AnnouncementsInv config s)
    (hok : linkCurrent config s (.advance index choice) = true)
    (htask : s.tasks[index]? = some (.session session))
    (h : SessionStep config choice s.shared session relay' session') :
    relay'.registry.state.LinksDirect := by
  rcases h.state_cases with ⟨hsame, -⟩ | ⟨tunnel, serial, rfl, -, hstate⟩ |
    ⟨tunnel, serial, job, snapshot, job', changes, rfl, hwork, -⟩ |
    ⟨tunnel, serial, snapshot, job, changes, rfl, hleft, -⟩
  · rw [hsame]
    exact hs.links
  · rw [hstate]
    exact hs.links.connectLocked _ _ _ _
  · have hspeaks := (hs.tunnels.sound _ (List.mem_of_getElem? htask)).job tunnel rfl
    rcases (hspeaks.step hwork).state_cases with
      hsame | ⟨device, batch, sequence, change, hjob, hlocked⟩ | ⟨_, _, _, -, hlocked⟩
    · rw [hsame]
      exact hs.links
    · obtain rfl : job = _ := hjob
      obtain ⟨_, tunnel', _, -, -, hid, hregistered, -⟩ := exists_covers hok htask hlocked
      refine hs.links.announceLocked hs.tunnels.wellFormed ?_ hlocked
      exact hid ▸ RegistryState.hasTunnel_of_registered hregistered
    · exact hs.links.withdrawLocked hlocked
  · rcases Job.disconnect_cases hleft with ⟨state, hperm, hlocked, hregistry⟩ | ⟨-, hregistry⟩
    · rw [hregistry]
      exact hs.links.disconnectLocked hperm hlocked
    · rw [hregistry]
      exact hs.links

theorem routesCurrent_moved {index : Nat} (hs : AnnouncementsInv config s)
    (htask : s.tasks[index]? = some (.session session))
    (h : SessionStep config choice s.shared session relay' session') :
    session'.RoutesCurrent relay'.registry.state := by
  have hmem := List.mem_of_getElem? htask
  have hcurrent := hs.current session hmem
  intro tunnel serial deviceId entry hregistration hregistered hentry horigin
  rcases h.state_cases with ⟨hsame, hjob, hreg⟩ | ⟨tunnel', serial', rfl, hreg, hstate⟩ |
    ⟨tunnel', serial', job, snapshot, job', changes, rfl, hwork, rfl⟩ |
    ⟨tunnel', serial', snapshot, job, changes, rfl, hleft, rfl⟩
  · rw [hsame] at hregistered hentry
    rcases hcurrent tunnel serial deviceId entry (hreg ▸ hregistration) hregistered hentry horigin
      with hlink | hleaves
    · exact .inl hlink
    · exact .inr (h.leaves hjob hleaves)
  · exact .inr (h.leaves rfl rfl)
  · obtain ⟨rfl, rfl⟩ := Prod.mk.inj (Option.some.inj hregistration)
    have hsound := hs.tunnels.sound _ hmem
    have hlinkStep := (hsound.job tunnel' rfl).step hwork
    rw [← (hsound.handle tunnel' rfl).1] at horigin
    rcases hlinkStep.leaves hentry horigin with hlink | ⟨hold, hmono⟩
    · exact .inl hlink
    · rw [(hsound.handle tunnel' rfl).1] at horigin
      rcases hcurrent tunnel' serial' deviceId entry rfl
        ((hlinkStep.registered hs.tunnels.wellFormed).mp hregistered) hold horigin
        with hlink | hleaves
      · exact .inl hlink
      · exact .inr (Session.leaves_settle hmono hleaves)
  · cases hregistration

theorem routesCurrent_other {index : Nat} (hs : AnnouncementsInv config s)
    (hok : linkCurrent config s (.advance index choice) = true)
    (htask : s.tasks[index]? = some (.session session))
    (h : SessionStep config choice s.shared session relay' session')
    {i : Nat} (hi : i ≠ index) {other : Session} (hother : s.tasks[i]? = some (.session other)) :
    other.RoutesCurrent relay'.registry.state := by
  have hmem := List.mem_of_getElem? hother
  have hcurrent := hs.current other hmem
  rcases h.state_cases with ⟨hsame, -⟩ | ⟨tunnel', serial', rfl, -, hstate⟩ |
    ⟨tunnel', serial', job, snapshot, job', changes, rfl, hwork, -⟩ |
    ⟨tunnel', serial', snapshot, job, changes, rfl, hleft, -⟩
  · rw [hsame]
    exact hcurrent
  · rw [hstate]
    refine hcurrent.subset (fun tunnel serial hregistration hregistered => ?_)
      fun deviceId entry linkDeviceId hentry horigin => ?_
    · obtain ⟨entry, hentry, horigin⟩ := RegistryState.registered_iff.mp hregistered
      rw [RegistryState.connectLocked_entries] at hentry
      rcases Table.lookup_insert_cases hentry with ⟨-, rfl⟩ | ⟨-, hentry⟩
      · cases horigin
        exact absurd (hs.tunnels.serials i index _ _ serial' hother htask
          (Session.tunnel_of_registration hregistration).2 rfl) hi
      · exact RegistryState.registered_iff.mpr ⟨entry, hentry, horigin⟩
    · rw [RegistryState.connectLocked_entries] at hentry
      rcases Table.lookup_insert_cases hentry with ⟨-, rfl⟩ | ⟨-, hentry⟩
      · cases horigin
      · exact hentry
  · have hspeaks := (hs.tunnels.sound _ (List.mem_of_getElem? htask)).job tunnel' rfl
    have hlinkStep := hspeaks.step hwork
    have hregistered : ∀ tunnel serial, other.registration = some (tunnel, serial) →
        relay'.registry.state.registered tunnel.deviceId serial = true →
        s.shared.registry.state.registered tunnel.deviceId serial = true :=
      fun _ _ _ hreg => (hlinkStep.registered hs.tunnels.wellFormed).mp hreg
    rcases hlinkStep.state_cases with
      hsame | ⟨device, batch, sequence, change, hjob, hlocked⟩ | ⟨_, _, _, -, hlocked⟩
    · rw [hsame]
      exact hcurrent
    · intro tunnel serial deviceId entry hregistration hreg hentry horigin
      have hreg := hregistered tunnel serial hregistration hreg
      rw [(RegistryState.announceLocked_eq_some hlocked).2.1] at hentry
      rcases Table.lookup_insert_cases hentry with ⟨rfl, rfl⟩ | ⟨-, hentry⟩
      · -- The announcement is covered by the registered session of the link, which is this one.
        obtain rfl : job = _ := hjob
        obtain ⟨covering, tunnel₂, serial₂, hcovering, hregistration₂, hid, hreg₂, hcovers⟩ :=
          exists_covers hok htask hlocked
        have hid' : tunnel'.handle.deviceId = tunnel.deviceId := Origin.announced.inj horigin
        rw [hid, hid'] at hreg₂
        obtain rfl := RegistryState.registered_unique hreg hreg₂
        obtain ⟨rfl, rfl⟩ := hs.tunnels.session_unique hmem hcovering hregistration hregistration₂
        rcases hcovers with hhandle | hleaves
        · exact .inl hhandle.symm
        · exact .inr hleaves
      · exact hcurrent tunnel serial deviceId entry hregistration hreg hentry horigin
    · refine hcurrent.subset hregistered fun deviceId entry linkDeviceId hentry _ => ?_
      exact RegistryState.lookup_of_withdrawLocked hlocked hentry
  · refine hcurrent.subset (fun tunnel serial _ hregistered => ?_)
      fun id entry _ hentry _ => Job.lookup_of_disconnect hleft hentry
    obtain ⟨entry, hentry, horigin⟩ := RegistryState.registered_iff.mp hregistered
    exact RegistryState.registered_iff.mpr ⟨entry, Job.lookup_of_disconnect hleft hentry, horigin⟩

theorem announcementsInv_step (hs : AnnouncementsInv config s)
    (hok : linkCurrent config s label = true) (h : System.StepCases config s label s') :
    AnnouncementsInv config s' := by
  have htunnels := tunnelsInv_step h hs.tunnels
  cases h with
  | spawn hstarts =>
      refine ⟨htunnels, hs.links, fun session hsession => ?_⟩
      rcases List.mem_append.mp hsession with hold | hnew
      · exact hs.current session hold
      · rw [← List.mem_singleton.mp hnew] at hstarts
        cases session <;> cases hstarts
        exact fun _ _ _ _ hregistration => nomatch hregistration
  | session htask h =>
      refine ⟨htunnels, linksDirect_session hs hok htask h, fun other hother => ?_⟩
      rcases mem_set_cases hother with heq | ⟨i, hi, hold⟩
      · cases heq
        exact routesCurrent_moved hs htask h
      · exact routesCurrent_other hs hok htask h hi hold
  | request htask h =>
      have hstate := congrArg Registry.state h.registry_eq
      refine ⟨htunnels, hstate ▸ hs.links, fun other hother => ?_⟩
      rcases mem_set_cases hother with heq | ⟨i, -, hold⟩
      · cases heq
      · exact hstate ▸ hs.current other (List.mem_of_getElem? hold)
  | channel h =>
      have hstate := congrArg Registry.state (Relay.channelStep_eq_some h).2.1
      exact ⟨htunnels, hstate ▸ hs.links, fun other hother => hstate ▸ hs.current other hother⟩

theorem announcementsInv_init (config : RelayConfig) (database : Database) :
    AnnouncementsInv config (System.init database) where
  tunnels := tunnelsInv_init config database
  links := RegistryState.linksDirect_empty
  current _ h := nomatch h

end Steps

/-- In every run that respects `linkCurrent`: once the snapshot of a registered session is applied,
every entry its link announced leads over its tunnel; and of a link without a session that has yet
to deregister, no entry and no withdrawn device is left. -/
theorem link_routes_current (config : RelayConfig) (database : Database)
    (labels : List SystemLabel) (s : System)
    (hrun : run (System.step config) (System.init database) labels = some s)
    (hok : Meets (System.step config) (fun s label => linkCurrent config s label = true)
      (System.init database) labels) :
    (∀ session tunnel serial deviceId entry, .session session ∈ s.tasks →
      session.registration = some (tunnel, serial) →
      s.shared.registry.state.registered tunnel.deviceId serial = true →
      session.snapshot = .applied →
      s.shared.registry.state.entries.lookup deviceId = some entry →
      entry.origin = .announced tunnel.deviceId → entry.device.route.link = tunnel.handle) ∧
    (∀ linkDeviceId, (∀ session tunnel serial, .session session ∈ s.tasks →
      session.registration = some (tunnel, serial) → tunnel.deviceId ≠ linkDeviceId) →
      (∀ deviceId entry, s.shared.registry.state.entries.lookup deviceId = some entry →
        entry.origin ≠ .announced linkDeviceId) ∧
      ∀ deviceId device, s.shared.registry.state.withdrawn.lookup deviceId = some device →
        device.linkDeviceId ≠ linkDeviceId) := by
  have hinv : AnnouncementsInv config s :=
    run_invariant
      (fun _ _ _ hs hok hstep => announcementsInv_step hs hok (System.step_eq_some hstep))
      (announcementsInv_init config database) hok hrun
  constructor
  · intro session tunnel serial deviceId entry hsession hregistration hregistered hsnapshot hentry
      horigin
    rcases hinv.current session hsession tunnel serial deviceId entry hregistration hregistered
      hentry horigin with hlink | hleaves
    · exact hlink
    · simp [Session.leaves, hsnapshot] at hleaves
  · intro linkDeviceId hended
    have hnone : s.shared.registry.state.hasTunnel linkDeviceId ≠ true := by
      intro htunnel
      obtain ⟨entry, serial, hentry, horigin⟩ := RegistryState.hasTunnel_iff.mp htunnel
      obtain ⟨session, tunnel, hsession, hregistration, hid, -⟩ :=
        hinv.tunnels.direct linkDeviceId entry serial hentry horigin
      exact hended session tunnel serial hsession hregistration hid
    constructor
    · intro deviceId entry hentry horigin
      exact hnone (hinv.links.entries deviceId entry linkDeviceId hentry horigin)
    · rintro deviceId device hdevice rfl
      exact hnone (hinv.links.withdrawn deviceId device hdevice)

/-! ## Concrete runs of one link -/

def openLink : List SystemLabel :=
  System.enrollDevice 0 .relay none "ABCD-EFGH-JKLM" "relay-b" ++
    System.acceptTunnel 2 .relay "relay-b" ++ System.registerTunnel 2

def applyEmpty (index : Nat) : List SystemLabel :=
  [.advance index { received := .frame (.announce []) }, .advance index {}]

def endSession (index channel : Nat) (order : List String) : List SystemLabel :=
  [.advance index { received := .ended }, .advance index {}, .environment (.stop channel),
    .advance index {}, .advance index { order }, .advance index {}]

def announceOverLink : List SystemLabel :=
  openLink ++ applyEmpty 2 ++ System.announceDevice 2 "device-d"

def System.settled (handle : TunnelHandle) (s : System) : Bool :=
  s.anySession fun session => decide (session.snapshot = .applied) &&
    session.registration.any fun r =>
      decide (r.1.handle = handle ∧ r.1.deviceId = handle.deviceId) &&
      s.shared.registry.state.registered r.1.deviceId r.2

def System.holds (linkDeviceId : String) (s : System) : Bool :=
  s.anySession fun session => session.registration.any fun r => decide (r.1.deviceId = linkDeviceId)

theorem System.exists_of_settled {handle : TunnelHandle} {s : System}
    (h : s.settled handle = true) : ∃ session tunnel serial, .session session ∈ s.tasks ∧
      session.registration = some (tunnel, serial) ∧ session.snapshot = .applied ∧
      tunnel.handle = handle ∧ tunnel.deviceId = handle.deviceId ∧
      s.shared.registry.state.registered tunnel.deviceId serial = true := by
  rw [settled, System.anySession_iff] at h
  obtain ⟨session, hsession, h⟩ := h
  simp only [Bool.and_eq_true, decide_eq_true_eq, Option.any_eq_true] at h
  obtain ⟨hsnapshot, ⟨tunnel, serial⟩, hregistration, ⟨hhandle, hid⟩, hregistered⟩ := h
  exact ⟨session, tunnel, serial, hsession, hregistration, hsnapshot, hhandle, hid, hregistered⟩

theorem System.holds_eq_false {linkDeviceId : String} {s : System} :
    s.holds linkDeviceId = false ↔ ∀ session tunnel serial, .session session ∈ s.tasks →
      session.registration = some (tunnel, serial) → tunnel.deviceId ≠ linkDeviceId := by
  rw [← Bool.not_eq_true, holds, System.anySession_iff]
  constructor
  · intro h session tunnel serial hsession hregistration hid
    exact h ⟨session, hsession, by simp [hregistration, hid]⟩
  · rintro h ⟨session, hsession, hany⟩
    obtain ⟨⟨tunnel, serial⟩, hregistration, hid⟩ := (Option.any_eq_true _ _).mp hany
    exact h session tunnel serial hsession hregistration (of_decide_eq_true hid)

/-- The announced device is routed over the session's tunnel, and no longer once it has ended. -/
theorem link_routes_current_announced :
    (∃ s, run (System.step System.plainConfig) (System.init .empty) announceOverLink = some s ∧
      ∃ entry, s.shared.registry.state.entries.lookup "device-d" = some entry ∧
        entry.device.route.link = ⟨"relay-b", 0⟩) ∧
    ∃ s, run (System.step System.plainConfig) (System.init .empty)
        (announceOverLink ++ endSession 2 0 ["device-d"]) = some s ∧
      ∀ deviceId entry, s.shared.registry.state.entries.lookup deviceId = some entry →
        entry.origin ≠ .announced "relay-b" := by
  constructor
  · obtain ⟨s, hrun, hsettled, hannounced⟩ := exists_run (System.step System.plainConfig)
      (System.init .empty) announceOverLink
      (fun s => s.settled ⟨"relay-b", 0⟩ = true ∧
        (s.shared.registry.state.entries.lookup "device-d").any
          (fun entry => decide (entry.origin = .announced "relay-b")) = true) (by decide)
    obtain
      ⟨session, tunnel, serial, hsession, hregistration, hsnapshot, hhandle, hid, hregistered⟩ :=
      System.exists_of_settled hsettled
    obtain ⟨entry, hentry, horigin⟩ := (Option.any_eq_true _ _).mp hannounced
    have horigin : entry.origin = .announced tunnel.deviceId := hid ▸ of_decide_eq_true horigin
    have hlink := (link_routes_current System.plainConfig .empty announceOverLink s hrun
      (by decide)).1 session tunnel serial "device-d" entry hsession hregistration
      hregistered hsnapshot hentry horigin
    exact ⟨s, hrun, entry, hentry, hlink.trans hhandle⟩
  · obtain ⟨s, hrun, hended⟩ := exists_run (System.step System.plainConfig)
      (System.init .empty) (announceOverLink ++ endSession 2 0 ["device-d"])
      (fun s => s.holds "relay-b" = false) (by decide)
    exact ⟨s, hrun, ((link_routes_current System.plainConfig .empty _ s hrun
      (by decide)).2 "relay-b" (System.holds_eq_false.mp hended)).1⟩

/-- Task 2 has numbered an announcement when task 3 registers for the same link. -/
def displaceAnnouncing : List SystemLabel :=
  openLink ++
    [.advance 2 { received := .frame (.deviceOnline "device-d" "desk" ["relay-b"]) },
      .advance 2 {}] ++
    System.acceptTunnel 3 .relay "relay-b" ++ System.registerTunnel 3 ++ [.advance 3 {}]

/-- The displaced session installs its tunnel over the applied snapshot of the new one, and installs
an entry that no session is left to remove. -/
theorem link_routes_displaced :
    (¬ ∀ (config : RelayConfig) (database : Database) (labels : List SystemLabel) (s : System),
      run (System.step config) (System.init database) labels = some s →
      ∀ session tunnel serial deviceId entry, .session session ∈ s.tasks →
        session.registration = some (tunnel, serial) →
        s.shared.registry.state.registered tunnel.deviceId serial = true →
        session.snapshot = .applied →
        s.shared.registry.state.entries.lookup deviceId = some entry →
        entry.origin = .announced tunnel.deviceId → entry.device.route.link = tunnel.handle) ∧
    ¬ ∀ (config : RelayConfig) (database : Database) (labels : List SystemLabel) (s : System),
      run (System.step config) (System.init database) labels = some s →
      ∀ linkDeviceId, (∀ session tunnel, .session session ∈ s.tasks →
        session.tunnel = some tunnel → tunnel.deviceId = linkDeviceId →
        session = .ended (some tunnel)) →
        ∀ deviceId entry, s.shared.registry.state.entries.lookup deviceId = some entry →
          entry.origin ≠ .announced linkDeviceId := by
  constructor
  · intro h
    obtain ⟨s, hrun, hsettled, hstale⟩ := exists_run (System.step System.plainConfig)
      (System.init .empty) (displaceAnnouncing ++ applyEmpty 3 ++ [.advance 2 {}])
      (fun s => s.settled ⟨"relay-b", 1⟩ = true ∧
        (s.shared.registry.state.entries.lookup "device-d").any
          (fun entry => decide (entry.origin = .announced "relay-b" ∧
            entry.device.route.link = ⟨"relay-b", 0⟩)) = true) (by decide)
    obtain
      ⟨session, tunnel, serial, hsession, hregistration, hsnapshot, hhandle, hid, hregistered⟩ :=
      System.exists_of_settled hsettled
    obtain ⟨entry, hentry, hold⟩ := (Option.any_eq_true _ _).mp hstale
    obtain ⟨horigin, hlink⟩ := of_decide_eq_true hold
    have hlink' := h System.plainConfig .empty _ s hrun session tunnel serial "device-d" entry
      hsession hregistration hregistered hsnapshot hentry (hid ▸ horigin)
    rw [hlink, hhandle] at hlink'
    exact absurd hlink' (by decide)
  · intro h
    obtain ⟨s, hrun, hended, hstale⟩ := exists_run (System.step System.plainConfig)
      (System.init .empty)
      (displaceAnnouncing ++ endSession 3 1 [] ++ [.advance 2 {}] ++ endSession 2 0 ["device-d"])
      (fun s => s.anySession (fun session => session.tunnel.any fun tunnel =>
          decide (session ≠ .ended (some tunnel))) = false ∧
        (s.shared.registry.state.entries.lookup "device-d").any
          (fun entry => decide (entry.origin = .announced "relay-b")) = true) (by decide)
    obtain ⟨entry, hentry, horigin⟩ := (Option.any_eq_true _ _).mp hstale
    refine h System.plainConfig .empty _ s hrun "relay-b"
      (fun session tunnel hsession htunnel _ => ?_)
      "device-d" entry hentry (of_decide_eq_true horigin)
    by_contra hne
    rw [System.anySession_iff.mpr ⟨session, hsession, by simp [htunnel, hne]⟩] at hended
    cases hended

end TermexoRelay
