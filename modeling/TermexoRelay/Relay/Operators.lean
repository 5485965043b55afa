import TermexoRelay.Relay.Tunnels

/-!
# Whose tunnel an operator action closes

Revoking and disconnecting act on `route(d).link()`. For a direct route that is the device's own
tunnel; for an announced one it is the link of the downstream relay that announced the device.
-/

namespace TermexoRelay

open Transition

/-- Every route leads over the tunnel of some session, a direct one over its device's own. -/
def RouteOwned (s : System) : Prop :=
  ∀ deviceId route, s.shared.registry.state.route deviceId = some route →
    ∃ session tunnel, .session session ∈ s.tasks ∧ session.tunnel = some tunnel ∧
      tunnel.handle = route.link ∧ (route.isDirect = true → tunnel.deviceId = deviceId)

/-- Every message a request is about to send goes to a tunnel of the device it is about. -/
def TargetOwned (s : System) : Prop :=
  ∀ request deviceId handle, .request request ∈ s.tasks →
    request.target = some (deviceId, handle) →
    ∃ session tunnel, .session session ∈ s.tasks ∧ session.tunnel = some tunnel ∧
      tunnel.handle = handle ∧ tunnel.deviceId = deviceId

/-- The device a request looks the route of up next. -/
def Request.looksUp : Request → Option String
  | .revoking deviceId _ _ .route => some deviceId
  | .routing deviceId => some deviceId
  | _ => none

theorem Request.target_of_starts {request : Request} (h : request.starts = true) :
    request.target = none := by
  cases request <;> first | rfl | cases h

/-- No other tunnel's device is reached for: an operator action looks up no route over the link of
another device. -/
def ownRoute (s : System) : SystemLabel → Bool
  | .advance index _ =>
      match s.tasks[index]? with
      | some (.request request) => request.looksUp.all fun deviceId =>
          match s.shared.registry.state.route deviceId with
          | some (.via link _) => link.deviceId = deviceId
          | _ => true
      | _ => true
  | _ => true

section Steps

variable {config : RelayConfig} {choice : TaskChoice} {s s' : System} {label : SystemLabel}

theorem exists_tunnel_step (h : System.StepCases config s label s') {tunnel : Tunnel}
    (hex : ∃ session, .session session ∈ s.tasks ∧ session.tunnel = some tunnel) :
    ∃ session, .session session ∈ s'.tasks ∧ session.tunnel = some tunnel := by
  obtain ⟨session, hsession, htunnel⟩ := hex
  have hex : ∃ t ∈ s.tasks, ∃ session, t = .session session ∧ session.tunnel = some tunnel :=
    ⟨_, hsession, session, rfl, htunnel⟩
  cases h with
  | spawn _ => exact ⟨session, List.mem_append_left _ hsession, htunnel⟩
  | session htask h =>
      obtain ⟨t, ht, other, rfl, htunnel⟩ := exists_mem_set _ htask hex
        fun ⟨_, heq, htunnel⟩ => by
          cases heq
          exact ⟨_, rfl, h.tunnel_persists htunnel⟩
      exact ⟨other, ht, htunnel⟩
  | request htask _ =>
      obtain ⟨t, ht, other, rfl, htunnel⟩ := exists_mem_set _ htask hex
        fun ⟨_, heq, _⟩ => nomatch heq
      exact ⟨other, ht, htunnel⟩
  | channel _ => exact ⟨session, hsession, htunnel⟩

theorem routeOwned_step (hinv : TunnelsInv config s) (hs : RouteOwned s)
    (h : System.StepCases config s label s') : RouteOwned s' := by
  intro deviceId route hroute
  have hold : s.shared.registry.state.route deviceId = some route →
      ∃ session tunnel, .session session ∈ s'.tasks ∧ session.tunnel = some tunnel ∧
        tunnel.handle = route.link ∧ (route.isDirect = true → tunnel.deviceId = deviceId) := by
    intro hroute
    obtain ⟨session, tunnel, hsession, htunnel, hrest⟩ := hs deviceId route hroute
    obtain ⟨session', hsession', htunnel'⟩ := exists_tunnel_step h ⟨session, hsession, htunnel⟩
    exact ⟨session', tunnel, hsession', htunnel', hrest⟩
  cases h with
  | spawn _ => exact hold hroute
  | request _ h => exact hold (h.registry_eq ▸ hroute)
  | channel h => exact hold ((Relay.channelStep_eq_some h).2.1 ▸ hroute)
  | session htask h =>
      rcases h.route_cases (hinv.sound _ (List.mem_of_getElem? htask)) hroute with
        hsame | ⟨tunnel, htunnel, hlink, hdirect⟩
      · exact hold hsame
      · exact ⟨_, tunnel, mem_set_self htask, h.tunnel_persists htunnel, hlink.symm,
          fun hisDirect => (hdirect hisDirect).1⟩

theorem RequestStep.target_cases {relay relay' : Relay} {request request' : Request}
    (h : RequestStep config choice relay request relay' request') {deviceId : String}
    {handle : TunnelHandle} (htarget : request'.target = some (deviceId, handle)) :
    request.target = some (deviceId, handle) ∨
      request.looksUp = some deviceId ∧ ∃ route,
        relay.registry.state.route deviceId = some route ∧ route.link = handle := by
  have hnext : ∀ tail remaining, (Request.revokeNext tail remaining).target = none := by
    intro tail remaining
    cases remaining with
    | cons _ _ => rfl
    | nil => cases tail <;> rfl
  cases h with
  | routed h =>
      cases htarget
      exact .inr ⟨rfl, _, h, rfl⟩
  | disconnectionRouted h =>
      cases htarget
      exact .inr ⟨rfl, _, h, rfl⟩
  | framed => exact .inl htarget
  | listed _ =>
      rw [hnext] at htarget
      cases htarget
  | unrouted _ =>
      rw [hnext] at htarget
      cases htarget
  | closed =>
      rw [hnext] at htarget
      cases htarget
  | userUpdated =>
      split at htarget <;> cases htarget
  | signedOut _ =>
      split at htarget <;> cases htarget
  | issued _ _ hrequest =>
      rcases hrequest with rfl | ⟨_, rfl⟩ <;> cases htarget
  | burned _ hrequest =>
      rcases hrequest with rfl | rfl <;> cases htarget
  | _ => cases htarget

theorem targetOwned_step (hinv : TunnelsInv config s) (hroutes : RouteOwned s)
    (hs : TargetOwned s) (hok : ownRoute s label = true) (h : System.StepCases config s label s') :
    TargetOwned s' := by
  intro request deviceId handle hrequest htarget
  have hold : ∀ request, .request request ∈ s.tasks → request.target = some (deviceId, handle) →
      ∃ session tunnel, .session session ∈ s'.tasks ∧ session.tunnel = some tunnel ∧
        tunnel.handle = handle ∧ tunnel.deviceId = deviceId := by
    intro request hrequest htarget
    obtain ⟨session, tunnel, hsession, htunnel, hrest⟩ :=
      hs request deviceId handle hrequest htarget
    obtain ⟨session', hsession', htunnel'⟩ := exists_tunnel_step h ⟨session, hsession, htunnel⟩
    exact ⟨session', tunnel, hsession', htunnel', hrest⟩
  have hcases := h
  cases h with
  | spawn hstarts =>
      rcases List.mem_append.mp hrequest with hmem | hnew
      · exact hold request hmem htarget
      · rw [← List.mem_singleton.mp hnew] at hstarts
        rw [Request.target_of_starts hstarts] at htarget
        cases htarget
  | session htask _ =>
      rcases mem_set_cases hrequest with heq | ⟨i, -, hi⟩
      · cases heq
      · exact hold request (List.mem_of_getElem? hi) htarget
  | channel _ => exact hold request hrequest htarget
  | request htask h =>
      rcases mem_set_cases hrequest with heq | ⟨i, -, hi⟩
      · cases heq
        rcases h.target_cases htarget with hsame | ⟨hlooks, route, hroute, rfl⟩
        · exact hold _ (List.mem_of_getElem? htask) hsame
        · obtain ⟨session, tunnel, hsession, htunnel, hhandle, hdirect⟩ :=
            hroutes deviceId route hroute
          obtain ⟨session', hsession', htunnel'⟩ :=
            exists_tunnel_step hcases ⟨session, hsession, htunnel⟩
          refine ⟨session', tunnel, hsession', htunnel', hhandle, ?_⟩
          cases route with
          | direct handle => exact hdirect rfl
          | via link hops =>
              simp only [ownRoute, htask, hlooks, hroute, Option.all_some, decide_eq_true_eq] at hok
              have hid := ((hinv.sound session hsession).handle tunnel htunnel).1
              rw [← hid, hhandle]
              exact hok
      · exact hold request (List.mem_of_getElem? hi) htarget

/-- The invariants the frame property rests on. -/
structure OperatorsInv (config : RelayConfig) (s : System) : Prop where
  tunnels : TunnelsInv config s
  routes : RouteOwned s
  targets : TargetOwned s

theorem operatorsInv_step (hs : OperatorsInv config s) (hok : ownRoute s label = true)
    (h : System.StepCases config s label s') : OperatorsInv config s' where
  tunnels := tunnelsInv_step h hs.tunnels
  routes := routeOwned_step hs.tunnels hs.routes h
  targets := targetOwned_step hs.tunnels hs.routes hs.targets hok h

theorem operatorsInv_init (config : RelayConfig) (database : Database) :
    OperatorsInv config (System.init database) where
  tunnels := tunnelsInv_init config database
  routes deviceId route h := by
    rw [RegistryState.route, System.init, Registry.new, RegistryState.empty, AList.lookup_empty]
      at h
    cases h
  targets _ _ _ h := nomatch h

end Steps

/-- In every run that respects `ownRoute`: an action of a request puts a message on the tunnel of a
session only if that session authenticated as the device the request is about, and such a session
exists; every other tunnel and the registry are left as they are. -/
theorem operator_action_frame (config : RelayConfig) (database : Database)
    (labels : List SystemLabel) (s s' : System) (index : Nat) (choice : TaskChoice)
    (request : Request)
    (hrun : run (System.step config) (System.init database) labels = some s)
    (hok : Meets (System.step config) (fun s label => ownRoute s label = true)
      (System.init database) labels)
    (htask : s.tasks[index]? = some (.request request))
    (hstep : System.step config s (.advance index choice) = some s') :
    (∀ deviceId handle, request.target = some (deviceId, handle) →
      ∃ session tunnel, .session session ∈ s.tasks ∧ session.tunnel = some tunnel ∧
        tunnel.handle = handle ∧ tunnel.deviceId = deviceId ∧
        Authenticated config s.shared.database tunnel.peer) ∧
    (∀ session tunnel, .session session ∈ s.tasks → session.tunnel = some tunnel →
      s'.shared.channels[tunnel.handle.channel]? ≠ s.shared.channels[tunnel.handle.channel]? →
      request.target = some (tunnel.deviceId, tunnel.handle)) ∧
    s'.shared.registry = s.shared.registry := by
  have hinv : OperatorsInv config s :=
    run_invariant (fun _ _ _ hs hok hstep => operatorsInv_step hs hok (System.step_eq_some hstep))
      (operatorsInv_init config database) hok hrun
  have howned : ∀ deviceId handle, request.target = some (deviceId, handle) →
      ∃ session tunnel, .session session ∈ s.tasks ∧ session.tunnel = some tunnel ∧
        tunnel.handle = handle ∧ tunnel.deviceId = deviceId :=
    fun deviceId handle => hinv.targets request deviceId handle (List.mem_of_getElem? htask)
  refine ⟨fun deviceId handle htarget => ?_, fun session tunnel hsession htunnel hchanged => ?_, ?_⟩
  · obtain ⟨session, tunnel, hsession, htunnel, hhandle, hid⟩ := howned deviceId handle htarget
    exact ⟨session, tunnel, hsession, htunnel, hhandle, hid,
      (hinv.tunnels.sound session hsession).authenticated _ (Session.peer_of_tunnel htunnel)⟩
  · cases System.step_eq_some hstep with
    | session htask' _ =>
        rw [htask] at htask'
        cases htask'
    | request htask' h =>
        rw [htask, Option.some.injEq, Task.request.injEq] at htask'
        subst htask'
        rcases h.channels_cases with hsame | ⟨deviceId, handle, message, htarget, rfl⟩
        · exact absurd (congrArg (·[tunnel.handle.channel]?) hsame) hchanged
        · obtain ⟨session', tunnel', hsession', htunnel', rfl, rfl⟩ :=
            howned deviceId handle htarget
          have hchannel : tunnel'.handle.channel = tunnel.handle.channel := by
            by_contra hne
            exact hchanged (by rw [Relay.getElem?_trySend, if_neg hne])
          rw [← hinv.tunnels.tunnel_unique hsession' hsession htunnel' htunnel hchannel]
          exact htarget
  · cases System.step_eq_some hstep with
    | session htask' _ =>
        rw [htask] at htask'
        cases htask'
    | request _ h => exact h.registry_eq

def revokeOwnTunnel : List SystemLabel :=
  System.enrollDevice 0 .desktop none "ABCD-EFGH-JKLM" "device-a" ++
    System.acceptTunnel 2 .desktop "device-a" ++ System.registerTunnel 2 ++
    System.revokeUpToFrame 3 "device-a"

theorem operator_action_frame_own :
    ∃ s, run (System.step System.plainConfig) (System.init .empty) revokeOwnTunnel = some s ∧
      ∃ session tunnel, .session session ∈ s.tasks ∧ session.tunnel = some tunnel ∧
        tunnel.handle = ⟨"device-a", 0⟩ ∧ tunnel.deviceId = "device-a" := by
  obtain ⟨s, hrun, htask, hsome⟩ := exists_run (System.step System.plainConfig)
    (System.init .empty) revokeOwnTunnel
    (fun s => s.tasks[3]? =
        some (.request (.revoking "device-a" [] .reply (.frame ⟨"device-a", 0⟩))) ∧
      (System.step System.plainConfig s (.advance 3 {})).isSome = true) (by decide)
  obtain ⟨s', hstep⟩ := Option.isSome_iff_exists.mp hsome
  obtain ⟨session, tunnel, hsession, htunnel, hhandle, hid, -⟩ :=
    (operator_action_frame System.plainConfig .empty revokeOwnTunnel s s' 3 {} _ hrun
      (by decide) htask hstep).1 "device-a" ⟨"device-a", 0⟩ rfl
  exact ⟨s, hrun, session, tunnel, hsession, htunnel, hhandle, hid⟩

def relayTunnel : Tunnel where
  peer :=
    { credential := ⟨"relay-b", "secret"⟩
      device := Database.newDevice ⟨"relay-b", .relay, "desk", none, "secret", none⟩ 0
      ip := "203.0.113.5" }
  hello := ⟨.relay, "1.0", none⟩
  handle := ⟨"relay-b", 0⟩

/-- A downstream relay announces an enrolled device that is offline, and the operator revokes
that device. -/
def revokeAnnounced : List SystemLabel :=
  System.enrollDevice 0 .desktop none "ABCD-EFGH-JKLM" "device-a" ++
    System.enrollDevice 2 .relay none "NPQR-STUV-WXYZ" "relay-b" ++
    System.acceptTunnel 4 .relay "relay-b" ++ System.registerTunnel 4 ++
    System.announceDevice 4 "device-a" ++ System.revokeUpToFrame 5 "device-a"

/-- The link of the downstream relay is told that it is revoked. -/
theorem operator_action_reaches_link :
    ¬ ∀ (config : RelayConfig) (database : Database) (labels : List SystemLabel) (s s' : System)
      (index : Nat) (choice : TaskChoice) (request : Request),
      run (System.step config) (System.init database) labels = some s →
      s.tasks[index]? = some (.request request) →
      System.step config s (.advance index choice) = some s' →
      ∀ session tunnel, .session session ∈ s.tasks → session.tunnel = some tunnel →
        s'.shared.channels[tunnel.handle.channel]? ≠
          s.shared.channels[tunnel.handle.channel]? →
        request.target = some (tunnel.deviceId, tunnel.handle) := by
  intro h
  obtain ⟨s, hrun, htask, hsession, hstep⟩ := exists_run (System.step System.plainConfig)
    (System.init .empty) revokeAnnounced
    (fun s => s.tasks[5]? =
        some (.request (.revoking "device-a" [] .reply (.frame ⟨"relay-b", 0⟩))) ∧
      .session (.reading relayTunnel 0 .finished .awaited) ∈ s.tasks ∧
      (System.step System.plainConfig s (.advance 5 {})).any
        (fun s' => decide (s'.shared.channels[0]? ≠ s.shared.channels[0]?)) = true)
    (by decide)
  obtain ⟨s', hstep, hchanged⟩ := (Option.any_eq_true _ _).mp hstep
  have htarget := h System.plainConfig .empty revokeAnnounced s s' 5 {} _ hrun htask hstep _
    relayTunnel hsession rfl (of_decide_eq_true hchanged)
  exact absurd htarget (by decide)

end TermexoRelay
