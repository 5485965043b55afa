import TermexoRelay.Relay.Tunnels

/-!
# Revocation against a tunnel that is coming up

A tunnel is authenticated against its row some time before it is registered, and a revocation looks
the route up once, after it has marked the row. A close is an attempt on a bounded queue.
-/

namespace TermexoRelay

open Transition

def revokedClose : Outgoing := .close .revoked REVOKED_REASON

/-- Whether the device has a row and the row is revoked. -/
def Database.isRevoked (db : Database) (deviceId : String) : Bool :=
  (db.standing deviceId).any Standing.revoked

def Relay.wasGiven (relay : Relay) (channel : Nat) (message : Outgoing) : Bool :=
  relay.channels[channel]?.any fun c => decide (c.Given message)

theorem Relay.wasGiven_iff {relay : Relay} {channel : Nat} {message : Outgoing} :
    relay.wasGiven channel message = true ↔ relay.Given channel message := by
  simp only [wasGiven, Given, Option.any_eq_true, decide_eq_true_eq]

namespace Request

/-- A revocation of the device that has marked the row and not looked the route up yet. -/
def awaitsRoute (deviceId : String) : Request → Bool
  | .revoking id _ _ .route => id = deviceId
  | _ => false

/-- A revocation of the device that still closes this tunnel if it is the registered one. -/
def WillClose (deviceId : String) (handle : TunnelHandle) : Request → Prop
  | .revoking id _ _ .route => id = deviceId
  | .revoking id _ _ (.frame handle') => id = deviceId ∧ handle' = handle
  | .revoking id _ _ (.close handle') => id = deviceId ∧ handle' = handle
  | _ => False

/-- A revocation of the device between its first and its last action. -/
def isRevoking (deviceId : String) : Request → Bool
  | .revoking id _ _ _ => id = deviceId
  | _ => false

theorem WillClose.isRevoking {deviceId : String} {handle : TunnelHandle} {request : Request}
    (h : request.WillClose deviceId handle) : request.isRevoking deviceId = true := by
  cases request with
  | revoking id remaining tail stage =>
      cases stage with
      | row => cases h
      | route => exact decide_eq_true h
      | frame handle' => exact decide_eq_true h.1
      | close handle' => exact decide_eq_true h.1
  | _ => cases h

theorem WillClose.not_canStop {deviceId : String} {handle : TunnelHandle} {request : Request}
    (h : request.WillClose deviceId handle) : request.canStop = false := by
  cases request with
  | revoking id remaining tail stage =>
      cases stage with
      | row => cases h
      | _ => rfl
  | _ => cases h

end Request

def System.anyRequest (p : Request → Bool) (s : System) : Bool :=
  s.tasks.any fun
    | .request request => p request
    | .session _ => false

theorem System.anyRequest_iff {p : Request → Bool} {s : System} :
    s.anyRequest p = true ↔ ∃ request, .request request ∈ s.tasks ∧ p request = true := by
  simp only [anyRequest, List.any_eq_true]
  constructor
  · rintro ⟨task, htask, hp⟩
    cases task with
    | session _ => cases hp
    | request request => exact ⟨request, htask, hp⟩
  · rintro ⟨request, htask, hp⟩
    exact ⟨_, htask, hp⟩

/-- What a step has to respect for no revoked device to keep its tunnel: a tunnel whose row is
revoked by now is registered only while a revocation of it still has to look the route up; a
revocation that closes the registered tunnel finds room in its queue; and the row that lost its code
has no tunnel. -/
def revocationSeen (s : System) : SystemLabel → Bool
  | .advance index _ =>
      match s.tasks[index]? with
      | some (.session (.numbered tunnel _)) =>
          !s.shared.database.isRevoked tunnel.deviceId ||
            s.anyRequest (Request.awaitsRoute tunnel.deviceId)
      | some (.request (.revoking deviceId _ _ (.close handle))) =>
          s.shared.accepts handle || s.shared.wasGiven handle.channel revokedClose ||
            decide (s.shared.registry.state.route deviceId ≠ some (.direct handle))
      | some (.request (.discarding deviceId)) =>
          !(s.shared.registry.state.route deviceId).any Route.isDirect
      | _ => true
  | _ => true

/-- The registered tunnel of a revoked device was given a close, or is about to be. -/
def RevokedCovered (s : System) : Prop :=
  ∀ deviceId row handle, s.shared.database.standing deviceId = some row → row.revoked = true →
    s.shared.registry.state.route deviceId = some (.direct handle) →
    s.shared.Given handle.channel revokedClose ∨
      ∃ request, .request request ∈ s.tasks ∧ request.WillClose deviceId handle

section Steps

variable {config : RelayConfig} {choice : TaskChoice} {relay relay' : Relay}
  {request request' : Request}

theorem RequestStep.revoked_new (h : RequestStep config choice relay request relay' request')
    {deviceId : String} {row' : Standing}
    (hrow' : relay'.database.standing deviceId = some row') (hrevoked : row'.revoked = true) :
    (∃ row, relay.database.standing deviceId = some row ∧ row.revoked = true) ∨
      (∃ remaining tail, request = .revoking deviceId remaining tail .row ∧
        request' = .revoking deviceId remaining tail .route) ∨
      request = .discarding deviceId := by
  cases h.standingChange with
  | none hsame => exact .inl ⟨row', hsame ▸ hrow', hrevoked⟩
  | created _ hcreate =>
      rw [(Database.createDevice_eq_ok hcreate).2.2.2] at hrow'
      split at hrow'
      · rw [← Option.some.inj hrow'] at hrevoked
        cases hrevoked
      · exact .inl ⟨row', hrow', hrevoked⟩
  | disowned hdisown =>
      rw [(Database.disownDevicesOf_eq_ok hdisown).2] at hrow'
      obtain ⟨row, hrow, rfl⟩ := Option.map_eq_some_iff.mp hrow'
      refine .inl ⟨row, hrow, ?_⟩
      split at hrevoked <;> exact hrevoked
  | @revoked _ id _ hrequest hrevoke =>
      by_cases hid : deviceId = id
      · subst hid
        rcases hrequest with ⟨remaining, tail, rfl⟩ | rfl
        · cases h with
          | failed _ _ => exact .inl ⟨row', hrow', hrevoked⟩
          | rowRevoked _ => exact .inr (.inl ⟨remaining, tail, rfl, rfl⟩)
        · exact .inr (.inr rfl)
      · rw [(Database.revokeDevice_eq_ok hrevoke).2, if_neg hid] at hrow'
        exact .inl ⟨row', hrow', hrevoked⟩

theorem RequestStep.willClose (h : RequestStep config choice relay request relay' request')
    {deviceId : String} {handle : TunnelHandle} (hwill : request.WillClose deviceId handle)
    (hroute : relay.registry.state.route deviceId = some (.direct handle))
    (hroom : (∃ remaining tail, request = .revoking deviceId remaining tail (.close handle)) →
      relay.accepts handle = true ∨ relay.Given handle.channel revokedClose) :
    relay'.Given handle.channel revokedClose ∨ request'.WillClose deviceId handle := by
  cases h with
  | routed h =>
      obtain rfl : _ = deviceId := hwill
      rw [h, Option.some.injEq] at hroute
      subst hroute
      exact .inr ⟨rfl, rfl⟩
  | unrouted h =>
      obtain rfl : _ = deviceId := hwill
      rw [h] at hroute
      cases hroute
  | framed => exact .inr hwill
  | closed =>
      obtain ⟨rfl, rfl⟩ := hwill
      left
      rcases hroom ⟨_, _, rfl⟩ with haccepts | hgiven
      · exact Relay.given_trySend_self haccepts
      · exact hgiven.trySend
  | failed hstop _ =>
      rw [hwill.not_canStop] at hstop
      cases hstop
  | _ => cases hwill

variable {s s' : System} {label : SystemLabel}

theorem revokedCovered_session {index : Nat} {session session' : Session}
    (hinv : TunnelsInv config s) (hs : RevokedCovered s)
    (hok : revocationSeen s (.advance index choice) = true)
    (htask : s.tasks[index]? = some (.session session))
    (h : SessionStep config choice s.shared session relay' session') :
    RevokedCovered ⟨relay', s.tasks.set index (.session session')⟩ := by
  intro deviceId row handle hrow hrevoked hroute
  rw [h.keeps.standing] at hrow
  have hstay : ∀ request, .request request ∈ s.tasks →
      .request request ∈ s.tasks.set index (.session session') := by
    intro request hrequest
    have hex : ∃ t ∈ s.tasks, t = .request request := ⟨_, hrequest, rfl⟩
    obtain ⟨t, ht, rfl⟩ := exists_mem_set (.session session') htask hex
      fun heq => nomatch heq
    exact ht
  rcases h.route_cases (hinv.sound _ (List.mem_of_getElem? htask)) hroute with
    hold | ⟨tunnel, -, rfl, hdirect⟩
  · rcases hs deviceId row handle hrow hrevoked hold with hgiven | ⟨request, hrequest, hwill⟩
    · exact .inl (h.precedes.given _ _ hgiven)
    · exact .inr ⟨request, hstay request hrequest, hwill⟩
  · -- The tunnel is registered in this step: some revocation has yet to look it up.
    obtain ⟨rfl, serial, rfl⟩ := hdirect rfl
    simp only [revocationSeen, htask, Bool.or_eq_true, Bool.not_eq_true'] at hok
    rcases hok with hlive | hawaits
    · rw [Database.isRevoked, hrow, Option.any_some, hrevoked] at hlive
      cases hlive
    · obtain ⟨request, hrequest, hawaits⟩ := System.anyRequest_iff.mp hawaits
      refine .inr ⟨request, hstay request hrequest, ?_⟩
      cases request with
      | revoking id remaining tail stage =>
          cases stage with
          | route =>
              have hid : id = tunnel.deviceId := of_decide_eq_true hawaits
              exact hid
          | _ => cases hawaits
      | _ => cases hawaits

theorem revokedCovered_request {index : Nat} {request request' : Request}
    (hs : RevokedCovered s) (hok : revocationSeen s (.advance index choice) = true)
    (htask : s.tasks[index]? = some (.request request))
    (h : RequestStep config choice s.shared request relay' request') :
    RevokedCovered ⟨relay', s.tasks.set index (.request request')⟩ := by
  intro deviceId row handle hrow hrevoked hdirect
  have hroute : s.shared.registry.state.route deviceId = some (.direct handle) := by
    rwa [h.registry_eq] at hdirect
  rcases h.revoked_new hrow hrevoked with ⟨row, hrow, hrevoked⟩ | ⟨_, _, -, rfl⟩ | rfl
  · rcases hs deviceId row handle hrow hrevoked hroute with hgiven | ⟨other, hother, hwill⟩
    · exact .inl (h.given hgiven)
    · -- The revocation that covers the tunnel may be the one that moves.
      obtain ⟨i, hi⟩ := List.mem_iff_getElem?.mp hother
      by_cases hne : i = index
      · subst hne
        rw [htask, Option.some.injEq, Task.request.injEq] at hi
        subst hi
        refine (h.willClose hwill hroute ?_).imp_right fun hwill' =>
          ⟨request', mem_set_self htask, hwill'⟩
        rintro ⟨remaining, tail, rfl⟩
        simp only [revocationSeen, htask, Bool.or_eq_true, decide_eq_true_eq] at hok
        rcases hok with (haccepts | hgiven) | hgone
        · exact .inl haccepts
        · exact .inr (Relay.wasGiven_iff.mp hgiven)
        · exact absurd hroute hgone
      · refine .inr ⟨other, List.mem_iff_getElem?.mpr ⟨i, ?_⟩, hwill⟩
        exact (List.getElem?_set_ne (Ne.symm hne)).trans hi
  · exact .inr ⟨_, mem_set_self htask, rfl⟩
  · simp [revocationSeen, htask, hroute, Route.isDirect] at hok

theorem revokedCovered_step (hinv : TunnelsInv config s) (hs : RevokedCovered s)
    (hok : revocationSeen s label = true) (h : System.StepCases config s label s') :
    RevokedCovered s' := by
  cases h with
  | spawn _ =>
      intro deviceId row handle hrow hrevoked hroute
      exact (hs deviceId row handle hrow hrevoked hroute).imp_right
        fun ⟨request, hrequest, hwill⟩ => ⟨request, List.mem_append_left _ hrequest, hwill⟩
  | session htask h => exact revokedCovered_session hinv hs hok htask h
  | request htask h => exact revokedCovered_request hs hok htask h
  | channel h =>
      obtain ⟨hdatabase, hregistry, -, hgiven⟩ := Relay.channelStep_eq_some h
      intro deviceId row handle hrow hrevoked hroute
      exact (hs deviceId row handle (hdatabase ▸ hrow) hrevoked (hregistry ▸ hroute)).imp_left
        (hgiven _ _)

end Steps

/-- In every run that respects `revocationSeen`: when no revocation of a device is in progress, the
registered tunnel of the device was given a close if its row is revoked. -/
theorem revoked_tunnel_closed (config : RelayConfig) (database : Database)
    (labels : List SystemLabel) (s : System)
    (hrun : run (System.step config) (System.init database) labels = some s)
    (hok : Meets (System.step config) (fun s label => revocationSeen s label = true)
      (System.init database) labels)
    (deviceId : String) (device : DeviceRecord) (handle : TunnelHandle)
    (hfind : s.shared.database.devices.find deviceId = some device)
    (hrevoked : device.isRevoked = true)
    (hroute : s.shared.registry.state.route deviceId = some (.direct handle))
    (hquiet : s.anyRequest (Request.isRevoking deviceId) = false) :
    s.shared.Given handle.channel revokedClose := by
  have hcovered : TunnelsInv config s ∧ RevokedCovered s := by
    refine run_invariant (P := fun s => TunnelsInv config s ∧ RevokedCovered s) ?_
      ⟨tunnelsInv_init config database, ?_⟩ hok hrun
    · rintro s label s' ⟨hinv, hs⟩ hok hstep
      have hcases := System.step_eq_some hstep
      exact ⟨tunnelsInv_step hcases hinv, revokedCovered_step hinv hs hok hcases⟩
    · intro deviceId row handle _ _ hroute
      rw [RegistryState.route, System.init, Registry.new, RegistryState.empty, AList.lookup_empty]
        at hroute
      cases hroute
  rcases hcovered.2 deviceId _ handle (Database.standing_of_find hfind) hrevoked hroute with
    hgiven | ⟨request, hrequest, hwill⟩
  · exact hgiven
  · have := System.anyRequest_iff.mpr ⟨request, hrequest, hwill.isRevoking⟩
    rw [hquiet] at this
    cases this

def revokeConnected : List SystemLabel :=
  System.enrollDevice 0 .desktop none "ABCD-EFGH-JKLM" "device-a" ++
    System.acceptTunnel 2 .desktop "device-a" ++ System.registerTunnel 2 ++
    [.spawn (.request (.revokeDevice none "device-a")), .advance 3 {}, .advance 3 {},
      .advance 3 {}, .advance 3 {}, .advance 3 {}]

theorem revoked_tunnel_closed_connected :
    ∃ s, run (System.step System.plainConfig) (System.init .empty) revokeConnected = some s ∧
      s.shared.Given 0 revokedClose := by
  obtain ⟨s, hrun, hrevoked, hroute, hquiet⟩ := exists_run (System.step System.plainConfig)
    (System.init .empty) revokeConnected
    (fun s => (s.shared.database.devices.find "device-a").any DeviceRecord.isRevoked = true ∧
      s.shared.registry.state.route "device-a" = some (.direct ⟨"device-a", 0⟩) ∧
      s.anyRequest (Request.isRevoking "device-a") = false) (by decide)
  obtain ⟨device, hfind, hrevoked⟩ := (Option.any_eq_true _ _).mp hrevoked
  exact ⟨s, hrun, revoked_tunnel_closed System.plainConfig .empty revokeConnected s hrun
    (by decide) "device-a" device ⟨"device-a", 0⟩ hfind hrevoked hroute hquiet⟩

/-- The revocation runs to its end between the authentication and the registration. -/
def revokeBeforeRegistration : List SystemLabel :=
  System.enrollDevice 0 .desktop none "ABCD-EFGH-JKLM" "device-a" ++
    System.acceptTunnel 2 .desktop "device-a" ++
    [.spawn (.request (.revokeDevice none "device-a")), .advance 3 {}, .advance 3 {},
      .advance 3 {}] ++ System.registerTunnel 2

/-- The revoked device ends up with a registered tunnel nobody closes. -/
theorem revoked_tunnel_open :
    ¬ ∀ (config : RelayConfig) (database : Database) (labels : List SystemLabel) (s : System),
      run (System.step config) (System.init database) labels = some s →
      ∀ deviceId device handle, s.shared.database.devices.find deviceId = some device →
        device.isRevoked = true →
        s.shared.registry.state.route deviceId = some (.direct handle) →
        s.anyRequest (Request.isRevoking deviceId) = false →
        s.shared.Given handle.channel revokedClose := by
  intro h
  obtain ⟨s, hrun, hrevoked, hroute, hquiet, hopen⟩ := exists_run (System.step System.plainConfig)
    (System.init .empty) revokeBeforeRegistration
    (fun s => (s.shared.database.devices.find "device-a").any DeviceRecord.isRevoked = true ∧
      s.shared.registry.state.route "device-a" = some (.direct ⟨"device-a", 0⟩) ∧
      s.anyRequest (Request.isRevoking "device-a") = false ∧
      s.shared.wasGiven 0 revokedClose = false) (by decide)
  obtain ⟨device, hfind, hrevoked⟩ := (Option.any_eq_true _ _).mp hrevoked
  have hgiven := h System.plainConfig .empty revokeBeforeRegistration s hrun "device-a" device
    ⟨"device-a", 0⟩ hfind hrevoked hroute hquiet
  rw [Relay.wasGiven_iff.mpr hgiven] at hopen
  cases hopen

end TermexoRelay
