import TermexoRelay.Relay.Tunnels

/-!
# Credentials that were handed out

An enrollment creates the device row before it answers with the credential, and a code that was
lost to another redemption takes the row back instead of answering. A credential the relay did hand
out opens a tunnel until its row is revoked, and never again after that. No other credential opens
one as a device that enrolled here.
-/

namespace TermexoRelay

open Transition

/-- The credential a request has handed out or is about to. -/
def Request.grants : Request → Option DeviceCredential
  | .finished (.ok (.enrolled credential)) => some credential
  | .burning _ credential => some credential
  | _ => none

/-- The credential has a row, with the digest of its secret. -/
def Database.Granted (config : RelayConfig) (db : Database) (credential : DeviceCredential) :
    Prop :=
  ∃ row, db.standing credential.deviceId = some row ∧
    row.secretHash = config.hashSecret credential.secret

section Requests

variable {config : RelayConfig} {choice : TaskChoice} {relay relay' : Relay}
  {request request' : Request} {credential : DeviceCredential}

theorem Relay.Precedes.trans {relay'' : Relay} (h : relay.Precedes relay')
    (h' : relay'.Precedes relay'') : relay.Precedes relay'' := by
  refine ⟨fun deviceId row hrow => ?_, h.channels.trans h'.channels, h.sequence.trans h'.sequence,
    fun channel message hgiven => h'.given channel message (h.given channel message hgiven)⟩
  obtain ⟨row', hrow', hhash, hrevoked⟩ := h.standing deviceId row hrow
  obtain ⟨row'', hrow'', hhash', hrevoked'⟩ := h'.standing deviceId row' hrow'
  exact ⟨row'', hrow'', hhash'.trans hhash, fun hr => hrevoked' (hrevoked hr)⟩

theorem Relay.Precedes.granted (h : relay.Precedes relay')
    (hgranted : relay.database.Granted config credential) :
    relay'.database.Granted config credential := by
  obtain ⟨row, hrow, hhash⟩ := hgranted
  obtain ⟨row', hrow', hhash', -⟩ := h.standing _ row hrow
  exact ⟨row', hrow', hhash'.trans hhash⟩

theorem Request.grants_revokeNext (tail : RevokeTail) (remaining : List String) :
    (Request.revokeNext tail remaining).grants = none := by
  cases remaining with
  | cons deviceId remaining => rfl
  | nil => cases tail <;> rfl

theorem Request.grants_step (h : request.step config relay choice = some (relay', request'))
    (hgrants : request'.grants = some credential) :
    request.grants = some credential ∨ relay'.database.Granted config credential := by
  cases Request.step_eq_some h with
  | @issued kind owner name enrollment drawn database request' hdrawn hcreated hrequest =>
      obtain ⟨-, -, -, hstanding⟩ := Database.createDevice_eq_ok hcreated
      have hcredential : drawn = credential := by
        rcases hrequest with rfl | ⟨code, rfl⟩ <;> exact Option.some.inj hgrants
      subst hcredential
      exact .inr ⟨_, (hstanding drawn.deviceId).trans (if_pos rfl), rfl⟩
  | burned hkeeps hrequest =>
      rcases hrequest with rfl | rfl
      · exact .inl hgrants
      · cases hgrants
  | deviceUpdated =>
      simp only [Request.step] at h
      split at h <;> rw [← (Prod.mk.inj (Option.some.inj h)).2] at hgrants <;> cases hgrants
  | codeCancelled hkeeps =>
      simp only [Request.step] at h
      split at h
      · rw [← (Prod.mk.inj (Option.some.inj h)).2] at hgrants
        cases hgrants
      · rw [← (Prod.mk.inj (Option.some.inj h)).2] at hgrants
        split at hgrants <;> cases hgrants
  | userUpdated => split at hgrants <;> cases hgrants
  | signedOut hdeleted => split at hgrants <;> cases hgrants
  | listed hperm =>
      rw [Request.grants_revokeNext] at hgrants
      cases hgrants
  | unrouted hroute =>
      rw [Request.grants_revokeNext] at hgrants
      cases hgrants
  | closed =>
      rw [Request.grants_revokeNext] at hgrants
      cases hgrants
  | _ => cases hgrants

/-- What a granted credential authenticates as: its row, unless that is revoked. -/
theorem Database.Granted.authenticate {db : Database} (h : db.Granted config credential)
    (hmatches : ∀ secret, config.secretMatchesHash secret (config.hashSecret secret) = true) :
    ∃ device, db.devices.find credential.deviceId = some device ∧
      TermexoRelay.authenticate config db none (some credential) =
        if device.isRevoked then .error .revoked else .ok device := by
  obtain ⟨row, hrow, hhash⟩ := h
  obtain ⟨device, hdevice, rfl⟩ := Database.find_of_standing hrow
  have hsecret : device.secretHash = config.hashSecret credential.secret := hhash
  refine ⟨device, hdevice, ?_⟩
  simp [TermexoRelay.authenticate, Database.findDevice, Fault.guard, hdevice, hsecret, hmatches]

end Requests

namespace System

section Runs

variable {config : RelayConfig} {s s' : System} {label : SystemLabel}

theorem precedes_of_run {labels : List SystemLabel} (hrun : run (step config) s labels = some s') :
    s.shared.Precedes s'.shared :=
  run_invariant (P := fun t : System => s.shared.Precedes t.shared)
    (fun _ _ _ hs _ hstep => hs.trans (step_eq_some hstep).precedes) (Relay.Precedes.refl _)
    (meets_true s labels) hrun

/-- What a request has handed out, or is about to, has its row. -/
def GrantedAll (config : RelayConfig) (s : System) : Prop :=
  ∀ task ∈ s.tasks, ∀ request, task = .request request → ∀ credential,
    request.grants = some credential → s.shared.database.Granted config credential

theorem grantedAll_step (hs : GrantedAll config s) (h : step config s label = some s') :
    GrantedAll config s' := by
  have hprecedes := (step_eq_some h).precedes
  have hkept : ∀ task ∈ s.tasks, ∀ request, task = .request request → ∀ credential,
      request.grants = some credential → s'.shared.database.Granted config credential :=
    fun task htask request hrequest credential hgrants =>
      hprecedes.granted (hs task htask request hrequest credential hgrants)
  cases label with
  | spawn task =>
      obtain ⟨hstarts, rfl⟩ := poolStep_spawn h
      intro other hother request hrequest credential hgrants
      rcases List.mem_append.mp hother with hother | hother
      · exact hkept other hother request hrequest credential hgrants
      · rw [List.mem_singleton] at hother
        subst hother hrequest
        cases request with
        | finished outcome => cases hstarts
        | burning enrollment credential => cases hstarts
        | _ => cases hgrants
  | environment event =>
      obtain ⟨relay, hrelay, rfl⟩ := poolStep_environment h
      exact hkept
  | advance index choice =>
      obtain ⟨task, relay, task', htask, hadvance, rfl⟩ := poolStep_advance h
      refine forall_mem_set hkept fun request' hrequest' credential hgrants => ?_
      subst hrequest'
      cases task with
      | session session =>
          obtain ⟨⟨_, session'⟩, hstep, heq⟩ := Option.map_eq_some_iff.mp hadvance
          cases heq
      | request request =>
          obtain ⟨⟨_, next⟩, hstep, heq⟩ := Option.map_eq_some_iff.mp hadvance
          cases heq
          rcases Request.grants_step hstep hgrants with hgrants | hgranted
          · exact hkept _ (List.mem_of_getElem? htask) request rfl credential hgrants
          · exact hgranted

/-- A row appears where an enrolment issues it, with the digest of the credential drawn there. -/
theorem issued_of_standing_new {deviceId : String}
    (hnone : s.shared.database.standing deviceId = none)
    (hsome : (s'.shared.database.standing deviceId).isSome = true)
    (h : step config s label = some s') :
    ∃ index choice kind owner name enrollment credential, label = .advance index choice ∧
      s.requestAt index = some (.issuing kind owner name enrollment) ∧
      choice.credential = some credential ∧ credential.deviceId = deviceId ∧
      s'.shared.database.Granted config credential := by
  obtain ⟨row, hrow⟩ := Option.isSome_iff_exists.mp hsome
  cases step_eq_some h with
  | spawn hstarts =>
      rw [hnone] at hrow
      cases hrow
  | channel hchannel =>
      rw [(Relay.channelStep_eq_some hchannel).1, hnone] at hrow
      cases hrow
  | session htask hstep =>
      rw [hstep.keeps.standing, hnone] at hrow
      cases hrow
  | @request index choice relay request request' htask hstep =>
      obtain ⟨kind, owner, name, enrollment, credential, rfl, hcredential, rfl, rfl⟩ :=
        hstep.standing_new hnone hrow
      refine ⟨index, choice, kind, owner, name, enrollment, credential, rfl, ?_, hcredential, rfl,
        _, hrow, rfl⟩
      simp only [requestAt, htask]

end Runs

/-- From the moment a credential is handed out it authenticates as its own device, until the row is
revoked; from then on it is refused as revoked. -/
theorem granted_until_revoked (config : RelayConfig)
    (hmatches : ∀ secret, config.secretMatchesHash secret (config.hashSecret secret) = true)
    (database : Database) (labels labels' : List SystemLabel) (s s' : System)
    (hrun : run (step config) (init database) labels = some s)
    (hrun' : run (step config) s labels' = some s') (index : Nat) (credential : DeviceCredential)
    (hgranted : s.requestAt index = some (.finished (.ok (.enrolled credential)))) :
    (∃ device, s'.shared.database.devices.find credential.deviceId = some device ∧
      authenticate config s'.shared.database none (some credential) =
        if device.isRevoked then .error .revoked else .ok device) ∧
    (authenticate config s.shared.database none (some credential) = .error .revoked →
      authenticate config s'.shared.database none (some credential) = .error .revoked) := by
  have hall : GrantedAll config s := by
    refine run_invariant (fun _ _ _ hs _ hstep => grantedAll_step hs hstep) ?_ (meets_true _ labels)
      hrun
    exact fun _ htask => absurd htask List.not_mem_nil
  have hprecedes : s.shared.Precedes s'.shared := precedes_of_run hrun'
  obtain ⟨task, htask, hrequest⟩ : ∃ task ∈ s.tasks,
      task = .request (.finished (.ok (.enrolled credential))) := by
    unfold requestAt at hgranted
    split at hgranted
    · next request htask =>
        cases hgranted
        exact ⟨_, List.mem_of_getElem? htask, rfl⟩
    · cases hgranted
  have hthen : s.shared.database.Granted config credential := hall task htask _ hrequest _ rfl
  have hnow : s'.shared.database.Granted config credential := hprecedes.granted hthen
  refine ⟨hnow.authenticate hmatches, fun hrefused => ?_⟩
  obtain ⟨device, hdevice, hauth⟩ := hthen.authenticate hmatches
  obtain ⟨device', hdevice', hauth'⟩ := hnow.authenticate hmatches
  have hrevoked : device.isRevoked = true := by
    by_contra hlive
    rw [hrefused, if_neg hlive] at hauth
    cases hauth
  obtain ⟨row, hrow, -, hstays⟩ := hprecedes.standing _ _ (Database.standing_of_find hdevice)
  rw [Database.standing_of_find hdevice', Option.some.injEq] at hrow
  have hrevoked' : device'.isRevoked = true := by
    have hrow' : row.revoked = true := hstays hrevoked
    rw [← hrow] at hrow'
    exact hrow'
  rw [hauth', if_pos hrevoked']

def enrollAndRevoke : List SystemLabel :=
  acceptTunnel 2 .desktop "device-a" ++
    [.spawn (.request (.revokeDevice none "device-a")), .advance 3 {}, .advance 3 {},
      .advance 3 {}]

theorem granted_until_revoked_enrolled :
    ∃ s s', run (step plainConfig) (init .empty)
        (enrollDevice 0 .desktop none "ABCD-EFGH-JKLM" "device-a") = some s ∧
      run (step plainConfig) s enrollAndRevoke = some s' ∧
      authenticate plainConfig s'.shared.database none (some ⟨"device-a", "secret"⟩) =
        .error .revoked := by
  obtain ⟨s, hrun, hgranted, hrest⟩ := exists_run (step plainConfig) (init .empty)
    (enrollDevice 0 .desktop none "ABCD-EFGH-JKLM" "device-a")
    (fun s => s.requestAt 1 = some (.finished (.ok (.enrolled ⟨"device-a", "secret"⟩))) ∧
      (run (step plainConfig) s enrollAndRevoke).any (fun s' =>
        (s'.shared.database.devices.find "device-a").any DeviceRecord.isRevoked) = true) (by decide)
  obtain ⟨s', hrun', hrevoked⟩ := (Option.any_eq_true _ _).mp hrest
  obtain ⟨device, hdevice, hauth⟩ := (granted_until_revoked plainConfig
    (fun secret => decide_eq_true rfl) .empty _ _ s s' hrun hrun' 1 _ hgranted).1
  rw [hdevice, Option.any_some] at hrevoked
  exact ⟨s, s', hrun, hrun', by rw [hauth, if_pos hrevoked]⟩

/-- A device that authenticates was in the database from the start or presents the secret of a
credential that an enrolment drew for it, in a step of this run. -/
theorem authenticated_was_drawn (config : RelayConfig) (database : Database)
    (labels : List SystemLabel) (s : System)
    (hrun : run (step config) (init database) labels = some s) (fault : Fault)
    (presented : DeviceCredential) (device : DeviceRecord)
    (hauth : authenticate config s.shared.database fault (some presented) = .ok device) :
    (database.devices.find presented.deviceId).isSome = true ∨
      ∃ before index choice after m kind owner name enrollment credential,
        labels = before ++ .advance index choice :: after ∧
        run (step config) (init database) before = some m ∧
        m.requestAt index = some (.issuing kind owner name enrollment) ∧
        choice.credential = some credential ∧ credential.deviceId = presented.deviceId ∧
        config.secretMatchesHash presented.secret (config.hashSecret credential.secret) =
          true := by
  obtain ⟨_, hpresented, hfind, -, hsecret⟩ := authenticate_eq_ok hauth
  cases hpresented
  by_cases hold : (database.devices.find presented.deviceId).isSome = true
  · exact .inl hold
  have hstart : ¬ ((init database).shared.database.standing presented.deviceId).isSome = true := by
    rw [init, Database.standing, Option.isSome_map]
    exact hold
  have hend := Option.isSome_of_eq_some (Database.standing_of_find hfind)
  obtain ⟨before, label, after, m, m', hsplit, hbefore, hstep, hafter, hnone, hsome⟩ :=
    exists_step_of_run
      (P := fun t : System => (t.shared.database.standing presented.deviceId).isSome = true)
      hstart hend hrun
  rw [Bool.not_eq_true, Option.isSome_eq_false_iff, Option.isNone_iff_eq_none] at hnone
  obtain ⟨index, choice, kind, owner, name, enrollment, credential, rfl, hrequest, hchoice, hid,
    hgranted⟩ := issued_of_standing_new hnone hsome hstep
  refine .inr ⟨before, index, choice, after, m, kind, owner, name, enrollment, credential, hsplit,
    hbefore, hrequest, hchoice, hid, ?_⟩
  obtain ⟨row, hrow, hhash⟩ := (precedes_of_run hafter).granted hgranted
  rw [hid, Database.standing_of_find hfind, Option.some.injEq] at hrow
  subst hrow
  have hhash : device.secretHash = config.hashSecret credential.secret := hhash
  rwa [hhash] at hsecret

theorem authenticated_was_drawn_enrolled :
    ∃ s, run (step plainConfig) (init .empty)
        (enrollDevice 0 .desktop none "ABCD-EFGH-JKLM" "device-a") = some s ∧
      ∃ before index choice after m kind owner name enrollment credential,
        enrollDevice 0 .desktop none "ABCD-EFGH-JKLM" "device-a" =
          before ++ .advance index choice :: after ∧
        run (step plainConfig) (init .empty) before = some m ∧
        m.requestAt index = some (.issuing kind owner name enrollment) ∧
        choice.credential = some credential ∧ credential.deviceId = "device-a" ∧
        plainConfig.secretMatchesHash "secret" (plainConfig.hashSecret credential.secret) =
          true := by
  obtain ⟨s, hrun, hauth⟩ := exists_run (step plainConfig) (init .empty)
    (enrollDevice 0 .desktop none "ABCD-EFGH-JKLM" "device-a")
    (fun s => (authenticate plainConfig s.shared.database none
      (some ⟨"device-a", "secret"⟩)).isOk = true) (by decide)
  cases hdevice : authenticate plainConfig s.shared.database none (some ⟨"device-a", "secret"⟩) with
  | error reason =>
      rw [hdevice] at hauth
      cases hauth
  | ok device =>
      refine ⟨s, hrun, ?_⟩
      rcases authenticated_was_drawn plainConfig .empty _ s hrun none _ device hdevice with
        hold | hdrawn
      · cases hold
      · exact hdrawn

end System

end TermexoRelay
