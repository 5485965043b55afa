import TermexoRelay.Api.Requests

/-!
# The actions of a request

One rule for each way an action of a request can go, with exactly what it does to the relay. What
holds of every action is derived here once: a request never touches the registry, puts messages on
one channel at a time, and changes device rows only by creating, revoking or disowning them.
-/

namespace TermexoRelay

namespace Request

def isFinished : Request → Bool
  | .finished _ => true
  | _ => false

/-- An action that may end the request and leave the relay as it is. -/
def canStop : Request → Bool
  | .finished _ => false
  | .updatingUser _ _ => false
  | .updatingDevice _ _ => false
  | .revoking _ _ _ .route => false
  | .revoking _ _ _ (.frame _) => false
  | .revoking _ _ _ (.close _) => false
  | .routing _ => false
  | .disconnecting _ _ => false
  | _ => true

/-- An action that only a failing statement stops. -/
def stopsOnlyByFault : Request → Bool
  | .signingOut _ _ => true
  | .listing _ _ => true
  | .revoking _ _ _ .row => true
  | .disowning _ => true
  | .forgetting _ => true
  | .discarding _ => true
  | _ => false

end Request

open Request in
/-- The actions of a request: the relay before, the request, and what they become. -/
inductive RequestStep (config : RelayConfig) (choice : TaskChoice) (relay : Relay) :
    Request → Relay → Request → Prop
  | failed {request : Request} {e : ApiError} (hstop : request.canStop = true)
      (h : request.stopsOnlyByFault = true → choice.fault.isSome = true) :
      RequestStep config choice relay request relay (fail e)
  | userCreated {username password username' hash : String} {role : UserRole}
      {database : Database}
      (h : relay.database.createUser choice.fault choice.identifier username' hash role choice.now =
        .ok database) :
      RequestStep config choice relay (.createUser username password role) { relay with database }
        (succeed .done)
  | userFound {id userId : String} {request : UpdateUserRequest} {update : UserUpdate} :
      RequestStep config choice relay (.updateUser id request) relay (.updatingUser userId update)
  | userUpdateFailed {userId : String} {update : UserUpdate} {e : DatabaseError}
      (h : (relay.database.updateUser choice.fault userId update).2 = .error e) :
      RequestStep config choice relay (.updatingUser userId update)
        { relay with database := (relay.database.updateUser choice.fault userId update).1 }
        (abort e)
  | userUpdated {userId : String} {update : UserUpdate} :
      RequestStep config choice relay (.updatingUser userId update)
        { relay with database := (relay.database.updateUser choice.fault userId update).1 }
        (if update.passwordHash.isSome || update.disabled = some true then
          .signingOut userId update else succeed .done)
  | signedOut {userId : String} {update : UserUpdate} {database : Database}
      (h : relay.database.deleteSessionsOfUser choice.fault userId = .ok database) :
      RequestStep config choice relay (.signingOut userId update) { relay with database }
        (if update.disabled = some true then .listing userId (.disable userId)
          else succeed .done)
  | deletionStarted {actorId id userId : String} :
      RequestStep config choice relay (.deleteUser actorId id) relay
        (.listing userId (.delete userId))
  | listed {userId : String} {tail : RevokeTail}
      (h : choice.order.Perm (relay.database.ownedBy userId)) :
      RequestStep config choice relay (.listing userId tail) relay (revokeNext tail choice.order)
  | rowRevoked {deviceId : String} {remaining : List String} {tail : RevokeTail}
      {database : Database} {changed : Bool}
      (h : relay.database.revokeDevice choice.fault deviceId choice.now =
        .ok (database, changed)) :
      RequestStep config choice relay (.revoking deviceId remaining tail .row)
        { relay with database } (.revoking deviceId remaining tail .route)
  | routed {deviceId : String} {remaining : List String} {tail : RevokeTail} {route : Route}
      (h : relay.registry.state.route deviceId = some route) :
      RequestStep config choice relay (.revoking deviceId remaining tail .route) relay
        (.revoking deviceId remaining tail (.frame route.link))
  | unrouted {deviceId : String} {remaining : List String} {tail : RevokeTail}
      (h : relay.registry.state.route deviceId = none) :
      RequestStep config choice relay (.revoking deviceId remaining tail .route) relay
        (revokeNext tail remaining)
  | framed {deviceId : String} {remaining : List String} {tail : RevokeTail}
      {handle : TunnelHandle} :
      RequestStep config choice relay (.revoking deviceId remaining tail (.frame handle))
        (relay.sendFrame handle (.revoked REVOKED_REASON))
        (.revoking deviceId remaining tail (.close handle))
  | closed {deviceId : String} {remaining : List String} {tail : RevokeTail}
      {handle : TunnelHandle} :
      RequestStep config choice relay (.revoking deviceId remaining tail (.close handle))
        (relay.close handle .revoked REVOKED_REASON) (revokeNext tail remaining)
  | disowned {userId : String} {database : Database}
      (h : relay.database.disownDevicesOf choice.fault userId = .ok database) :
      RequestStep config choice relay (.disowning userId) { relay with database }
        (.forgetting userId)
  | forgotten {userId : String} {database : Database}
      (h : relay.database.deleteSessionsOfUser choice.fault userId = .ok database) :
      RequestStep config choice relay (.forgetting userId) { relay with database }
        (.deletingUser userId)
  | userDeleted {userId : String} {database : Database}
      (h : relay.database.deleteUser choice.fault userId = .ok database) :
      RequestStep config choice relay (.deletingUser userId) { relay with database }
        (succeed .done)
  | deviceFound {owner : Option String} {id deviceId : String} {request : DeviceUpdateRequest}
      {update : DeviceUpdate} :
      RequestStep config choice relay (.updateDevice owner id request) relay
        (.updatingDevice deviceId update)
  | deviceUpdated {deviceId : String} {update : DeviceUpdate}
      {outcome : Except ApiError Reply} :
      RequestStep config choice relay (.updatingDevice deviceId update)
        { relay with database := (relay.database.updateDevice choice.fault deviceId update).1 }
        (.finished outcome)
  | revocationStarted {owner : Option String} {id deviceId : String} :
      RequestStep config choice relay (.revokeDevice owner id) relay
        (.revoking deviceId [] .reply .row)
  | disconnectionStarted {id deviceId : String} :
      RequestStep config choice relay (.disconnectDevice id) relay (.routing deviceId)
  | disconnectionRouted {deviceId : String} {route : Route}
      (h : relay.registry.state.route deviceId = some route) :
      RequestStep config choice relay (.routing deviceId) relay
        (.disconnecting deviceId route.link)
  | disconnectionUnrouted {deviceId : String} :
      RequestStep config choice relay (.routing deviceId) relay (succeed .done)
  | disconnected {deviceId : String} {handle : TunnelHandle} :
      RequestStep config choice relay (.disconnecting deviceId handle)
        (relay.close handle .goingAway DISCONNECTED_REASON) (succeed .done)
  | codeOwnerFound {createdBy : String} {owner : Option String}
      {request : CreateEnrollmentRequest} :
      RequestStep config choice relay (.createEnrollment createdBy request) relay
        (.creatingEnrollment createdBy owner request)
  | codeCreated {createdBy code : String} {owner : Option String}
      {request : CreateEnrollmentRequest} {database : Database}
      (h : relay.database.Keeps database) :
      RequestStep config choice relay (.creatingEnrollment createdBy owner request)
        { relay with database } (succeed (.issued code))
  | codeFound {id codeId : String} :
      RequestStep config choice relay (.cancelEnrollment id) relay (.cancelling codeId)
  | codeCancelled {id : String} {database : Database} {outcome : Except ApiError Reply}
      (h : relay.database.Keeps database) :
      RequestStep config choice relay (.cancelling id) { relay with database }
        (.finished outcome)
  | codeRedeemed {code name name' : String} {enrollment : EnrollmentRecord} :
      RequestStep config choice relay (.enrollWithCode code name) relay
        (.issuing enrollment.kind enrollment.ownerUserId name' (some enrollment.id))
  | signedIn {username password name name' : String} {user : UserRecord} :
      RequestStep config choice relay (.enrollWithPassword username password name) relay
        (.issuing .desktop (some user.id) name' none)
  | issued {kind : DeviceKind} {owner : Option String} {name : String}
      {enrollment : Option String} {credential : DeviceCredential} {database : Database}
      {request : Request} (hcredential : choice.credential = some credential)
      (h : relay.database.createDevice choice.fault
        (Request.issued config credential kind owner name) choice.now = .ok database)
      (hrequest : request = succeed (.enrolled credential) ∨
        ∃ enrollment, request = .burning enrollment credential) :
      RequestStep config choice relay (.issuing kind owner name enrollment)
        { relay with database } request
  | burned {enrollment : String} {credential : DeviceCredential} {database : Database}
      {request : Request} (h : relay.database.Keeps database)
      (hrequest : request = succeed (.enrolled credential) ∨
        request = .discarding credential.deviceId) :
      RequestStep config choice relay (.burning enrollment credential) { relay with database }
        request
  | discarded {deviceId : String} {database : Database} {changed : Bool}
      (h : relay.database.revokeDevice choice.fault deviceId choice.now =
        .ok (database, changed)) :
      RequestStep config choice relay (.discarding deviceId) { relay with database }
        (fail (.unauthorized INVALID_CODE))

section Inversion

variable {config : RelayConfig} {choice : TaskChoice} {relay relay' : Relay}
  {request request' : Request}

private theorem guard_error {α : Type} {fault : Fault} {a : α} {e : DatabaseError}
    (h : fault.guard (.ok a) = .error e) : fault.isSome = true := by
  cases fault with
  | none => cases h
  | some _ => rfl

theorem RequestStep.refused {e : ApiError} (hstop : request.canStop = true)
    (hother : request.stopsOnlyByFault = false) :
    RequestStep config choice relay request relay (Request.fail e) := by
  apply RequestStep.failed hstop
  intro hfault
  rw [hother] at hfault
  cases hfault

theorem Request.step_eq_some (h : request.step config relay choice = some (relay', request')) :
    RequestStep config choice relay request relay' request' := by
  cases request with
  | finished outcome => cases h
  | createUser username password role =>
      simp only [Request.step] at h
      split at h
      · cases h
        exact .refused rfl rfl
      · cases h
        exact .refused rfl rfl
      · split at h
        · cases h
          exact .refused rfl rfl
        · next hcreated =>
            cases h
            exact .userCreated hcreated
  | updateUser id request =>
      simp only [Request.step] at h
      split at h
      · cases h
        exact .refused rfl rfl
      · cases h
        exact .refused rfl rfl
      · split at h
        · cases h
          exact .refused rfl rfl
        · cases h
          exact .userFound
  | updatingUser userId update =>
      simp only [Request.step] at h
      split at h
      · next database e hupdate =>
          cases h
          have hfst : database = (relay.database.updateUser choice.fault userId update).1 := by
            rw [hupdate]
          subst hfst
          exact .userUpdateFailed (by rw [hupdate])
      · next database hupdate =>
          cases h
          have hfst : database = (relay.database.updateUser choice.fault userId update).1 := by
            rw [hupdate]
          subst hfst
          exact .userUpdated
  | signingOut userId update =>
      simp only [Request.step] at h
      split at h
      · next hfailed =>
          cases h
          exact .failed rfl fun _ => guard_error hfailed
      · next hdeleted =>
          cases h
          exact .signedOut hdeleted
  | deleteUser actorId id =>
      simp only [Request.step] at h
      split at h
      · cases h
        exact .refused rfl rfl
      · split at h
        · cases h
          exact .refused rfl rfl
        · cases h
          exact .refused rfl rfl
        · cases h
          exact .deletionStarted
  | listing userId tail =>
      simp only [Request.step] at h
      split at h
      · next hfault =>
          cases h
          exact .failed rfl fun _ => hfault
      · split at h
        · next hlisted =>
            cases h
            exact .listed hlisted.1
        · cases h
  | revoking deviceId remaining tail stage =>
      cases stage with
      | row =>
          simp only [Request.step] at h
          split at h
          · next hfailed =>
              cases h
              exact .failed rfl fun _ => guard_error hfailed
          · next hrevoked =>
              cases h
              exact .rowRevoked hrevoked
      | route =>
          simp only [Request.step] at h
          split at h
          · next hroute =>
              cases h
              exact .routed hroute
          · next hroute =>
              cases h
              exact .unrouted hroute
      | frame handle =>
          cases h
          exact .framed
      | close handle =>
          cases h
          exact .closed
  | disowning userId =>
      simp only [Request.step] at h
      split at h
      · next hfailed =>
          cases h
          exact .failed rfl fun _ => guard_error hfailed
      · next hdisowned =>
          cases h
          exact .disowned hdisowned
  | forgetting userId =>
      simp only [Request.step] at h
      split at h
      · next hfailed =>
          cases h
          exact .failed rfl fun _ => guard_error hfailed
      · next hforgotten =>
          cases h
          exact .forgotten hforgotten
  | deletingUser userId =>
      simp only [Request.step] at h
      split at h
      · cases h
        exact .refused rfl rfl
      · next hdeleted =>
          cases h
          exact .userDeleted hdeleted
  | updateDevice owner id request =>
      simp only [Request.step] at h
      split at h
      · cases h
        exact .refused rfl rfl
      · split at h
        · cases h
          exact .refused rfl rfl
        · cases h
          exact .deviceFound
  | updatingDevice deviceId update =>
      simp only [Request.step] at h
      split at h
      · next database e hupdate =>
          cases h
          have hfst : database = (relay.database.updateDevice choice.fault deviceId update).1 := by
            rw [hupdate]
          subst hfst
          exact .deviceUpdated
      · next database hupdate =>
          cases h
          have hfst : database = (relay.database.updateDevice choice.fault deviceId update).1 := by
            rw [hupdate]
          subst hfst
          exact .deviceUpdated
  | revokeDevice owner id =>
      simp only [Request.step] at h
      split at h
      · cases h
        exact .refused rfl rfl
      · cases h
        exact .revocationStarted
  | disconnectDevice id =>
      simp only [Request.step] at h
      split at h
      · cases h
        exact .refused rfl rfl
      · cases h
        exact .disconnectionStarted
  | routing deviceId =>
      simp only [Request.step] at h
      split at h
      · next hroute =>
          cases h
          exact .disconnectionRouted hroute
      · cases h
        exact .disconnectionUnrouted
  | disconnecting deviceId handle =>
      cases h
      exact .disconnected
  | createEnrollment createdBy request =>
      simp only [Request.step] at h
      split at h
      · cases h
        exact .refused rfl rfl
      · cases h
        exact .codeOwnerFound
  | creatingEnrollment createdBy owner request =>
      simp only [Request.step] at h
      split at h
      · cases h
        exact .refused rfl rfl
      · cases h
        exact .refused rfl rfl
      · split at h
        · cases h
          exact .refused rfl rfl
        · next hcreated =>
            cases h
            exact .codeCreated (Database.keeps_createEnrollment hcreated)
  | cancelEnrollment id =>
      simp only [Request.step] at h
      split at h
      · cases h
        exact .refused rfl rfl
      · cases h
        exact .refused rfl rfl
      · cases h
        exact .codeFound
  | cancelling id =>
      simp only [Request.step] at h
      split at h
      · cases h
        exact .refused rfl rfl
      · next changed hcancelled =>
          cases h
          have hkeeps := Database.keeps_cancelEnrollment hcancelled
          cases changed with
          | true => exact .codeCancelled hkeeps
          | false => exact .codeCancelled hkeeps
  | enrollWithCode code name =>
      simp only [Request.step] at h
      split at h
      · cases h
        exact .refused rfl rfl
      · split at h
        · cases h
          exact .refused rfl rfl
        · cases h
          exact .codeRedeemed
  | enrollWithPassword username password name =>
      simp only [Request.step] at h
      split at h
      · cases h
        exact .refused rfl rfl
      · split at h
        · cases h
          exact .refused rfl rfl
        · cases h
          exact .signedIn
  | issuing kind owner name enrollment =>
      simp only [Request.step] at h
      split at h
      · cases h
        exact .refused rfl rfl
      · next credential hcredential =>
          split at h
          · cases h
            exact .refused rfl rfl
          · next hcreated =>
              cases h
              refine .issued hcredential hcreated ?_
              cases enrollment with
              | none => exact .inl rfl
              | some enrollment => exact .inr ⟨enrollment, rfl⟩
  | burning enrollment credential =>
      simp only [Request.step] at h
      split at h
      · cases h
        exact .refused rfl rfl
      · next changed hburned =>
          cases h
          refine .burned (Database.keeps_markEnrollmentUsed hburned) ?_
          cases changed with
          | true => exact .inl rfl
          | false => exact .inr rfl
  | discarding deviceId =>
      simp only [Request.step] at h
      split at h
      · next hfailed =>
          cases h
          exact .failed rfl fun _ => guard_error hfailed
      · next hdiscarded =>
          cases h
          exact .discarded hdiscarded

end Inversion

namespace Request

/-- The tunnel the next action puts a message on, with the device the request is about. -/
def target : Request → Option (String × TunnelHandle)
  | .revoking deviceId _ _ (.frame handle) => some (deviceId, handle)
  | .revoking deviceId _ _ (.close handle) => some (deviceId, handle)
  | .disconnecting deviceId handle => some (deviceId, handle)
  | _ => none

end Request

namespace RequestStep

variable {config : RelayConfig} {choice : TaskChoice} {relay relay' : Relay}
  {request request' : Request}

theorem registry_eq (h : RequestStep config choice relay request relay' request') :
    relay'.registry = relay.registry := by
  cases h <;> rfl

/-- A request changes no channel, or the database is left alone and one message is put on the
channel of its target. -/
theorem channels_cases (h : RequestStep config choice relay request relay' request') :
    relay'.channels = relay.channels ∨
      ∃ deviceId handle message, request.target = some (deviceId, handle) ∧
        relay' = relay.trySend handle message := by
  cases h with
  | framed => exact .inr ⟨_, _, _, rfl, rfl⟩
  | closed => exact .inr ⟨_, _, _, rfl, rfl⟩
  | disconnected => exact .inr ⟨_, _, _, rfl, rfl⟩
  | _ => exact .inl rfl

theorem given (h : RequestStep config choice relay request relay' request') {channel : Nat}
    {message : Outgoing} (hgiven : relay.Given channel message) :
    relay'.Given channel message := by
  rcases h.channels_cases with hsame | ⟨_, _, _, -, rfl⟩
  · rwa [Relay.Given, hsame]
  · exact hgiven.trySend

/-- What a request does to the standing of the devices: nothing, or it creates, revokes or disowns
rows. -/
inductive StandingChange (config : RelayConfig) (choice : TaskChoice) (db db' : Database) :
    Request → Prop
  | none {request : Request} (h : db'.standing = db.standing) :
      StandingChange config choice db db' request
  | created {kind : DeviceKind} {owner : Option String} {name : String}
      {enrollment : Option String} {credential : DeviceCredential}
      (hcredential : choice.credential = some credential)
      (h : db.createDevice choice.fault (Request.issued config credential kind owner name)
        choice.now = .ok db') :
      StandingChange config choice db db' (.issuing kind owner name enrollment)
  | revoked {request : Request} {deviceId : String} {changed : Bool}
      (hrequest : (∃ remaining tail, request = .revoking deviceId remaining tail .row) ∨
        request = .discarding deviceId)
      (h : db.revokeDevice choice.fault deviceId choice.now = .ok (db', changed)) :
      StandingChange config choice db db' request
  | disowned {userId : String} (h : db.disownDevicesOf choice.fault userId = .ok db') :
      StandingChange config choice db db' (.disowning userId)

theorem standingChange (h : RequestStep config choice relay request relay' request') :
    StandingChange config choice relay.database relay'.database request := by
  cases h with
  | userCreated h => exact .none (Database.createUser_eq_ok h).1
  | userUpdateFailed h => exact .none (Database.updateUser_standing ..).1
  | userUpdated => exact .none (Database.updateUser_standing ..).1
  | signedOut h => exact .none (Database.keeps_deleteSessionsOfUser h).standing
  | rowRevoked h => exact .revoked (.inl ⟨_, _, rfl⟩) h
  | disowned h => exact .disowned h
  | forgotten h => exact .none (Database.keeps_deleteSessionsOfUser h).standing
  | userDeleted h => exact .none (Database.deleteUser_eq_ok h).1
  | deviceUpdated => exact .none (Database.keeps_updateDevice ..).standing
  | codeCreated h => exact .none h.standing
  | codeCancelled h => exact .none h.standing
  | issued hcredential h _ => exact .created hcredential h
  | burned h _ => exact .none h.standing
  | discarded h => exact .revoked (.inr rfl) h
  | _ => exact .none rfl

theorem standing_persists (h : RequestStep config choice relay request relay' request')
    {deviceId : String} {row : Standing} (hrow : relay.database.standing deviceId = some row) :
    ∃ row', relay'.database.standing deviceId = some row' ∧ row'.secretHash = row.secretHash ∧
      (row.revoked = true → row'.revoked = true) := by
  cases h.standingChange with
  | none hsame => exact ⟨row, hsame ▸ hrow, rfl, id⟩
  | created _ hcreated =>
      obtain ⟨hfree, -, -, hstanding⟩ := Database.createDevice_eq_ok hcreated
      have hne : deviceId ≠ _ := fun heq => by
        rw [heq, hfree] at hrow
        cases hrow
      exact ⟨row, by rw [hstanding, if_neg hne, hrow], rfl, id⟩
  | revoked _ hrevoked =>
      obtain ⟨-, hstanding⟩ := Database.revokeDevice_eq_ok hrevoked
      rw [hstanding, hrow]
      split
      · exact ⟨_, rfl, rfl, fun _ => rfl⟩
      · exact ⟨_, rfl, rfl, id⟩
  | disowned hdisowned =>
      obtain ⟨-, hstanding⟩ := Database.disownDevicesOf_eq_ok hdisowned
      rw [hstanding, hrow]
      refine ⟨_, Option.map_some _ _, ?_⟩
      split
      · exact ⟨rfl, id⟩
      · exact ⟨rfl, id⟩

/-- A row appears only under the id `issue_device` drew. -/
theorem standing_new (h : RequestStep config choice relay request relay' request')
    {deviceId : String} {row : Standing} (hnone : relay.database.standing deviceId = none)
    (hrow : relay'.database.standing deviceId = some row) :
    ∃ kind owner name enrollment credential, request = .issuing kind owner name enrollment ∧
      choice.credential = some credential ∧ credential.deviceId = deviceId ∧
      row = ⟨owner, config.hashSecret credential.secret, false⟩ := by
  cases h.standingChange with
  | none hsame =>
      rw [hsame, hnone] at hrow
      cases hrow
  | @created kind owner name enrollment credential hcredential hcreated =>
      obtain ⟨-, -, -, hstanding⟩ := Database.createDevice_eq_ok hcreated
      rw [hstanding] at hrow
      split at hrow
      · next hid =>
          exact ⟨kind, owner, name, enrollment, credential, rfl, hcredential, hid.symm,
            (Option.some.inj hrow).symm⟩
      · rw [hnone] at hrow
        cases hrow
  | revoked _ hrevoked =>
      obtain ⟨-, hstanding⟩ := Database.revokeDevice_eq_ok hrevoked
      rw [hstanding, hnone] at hrow
      split at hrow <;> cases hrow
  | disowned hdisowned =>
      obtain ⟨-, hstanding⟩ := Database.disownDevicesOf_eq_ok hdisowned
      rw [hstanding, hnone] at hrow
      cases hrow

end RequestStep

end TermexoRelay
