import TermexoRelay.Api.RequestSteps
import TermexoRelay.Database.Codes

/-!
# Redeeming and cancelling a code, action by action

A redemption creates the device row first and burns the code last; one that loses the code to
another redemption, or to a cancellation, revokes the row it has created. Everything else a request
does leaves the code rows alone.
-/

namespace TermexoRelay

namespace Request

/-- An action that may write a code row. -/
def writesCodes : Request → Bool
  | .creatingEnrollment _ _ _ => true
  | .cancelling _ => true
  | .burning _ _ => true
  | _ => false

end Request

section Frame

variable {db db' : Database} {fault : Fault} {now : Int}

theorem Database.codes_createUser {identifier : Option String} {username passwordHash : String}
    {role : UserRole}
    (h : db.createUser fault identifier username passwordHash role now = .ok db') :
    db'.enrollmentCodes = db.enrollmentCodes ∧
      ∀ userId, (db.users.find userId).isSome = true → (db'.users.find userId).isSome = true := by
  obtain ⟨id, users, hinsert, rfl⟩ := Database.createUser_inserts h
  refine ⟨rfl, ?_⟩
  intro userId hsome
  rw [(Rows.insert_eq_some hinsert).2]
  split
  · rfl
  · exact hsome

theorem Database.codes_updateUser (db : Database) (fault : Fault) (id : String)
    (update : UserUpdate) :
    (db.updateUser fault id update).1.enrollmentCodes = db.enrollmentCodes ∧
      ∀ userId, (db.users.find userId).isSome = true →
        ((db.updateUser fault id update).1.users.find userId).isSome = true := by
  refine Fault.runStatements_invariant
    (P := fun a : Database => a.enrollmentCodes = db.enrollmentCodes ∧
      ∀ userId, (db.users.find userId).isSome = true → (a.users.find userId).isSome = true)
    ⟨rfl, fun _ h => h⟩ ?_
  rintro statement hstatement a ⟨hcodes, husers⟩
  simp only [Database.updateUserStatements, List.mem_append, Option.mem_toList,
    Option.map_eq_some_iff] at hstatement
  rcases hstatement with (⟨_, -, rfl⟩ | ⟨_, -, rfl⟩) | ⟨_, -, rfl⟩
  all_goals
    refine ⟨hcodes, fun userId hsome => ?_⟩
    rw [Database.setUser, Rows.find_update, Option.isSome_map]
    exact husers userId hsome

theorem Database.codes_updateDevice (db : Database) (fault : Fault) (id : String)
    (update : DeviceUpdate) :
    (db.updateDevice fault id update).1.enrollmentCodes = db.enrollmentCodes := by
  refine Fault.runStatements_invariant
    (P := fun a : Database => a.enrollmentCodes = db.enrollmentCodes) rfl ?_
  intro statement hstatement a ha
  simp only [Database.updateDeviceStatements, List.mem_append, Option.mem_toList,
    Option.map_eq_some_iff] at hstatement
  rcases hstatement with (⟨_, -, rfl⟩ | ⟨_, -, rfl⟩) | ⟨_, -, rfl⟩
  all_goals exact ha

theorem Database.codes_deleteUser {id : String} (h : db.deleteUser fault id = .ok db') :
    db'.enrollmentCodes = db.enrollmentCodes ∧
      ∀ userId, db'.users.find userId = if userId = id then none else db.users.find userId := by
  obtain rfl := Database.deleteUser_deletes h
  refine ⟨rfl, ?_⟩
  intro userId
  rw [Rows.find_delete]
  cases hrow : db.users.find userId with
  | none => simp
  | some row =>
      have hkey : row.id = userId := Rows.key_of_find hrow
      by_cases hid : userId = id
      · simp [Option.filter, hkey, hid]
      · simp [Option.filter, hkey, hid]

theorem Database.codes_createDevice {device : NewDevice}
    (h : db.createDevice fault device now = .ok db') :
    db'.enrollmentCodes = db.enrollmentCodes := by
  obtain ⟨-, devices, -, rfl⟩ := Database.createDevice_inserts h
  rfl

theorem Database.codes_revokeDevice {id : String} {changed : Bool}
    (h : db.revokeDevice fault id now = .ok (db', changed)) :
    db'.enrollmentCodes = db.enrollmentCodes := by
  obtain ⟨-, h⟩ := Fault.guard_eq_ok.mp h
  obtain ⟨rfl, -⟩ := Prod.mk.inj (Except.ok.inj h)
  rfl

theorem Database.codes_disownDevicesOf {owner : String}
    (h : db.disownDevicesOf fault owner = .ok db') :
    db'.enrollmentCodes = db.enrollmentCodes := by
  obtain ⟨-, h⟩ := Fault.guard_eq_ok.mp h
  rw [← Except.ok.inj h]

theorem Database.codes_deleteSessionsOfUser {userId : String}
    (h : db.deleteSessionsOfUser fault userId = .ok db') :
    db'.enrollmentCodes = db.enrollmentCodes := by
  obtain ⟨-, h⟩ := Fault.guard_eq_ok.mp h
  rw [← Except.ok.inj h]

end Frame

namespace RequestStep

variable {config : RelayConfig} {choice : TaskChoice} {relay relay' : Relay}
  {request request' : Request}

theorem codes_eq (h : RequestStep config choice relay request relay' request')
    (hrequest : request.writesCodes = false) :
    relay'.database.enrollmentCodes = relay.database.enrollmentCodes := by
  cases h with
  | userCreated h => exact (Database.codes_createUser h).1
  | userUpdateFailed h => exact (Database.codes_updateUser ..).1
  | userUpdated => exact (Database.codes_updateUser ..).1
  | signedOut h => exact Database.codes_deleteSessionsOfUser h
  | rowRevoked h => exact Database.codes_revokeDevice h
  | disowned h => exact Database.codes_disownDevicesOf h
  | forgotten h => exact Database.codes_deleteSessionsOfUser h
  | userDeleted h => exact (Database.codes_deleteUser h).1
  | deviceUpdated => exact Database.codes_updateDevice ..
  | codeCreated h => cases hrequest
  | codeCancelled h => cases hrequest
  | issued hcredential h _ => exact Database.codes_createDevice h
  | burned h _ => cases hrequest
  | discarded h => exact Database.codes_revokeDevice h
  | _ => rfl

theorem users_persist (h : RequestStep config choice relay request relay' request')
    (hrequest : ∀ id, request ≠ .deletingUser id) {userId : String}
    (huser : (relay.database.users.find userId).isSome = true) :
    (relay'.database.users.find userId).isSome = true := by
  have hkeeps : ∀ {db : Database}, relay.database.Keeps db →
      (db.users.find userId).isSome = true := fun hkeep => hkeep.users ▸ huser
  cases h with
  | userCreated h => exact (Database.codes_createUser h).2 userId huser
  | userUpdateFailed h => exact (Database.codes_updateUser ..).2 userId huser
  | userUpdated => exact (Database.codes_updateUser ..).2 userId huser
  | signedOut h => exact hkeeps (Database.keeps_deleteSessionsOfUser h)
  | rowRevoked h => exact (Database.revokeDevice_eq_ok h).1 ▸ huser
  | disowned h => exact (Database.disownDevicesOf_eq_ok h).1 ▸ huser
  | forgotten h => exact hkeeps (Database.keeps_deleteSessionsOfUser h)
  | userDeleted h => exact absurd rfl (hrequest _)
  | deviceUpdated => exact hkeeps (Database.keeps_updateDevice ..)
  | codeCreated h => exact hkeeps h
  | codeCancelled h => exact hkeeps h
  | issued hcredential h _ => exact (Database.createDevice_eq_ok h).2.1 ▸ huser
  | burned h _ => exact hkeeps h
  | discarded h => exact (Database.revokeDevice_eq_ok h).1 ▸ huser
  | _ => exact huser

end RequestStep

/-- What an action of a request does to the code rows: it inserts, cancels or burns one. -/
inductive CodesChange (config : RelayConfig) (choice : TaskChoice) (relay relay' : Relay) :
    Request → Request → Prop
  | none {request request' : Request}
      (h : relay'.database.enrollmentCodes = relay.database.enrollmentCodes) :
      CodesChange config choice relay relay' request request'
  | created {createdBy : String} {owner : Option String} {request : CreateEnrollmentRequest}
      {enrollment : NewEnrollment} {request' : Request} (howner : enrollment.ownerUserId = owner)
      (h : relay.database.createEnrollment choice.fault choice.identifier enrollment choice.now =
        .ok relay'.database) :
      CodesChange config choice relay relay' (.creatingEnrollment createdBy owner request) request'
  | cancelled {id : String} {changed : Bool}
      (h : relay.database.cancelEnrollment choice.fault id choice.now =
        .ok (relay'.database, changed)) :
      CodesChange config choice relay relay' (.cancelling id)
        (if changed then Request.succeed .done
          else Request.fail (.conflict ALREADY_SETTLED))
  | burned {id : String} {credential : DeviceCredential} {changed : Bool}
      (h : relay.database.markEnrollmentUsed choice.fault id credential.deviceId choice.now =
        .ok (relay'.database, changed)) :
      CodesChange config choice relay relay' (.burning id credential)
        (if changed then Request.succeed (.enrolled credential)
          else .discarding credential.deviceId)

section Actions

variable {config : RelayConfig} {choice : TaskChoice} {relay relay' : Relay}
  {request request' : Request}

theorem Request.codesChange (h : request.step config relay choice = some (relay', request')) :
    CodesChange config choice relay relay' request request' := by
  by_cases hwrites : request.writesCodes = true
  · cases request with
    | creatingEnrollment createdBy owner request =>
        simp only [Request.step] at h
        split at h
        · cases h
          exact .none rfl
        · cases h
          exact .none rfl
        · split at h
          · cases h
            exact .none rfl
          · next hcreated =>
              cases h
              exact .created rfl hcreated
    | cancelling id =>
        simp only [Request.step] at h
        split at h
        · cases h
          exact .none rfl
        · next hcancelled =>
            cases h
            exact .cancelled hcancelled
    | burning enrollment credential =>
        simp only [Request.step] at h
        split at h
        · cases h
          exact .none rfl
        · next hburned =>
            cases h
            exact .burned hburned
    | _ => cases hwrites
  · exact .none ((Request.step_eq_some h).codes_eq (Bool.not_eq_true _ ▸ hwrites))

namespace CodesChange

theorem persist (h : CodesChange config choice relay relay' request request') :
    relay.database.CodesPersist relay'.database := by
  cases h with
  | none h =>
      intro id row hrow
      exact ⟨row, h ▸ hrow, .refl row⟩
  | created howner h =>
      obtain ⟨new, hnone, -, hfind⟩ := Database.createEnrollment_eq_ok h
      intro id row hrow
      have hne : id ≠ new := by
        rintro rfl
        rw [hnone] at hrow
        cases hrow
      exact ⟨row, by rw [hfind, if_neg hne, hrow], .refl row⟩
  | cancelled h =>
      refine (Database.cancelEnrollment_eq_ok h).persist fun row hrow =>
        ⟨rfl, rfl, ?_, fun _ => rfl⟩
      exact fun hused => ⟨hused, rfl⟩
  | burned h =>
      refine (Database.markEnrollmentUsed_eq_ok h).persist fun row hrow =>
        ⟨rfl, rfl, fun hused => ?_, fun hcancelled => hcancelled⟩
      rw [EnrollmentRecord.unsettled, Bool.and_eq_true, Option.isNone_iff_eq_none] at hrow
      rw [hrow.1] at hused
      cases hused

theorem distinct (h : CodesChange config choice relay relay' request request')
    (hdb : relay.database.CodesDistinct) : relay'.database.CodesDistinct := by
  cases h with
  | none h =>
      intro id id' row row' hrow hrow'
      rw [h] at hrow hrow'
      exact hdb id id' row row' hrow hrow'
  | created howner h =>
      obtain ⟨new, -, hfresh, hfind⟩ := Database.createEnrollment_eq_ok h
      intro id id' row row' hrow hrow' heq
      rw [hfind] at hrow hrow'
      split at hrow
      · next hid =>
          split at hrow'
          · next hid' => exact hid.trans hid'.symm
          · cases hrow
            exact absurd heq.symm (hfresh id' row' hrow')
      · split at hrow'
        · cases hrow'
          exact absurd heq (hfresh id row hrow)
        · exact hdb id id' row row' hrow hrow' heq
  | cancelled h => exact (Database.cancelEnrollment_eq_ok h).distinct (fun _ => rfl) hdb
  | burned h => exact (Database.markEnrollmentUsed_eq_ok h).distinct (fun _ => rfl) hdb

theorem settledOnce (h : CodesChange config choice relay relay' request request')
    (hdb : relay.database.SettledOnce) : relay'.database.SettledOnce := by
  cases h with
  | none h =>
      intro id row hrow
      rw [h] at hrow
      exact hdb id row hrow
  | created howner h =>
      obtain ⟨new, -, -, hfind⟩ := Database.createEnrollment_eq_ok h
      intro id row hrow
      rw [hfind] at hrow
      split at hrow
      · cases hrow
        exact fun hsettled => absurd hsettled.1 Bool.false_ne_true
      · exact hdb id row hrow
  | cancelled h =>
      refine (Database.cancelEnrollment_eq_ok h).settledOnce (fun row hrow hsettled => ?_) hdb
      simp only [EnrollmentRecord.unsettled, Bool.and_eq_true, Option.isNone_iff_eq_none] at hrow
      rw [hrow.1] at hsettled
      cases hsettled.1
  | burned h =>
      refine (Database.markEnrollmentUsed_eq_ok h).settledOnce (fun row hrow hsettled => ?_) hdb
      simp only [EnrollmentRecord.unsettled, Bool.and_eq_true, Option.isNone_iff_eq_none] at hrow
      rw [hrow.2] at hsettled
      cases hsettled.2

end CodesChange

end Actions

end TermexoRelay
