import TermexoRelay.Api.Routes
import TermexoRelay.Relay.SignOut
import TermexoRelay.Upstream.Link

/-!
# What the handlers change

A handler behind the login has the session of its request resolved first, which may push the
deadline of the session or drop it once it has run out. The handlers that only answer do nothing
else to the relay.
-/

namespace TermexoRelay

open Relation

/-- What comes of a request that has reached a handler: the session it is resolved by, or what the
handler does besides its answer. -/
inductive Endpoint.Runs : Endpoint → SessionTask ⊕ UpstreamTask → Prop
  | resolving {endpoint : Endpoint} {tokens : List String} {now : Int}
      (hcaller : endpoint.caller ≠ .anyone) (hlogout : endpoint ≠ .logout) :
      Runs endpoint (.inl (.signedIn (.next now false tokens)))
  | logout {tokens : List String} {now : Int} :
      Runs .logout (.inl (.signedIn (.next now true tokens)))
  | login {username password ip : String} :
      Runs .login (.inl (.console (.login username password ip)))
  | changePassword {tokens : List String} {now : Int} {request : PasswordChangeRequest}
      {ip : String} :
      Runs .changePassword (.inl (.console (.resolveNext now (some (request, ip)) tokens)))
  | enrollWithCode {code name : String} :
      Runs .enroll (.inl (.relay (.request (.enrollWithCode code name))))
  | enrollWithPassword {username password name : String} :
      Runs .enroll (.inl (.relay (.request (.enrollWithPassword username password name))))
  | createUser {username password : String} {role : UserRole} :
      Runs .createUser (.inl (.relay (.request (.createUser username password role))))
  | updateUser {id : String} {request : UpdateUserRequest} :
      Runs .updateUser (.inl (.relay (.request (.updateUser id request))))
  | deleteUser {actorId id : String} :
      Runs .deleteUser (.inl (.relay (.request (.deleteUser actorId id))))
  | updateOwn {owner id : String} {request : DeviceUpdateRequest} :
      Runs .updateOwn (.inl (.relay (.request (.updateDevice (some owner) id request))))
  | updateAny {id : String} {request : DeviceUpdateRequest} :
      Runs .updateAny (.inl (.relay (.request (.updateDevice none id request))))
  | revokeOwn {owner id : String} :
      Runs .revokeOwn (.inl (.relay (.request (.revokeDevice (some owner) id))))
  | revokeAny {id : String} :
      Runs .revokeAny (.inl (.relay (.request (.revokeDevice none id))))
  | disconnectAny {id : String} :
      Runs .disconnectAny (.inl (.relay (.request (.disconnectDevice id))))
  | createEnrollment {createdBy : String} {request : CreateEnrollmentRequest} :
      Runs .createEnrollment (.inl (.relay (.request (.createEnrollment createdBy request))))
  | cancelEnrollment {id : String} :
      Runs .cancelEnrollment (.inl (.relay (.request (.cancelEnrollment id))))
  | setUpstream {origin : PublicUrl} {certificateFingerprint : Option String} :
      Runs .setUpstream (.inr (.joining origin certificateFingerprint))
  | clearUpstream : Runs .clearUpstream (.inr (.locking .stop))

namespace Visit

/-- A request that is no logout. -/
def stays : Visit → Bool
  | .trying _ _ _ _ logout => !logout
  | .admitted _ _ => true
  | .refused _ => true
  | _ => false

theorem stays_next (now : Int) (tokens : List String) : (next now false tokens).stays = true := by
  cases tokens <;> rfl

end Visit

/-- Nothing but console sessions differs, and of these none is new or of another account. -/
def Database.Renewed (db db' : Database) : Prop :=
  db' = { db with consoleSessions := db'.consoleSessions } ∧ Console.KeepsSessions db db'

section Reads

variable {config : RelayConfig} {db db' : Database} {fault : Fault}

theorem Resolve.step_renewed {stage stage' : Resolve}
    (h : stage.step config db fault = some (db', stage')) : db.Renewed db' := by
  refine ⟨?_, (Resolve.step_rows h).2⟩
  cases stage with
  | presented token now =>
      simp only [step] at h
      split at h <;> cases h <;> rfl
  | dropping idHash =>
      simp only [step] at h
      split at h
      · cases h
        rfl
      · next hdelete =>
          cases h
          obtain ⟨-, hdelete⟩ := Fault.guard_eq_ok.mp hdelete
          rw [← Except.ok.inj hdelete]
  | account session now =>
      simp only [step] at h
      split at h <;> cases h <;> rfl
  | extending idHash expiresAt user =>
      simp only [step] at h
      split at h
      · cases h
        rfl
      · next hextend =>
          cases h
          obtain ⟨-, hextend⟩ := Fault.guard_eq_ok.mp hextend
          rw [← Except.ok.inj hextend]
  | resolved user => cases h
  | failed e => cases h

theorem Visit.step_renewed {visit visit' : Visit} (hstays : visit.stays = true)
    (h : visit.step config db fault = some (db', visit')) :
    visit'.stays = true ∧ db.Renewed db' := by
  cases visit with
  | trying token stage remaining now logout =>
      obtain ⟨⟨_, resolved⟩, hstep, heq⟩ := Option.map_eq_some_iff.mp h
      cases heq
      obtain rfl : logout = false := by simpa [stays] using hstays
      refine ⟨?_, Resolve.step_renewed hstep⟩
      cases resolved with
      | resolved user =>
          cases user with
          | none => exact stays_next now remaining
          | some user => rfl
      | _ => rfl
  | admitted token user => cases h
  | leaving token => cases hstays
  | left token => cases hstays
  | refused e => cases h

/-- The visit comes to another stage by its own actions, whatever acts on the database between
them. -/
def Visit.Leads (config : RelayConfig) : Visit → Visit → Prop :=
  ReflTransGen fun visit visit' => ∃ db fault db', visit.step config db fault = some (db', visit')

theorem Visit.Leads.stays {visit visit' : Visit} (h : Leads config visit visit')
    (hstays : visit.stays = true) : visit'.stays = true := by
  induction h with
  | refl => exact hstays
  | tail _ hnext ih =>
      obtain ⟨db, fault, db', hstep⟩ := hnext
      exact (Visit.step_renewed ih hstep).1

theorem Endpoint.exists_runs_of_writes {endpoint : Endpoint} (hwrites : endpoint.reads = false) :
    ∃ work, endpoint.Runs work ∧
      ∀ visit : Visit, work = .inl (.signedIn visit) → visit.stays = false := by
  cases endpoint with
  | enroll => exact ⟨.inl (.relay (.request (.enrollWithCode "" ""))), .enrollWithCode, by simp⟩
  | login => exact ⟨.inl (.console (.login "" "" "")), .login, by simp⟩
  | logout =>
      refine ⟨.inl (.signedIn (.next 0 true [""])), .logout, fun visit hvisit => ?_⟩
      cases hvisit
      rfl
  | changePassword =>
      exact ⟨.inl (.console (.resolveNext 0 (some (⟨"", ""⟩, "")) [])), .changePassword, by simp⟩
  | createUser =>
      exact ⟨.inl (.relay (.request (.createUser "" "" .user))), .createUser, by simp⟩
  | updateUser =>
      exact ⟨.inl (.relay (.request (.updateUser "" ⟨none, none, none⟩))), .updateUser, by simp⟩
  | deleteUser => exact ⟨.inl (.relay (.request (.deleteUser "" ""))), .deleteUser, by simp⟩
  | updateOwn =>
      exact ⟨.inl (.relay (.request (.updateDevice (some "") "" ⟨none, none, none⟩))), .updateOwn,
        by simp⟩
  | updateAny =>
      exact ⟨.inl (.relay (.request (.updateDevice none "" ⟨none, none, none⟩))), .updateAny,
        by simp⟩
  | revokeOwn =>
      exact ⟨.inl (.relay (.request (.revokeDevice (some "") ""))), .revokeOwn, by simp⟩
  | revokeAny => exact ⟨.inl (.relay (.request (.revokeDevice none ""))), .revokeAny, by simp⟩
  | disconnectAny =>
      exact ⟨.inl (.relay (.request (.disconnectDevice ""))), .disconnectAny, by simp⟩
  | createEnrollment =>
      exact ⟨.inl (.relay (.request (.createEnrollment "" ⟨.desktop, none, none, none⟩))),
        .createEnrollment, by simp⟩
  | cancelEnrollment =>
      exact ⟨.inl (.relay (.request (.cancelEnrollment ""))), .cancelEnrollment, by simp⟩
  | setUpstream =>
      exact ⟨.inr (.joining (relayUrl "" (by decide)) none), .setUpstream, by simp⟩
  | clearUpstream => exact ⟨.inr (.locking .stop), .clearUpstream, by simp⟩
  | _ => cases hwrites

/-- The endpoints that read are the ones whose requests do nothing but resolve their session. -/
theorem Endpoint.reads_iff (endpoint : Endpoint) :
    endpoint.reads = true ↔ ∀ work, endpoint.Runs work →
      ∃ visit : Visit, work = .inl (.signedIn visit) ∧ visit.stays = true := by
  constructor
  · intro hreads work hruns
    cases hruns with
    | resolving _ _ => exact ⟨_, rfl, Visit.stays_next _ _⟩
    | _ => cases hreads
  · intro honly
    by_contra hwrites
    obtain ⟨work, hruns, hleaves⟩ := exists_runs_of_writes (Bool.not_eq_true _ ▸ hwrites)
    obtain ⟨visit, hvisit, hstays⟩ := honly work hruns
    rw [hleaves visit hvisit] at hstays
    cases hstays

/-- A request to an endpoint that reads leaves the database as it is or drops or extends single
sessions, by each of its actions and whatever acts between them. -/
theorem Endpoint.reads_unchanged {endpoint : Endpoint} (hreads : endpoint.reads = true)
    {visit visit' visit'' : Visit} (hruns : endpoint.Runs (.inl (.signedIn visit)))
    (hleads : Visit.Leads config visit visit')
    (hstep : visit'.step config db fault = some (db', visit'')) : db.Renewed db' := by
  obtain ⟨_, hwork, hstays⟩ := endpoint.reads_iff.mp hreads _ hruns
  cases hwork
  exact (Visit.step_renewed (hleads.stays hstays) hstep).2

end Reads

end TermexoRelay
