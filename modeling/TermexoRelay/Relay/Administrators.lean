import TermexoRelay.Relay.System

/-!
# Enabled administrators

The first start creates one administrator. From then on accounts are created, patched and deleted
by requests that were let in as an enabled administrator's. Deleting oneself is refused; disabling
or demoting oneself is not, and two administrators can do either to each other. Apart from that,
whoever takes an administrator's office away is left.
-/

namespace TermexoRelay

open Transition

def DEFAULT_ADMIN_USERNAME : String := "admin"

inductive BootstrapError where
  | readUsers (e : DatabaseError)
  | password (e : String)
  | createAdmin (e : DatabaseError)
deriving DecidableEq, Repr

namespace Database

def countUsers (db : Database) (fault : Fault) : Except DatabaseError Nat :=
  fault.guard (.ok db.users.table.rows.length)

/-- Creates the first administrator when the database has no accounts at all. -/
def ensureAdminExists (config : RelayConfig) (countFault : Fault) (generated : Except String String)
    (choice : TaskChoice) (db : Database) : Except BootstrapError Database :=
  match db.countUsers countFault with
  | .error e => .error (.readUsers e)
  | .ok count =>
      if 0 < count then .ok db
      else match generated.bind config.hashPassword with
        | .error e => .error (.password e)
        | .ok hash =>
            (db.createUser choice.fault choice.identifier DEFAULT_ADMIN_USERNAME hash .admin
              choice.now).mapError .createAdmin

end Database

def UserRecord.isEnabledAdmin (user : UserRecord) : Bool := user.role.isAdmin && !user.disabled

namespace Database

def isEnabledAdmin (db : Database) (userId : String) : Bool :=
  (db.users.find userId).any UserRecord.isEnabledAdmin

def hasAdmin (db : Database) : Bool := db.users.anyRow UserRecord.isEnabledAdmin

theorem isEnabledAdmin_eq (db : Database) (userId : String) :
    db.isEnabledAdmin userId = (db.users.find userId).any UserRecord.isEnabledAdmin :=
  rfl

theorem hasAdmin_iff {db : Database} :
    db.hasAdmin = true ↔ ∃ userId, db.isEnabledAdmin userId = true := by
  simp only [hasAdmin, isEnabledAdmin_eq, Rows.anyRow_iff, Option.any_eq_true]

section Queries

variable {db db' : Database} {fault : Fault} {now : Int} {userId : String}

theorem createUser_find {identifier : Option String} {username passwordHash : String}
    {role : UserRole}
    (h : db.createUser fault identifier username passwordHash role now = .ok db') :
    ∃ id, db.users.find id = none ∧ ∀ userId, db'.users.find userId =
      if userId = id then some (newUser id username passwordHash role now)
      else db.users.find userId := by
  obtain ⟨id, users, hinsert, rfl⟩ := createUser_inserts h
  exact ⟨id, Rows.insert_eq_some hinsert⟩

theorem isEnabledAdmin_createUser {identifier : Option String} {username passwordHash : String}
    {role : UserRole} (h : db.createUser fault identifier username passwordHash role now = .ok db')
    (hadmin : db.isEnabledAdmin userId = true) : db'.isEnabledAdmin userId = true := by
  obtain ⟨id, hfree, hfind⟩ := createUser_find h
  have hne : userId ≠ id := by
    rintro rfl
    rw [isEnabledAdmin_eq, hfree] at hadmin
    cases hadmin
  rw [isEnabledAdmin_eq, hfind, if_neg hne]
  exact hadmin

theorem hasAdmin_ensureAdminExists {config : RelayConfig} {countFault : Fault}
    {generated : Except String String} {choice : TaskChoice}
    (h : Database.empty.ensureAdminExists config countFault generated choice = .ok db) :
    db.hasAdmin = true := by
  unfold ensureAdminExists at h
  split at h
  · cases h
  · next count hcount =>
      obtain ⟨-, hcount⟩ := Fault.guard_eq_ok.mp hcount
      obtain rfl : 0 = count := Except.ok.inj hcount
      rw [if_neg (lt_irrefl 0)] at h
      split at h
      · cases h
      · next hash _ =>
          cases hcreate : Database.empty.createUser choice.fault choice.identifier
              DEFAULT_ADMIN_USERNAME hash .admin choice.now with
          | error e =>
              rw [hcreate] at h
              cases h
          | ok created =>
              rw [hcreate] at h
              obtain rfl : created = db := Except.ok.inj h
              obtain ⟨id, -, hfind⟩ := createUser_find hcreate
              rw [hasAdmin_iff]
              refine ⟨id, ?_⟩
              rw [isEnabledAdmin_eq, hfind id, if_pos rfl]
              rfl

theorem isEnabledAdmin_updateUser (db : Database) (fault : Fault) {id : String}
    {update : UserUpdate} (hadmin : db.isEnabledAdmin userId = true)
    (hspared : userId = id → update.disabled ≠ some true ∧ update.role ≠ some .user) :
    (db.updateUser fault id update).1.isEnabledAdmin userId = true := by
  refine Fault.runStatements_invariant (P := fun a : Database => a.isEnabledAdmin userId = true)
    hadmin ?_
  intro statement hstatement a ha
  have hset : ∀ (f : UserRecord → UserRecord) (hf : ∀ user, (f user).id = user.id),
      (userId = id → ∀ user, user.isEnabledAdmin = true → (f user).isEnabledAdmin = true) →
      (setUser id f hf a).isEnabledAdmin userId = true := by
    intro f hf hkeep
    obtain ⟨user, hfind, huser⟩ := (Option.any_eq_true _ _).mp ha
    rw [isEnabledAdmin_eq, setUser, Rows.find_update, hfind]
    simp only [Option.map_some, Option.any_some, decide_eq_true_eq]
    split
    · next hid => exact hkeep ((Rows.key_of_find hfind).symm.trans hid) user huser
    · exact huser
  simp only [updateUserStatements, List.mem_append, Option.mem_toList, Option.map_eq_some_iff]
    at hstatement
  rcases hstatement with (⟨disabled, hdisabled, rfl⟩ | ⟨role, hrole, rfl⟩) | ⟨hash, -, rfl⟩
  · refine hset _ _ fun hid user huser => ?_
    have hfalse : disabled = false := by
      cases disabled with
      | false => rfl
      | true => exact absurd hdisabled (hspared hid).1
    simp only [UserRecord.isEnabledAdmin, Bool.and_eq_true] at huser ⊢
    exact ⟨huser.1, by rw [hfalse]; rfl⟩
  · refine hset _ _ fun hid user huser => ?_
    have hisAdmin : role = .admin := by
      cases role with
      | admin => rfl
      | user => exact absurd hrole (hspared hid).2
    simp only [UserRecord.isEnabledAdmin, Bool.and_eq_true] at huser ⊢
    exact ⟨by rw [hisAdmin]; rfl, huser.2⟩
  · exact hset _ _ fun _ user huser => huser

theorem isEnabledAdmin_deleteUser {id : String} (h : db.deleteUser fault id = .ok db')
    (hadmin : db.isEnabledAdmin userId = true) (hne : userId ≠ id) :
    db'.isEnabledAdmin userId = true := by
  obtain rfl := deleteUser_deletes h
  obtain ⟨user, hfind, huser⟩ := (Option.any_eq_true _ _).mp hadmin
  have hid : user.id = userId := Rows.key_of_find hfind
  rw [isEnabledAdmin_eq, Rows.find_delete, hfind]
  simp [hid, hne, huser]

end Queries

end Database

theorem RequestStep.users_cases {config : RelayConfig} {choice : TaskChoice} {relay relay' : Relay}
    {request request' : Request} (h : RequestStep config choice relay request relay' request') :
    relay'.database.users = relay.database.users ∨
    (∃ username hash role, relay.database.createUser choice.fault choice.identifier username hash
      role choice.now = .ok relay'.database) ∨
    (∃ userId update, request = .updatingUser userId update ∧
      relay'.database = (relay.database.updateUser choice.fault userId update).1) ∨
    ∃ userId, request = .deletingUser userId ∧
      relay.database.deleteUser choice.fault userId = .ok relay'.database := by
  cases h with
  | userCreated h => exact .inr (.inl ⟨_, _, _, h⟩)
  | userUpdateFailed h => exact .inr (.inr (.inl ⟨_, _, rfl, rfl⟩))
  | userUpdated => exact .inr (.inr (.inl ⟨_, _, rfl, rfl⟩))
  | userDeleted h => exact .inr (.inr (.inr ⟨_, rfl, h⟩))
  | signedOut h => exact .inl (Database.keeps_deleteSessionsOfUser h).users
  | forgotten h => exact .inl (Database.keeps_deleteSessionsOfUser h).users
  | rowRevoked h => exact .inl (Database.revokeDevice_eq_ok h).1
  | discarded h => exact .inl (Database.revokeDevice_eq_ok h).1
  | disowned h => exact .inl (Database.disownDevicesOf_eq_ok h).1
  | deviceUpdated => exact .inl (Database.keeps_updateDevice _ _ _ _).users
  | codeCreated h => exact .inl h.users
  | codeCancelled h => exact .inl h.users
  | burned h _ => exact .inl h.users
  | issued _ h _ => exact .inl (Database.createDevice_eq_ok h).2.1
  | _ => exact .inl rfl

/-- A request let in as an account's. -/
structure AdminCall where
  actorId : String
  request : Request
deriving DecidableEq

/-- The requests that administer accounts; a deletion knows whose it is. -/
def AdminCall.administers (call : AdminCall) : Bool :=
  match call.request with
  | .createUser _ _ _ => true
  | .updateUser _ _ => true
  | .deleteUser actorId _ => decide (actorId = call.actorId)
  | _ => false

/-- The account the rest of a request deletes, once it has been let through. -/
def RevokeTail.deletes : RevokeTail → Option String
  | .delete userId => some userId
  | _ => none

def Request.deletes : Request → Option String
  | .listing _ tail => tail.deletes
  | .revoking _ _ tail _ => tail.deletes
  | .disowning userId => some userId
  | .forgetting userId => some userId
  | .deletingUser userId => some userId
  | _ => none

namespace AdminCall

/-- The request does not delete the account it was let in as. -/
def SparesActor (call : AdminCall) : Prop :=
  match call.request with
  | .deleteUser actorId _ => actorId = call.actorId
  | request => request.deletes ≠ some call.actorId

theorem sparesActor_of_administers {call : AdminCall} (h : call.administers = true) :
    call.SparesActor := by
  obtain ⟨actorId, request⟩ := call
  cases request with
  | deleteUser deleter id =>
      have hsame : deleter = actorId := of_decide_eq_true h
      exact hsame
  | createUser _ _ _ => exact fun h => by cases h
  | updateUser _ _ => exact fun h => by cases h
  | _ => cases h

theorem sparesActor_revokeNext {actorId : String} {tail : RevokeTail} (remaining : List String)
    (h : tail.deletes ≠ some actorId) :
    SparesActor ⟨actorId, Request.revokeNext tail remaining⟩ := by
  cases remaining with
  | cons _ _ => exact h
  | nil =>
      cases tail with
      | delete userId => exact h
      | _ => exact fun h => by cases h

theorem SparesActor.step {config : RelayConfig} {choice : TaskChoice} {relay relay' : Relay}
    {call : AdminCall} {request' : Request} (h : call.SparesActor)
    (hstep : call.request.step config relay choice = some (relay', request')) :
    SparesActor { call with request := request' } := by
  obtain ⟨actorId, request⟩ := call
  by_cases hdelete : ∃ deleter id, request = .deleteUser deleter id
  · obtain ⟨deleter, id, rfl⟩ := hdelete
    obtain rfl : deleter = actorId := h
    simp only [Request.step] at hstep
    split at hstep
    · cases hstep
      exact fun h => by cases h
    · next hne =>
        split at hstep
        · cases hstep
          exact fun h => by cases h
        · cases hstep
          exact fun h => by cases h
        · next user hfind =>
            cases hstep
            have hid : user.id = id :=
              Rows.key_of_find (Except.ok.inj (Fault.guard_eq_ok.mp hfind).2)
            exact fun hsame => hne (hid.symm.trans (Option.some.inj hsame))
  · have hold : request.deletes ≠ some actorId := by
      cases request with
      | deleteUser deleter id => exact absurd ⟨deleter, id, rfl⟩ hdelete
      | _ => exact h
    cases Request.step_eq_some hstep with
    | deletionStarted => exact absurd ⟨_, _, rfl⟩ hdelete
    | listed _ => exact sparesActor_revokeNext _ hold
    | unrouted _ => exact sparesActor_revokeNext _ hold
    | closed => exact sparesActor_revokeNext _ hold
    | userUpdated =>
        split
        · exact fun h => by cases h
        · exact fun h => by cases h
    | signedOut _ =>
        split
        · exact fun h => by cases h
        · exact fun h => by cases h
    | issued _ _ hrequest =>
        obtain rfl | ⟨enrollment, rfl⟩ := hrequest
        · exact fun h => by cases h
        · exact fun h => by cases h
    | burned _ hrequest =>
        obtain rfl | rfl := hrequest
        · exact fun h => by cases h
        · exact fun h => by cases h
    | _ => first | exact hold | exact fun h => by cases h

end AdminCall

namespace Administration

abbrev State := Pool Relay AdminCall
abbrev Label := PoolLabel AdminCall TaskChoice Empty

/-- A request is let in for an enabled administrator only. -/
def step (config : RelayConfig) : State → Label → Option State :=
  poolStep
    (fun relay call => call.administers && relay.database.isEnabledAdmin call.actorId)
    (fun _ relay call choice => (call.request.step config relay choice).map fun next =>
      (next.1, { call with request := next.2 }))
    fun _ event => nomatch event

def init (database : Database) : State := ⟨⟨database, .new, []⟩, []⟩

/-- What disables or demotes an enabled administrator, or deletes it, is written while its actor is
an enabled administrator itself; a patch is never its actor's own. -/
def actorRemains (db : Database) (call : AdminCall) : Bool :=
  match call.request with
  | .updatingUser userId update =>
      (decide (update.disabled ≠ some true) && decide (update.role ≠ some .user)) ||
        !db.isEnabledAdmin userId ||
        (decide (userId ≠ call.actorId) && db.isEnabledAdmin call.actorId)
  | .deletingUser userId => !db.isEnabledAdmin userId || db.isEnabledAdmin call.actorId
  | _ => true

def ActorRemains (s : State) : Label → Prop
  | .advance index _ => s.tasks[index]?.all (actorRemains s.shared.database) = true
  | .spawn _ => True
  | .environment _ => True

instance (s : State) : ∀ label, Decidable (ActorRemains s label)
  | .advance index _ => inferInstanceAs (Decidable (s.tasks[index]?.all _ = true))
  | .spawn _ => .isTrue trivial
  | .environment _ => .isTrue trivial

structure Inv (s : State) : Prop where
  admin : s.shared.database.hasAdmin = true
  others : ∀ call ∈ s.tasks, call.SparesActor

section Steps

variable {config : RelayConfig} {s s' : State} {label : Label}

theorem isEnabledAdmin_of_remains {db : Database} {userId id actorId : String}
    (huser : db.isEnabledAdmin userId = true) (hne : id ≠ actorId)
    (hremains : db.isEnabledAdmin id = false ∨ db.isEnabledAdmin actorId = true) :
    ∃ other, other ≠ id ∧ db.isEnabledAdmin other = true := by
  cases hremains with
  | inl hnotAdmin =>
      refine ⟨userId, ?_, huser⟩
      rintro rfl
      rw [huser] at hnotAdmin
      cases hnotAdmin
  | inr hactor => exact ⟨actorId, hne.symm, hactor⟩

theorem hasAdmin_requestStep {choice : TaskChoice} {relay relay' : Relay} {call : AdminCall}
    {request' : Request} (h : RequestStep config choice relay call.request relay' request')
    (hadmin : relay.database.hasAdmin = true) (hother : call.SparesActor)
    (hremains : actorRemains relay.database call = true) : relay'.database.hasAdmin = true := by
  obtain ⟨userId, huser⟩ := Database.hasAdmin_iff.mp hadmin
  rcases h.users_cases with hsame | ⟨username, hash, role, hcreate⟩ |
    ⟨id, update, hrequest, hupdate⟩ | ⟨id, hrequest, hdelete⟩
  · rwa [Database.hasAdmin, hsame]
  · exact Database.hasAdmin_iff.mpr ⟨userId, Database.isEnabledAdmin_createUser hcreate huser⟩
  · simp only [actorRemains, hrequest, Bool.or_eq_true, Bool.and_eq_true, decide_eq_true_eq,
      Bool.not_eq_true'] at hremains
    rw [hupdate, Database.hasAdmin_iff]
    rcases hremains with (hharmless | hnotAdmin) | ⟨hne, hactor⟩
    · exact ⟨userId, Database.isEnabledAdmin_updateUser _ _ huser fun _ => hharmless⟩
    · refine ⟨userId, Database.isEnabledAdmin_updateUser _ _ huser fun hid => ?_⟩
      rw [← hid, huser] at hnotAdmin
      cases hnotAdmin
    · exact ⟨call.actorId,
        Database.isEnabledAdmin_updateUser _ _ hactor fun hid => absurd hid.symm hne⟩
  · -- An account is never deleted as its own administrator.
    have hne : id ≠ call.actorId := by
      rw [AdminCall.SparesActor, hrequest] at hother
      exact fun hid => hother (congrArg some hid)
    simp only [actorRemains, hrequest, Bool.or_eq_true, Bool.not_eq_true'] at hremains
    obtain ⟨other, hother, hadmin⟩ := isEnabledAdmin_of_remains huser hne hremains
    exact Database.hasAdmin_iff.mpr
      ⟨other, Database.isEnabledAdmin_deleteUser hdelete hadmin hother⟩

theorem inv_step (hs : Inv s) (hok : ActorRemains s label)
    (hstep : step config s label = some s') : Inv s' := by
  cases label with
  | environment event => cases event
  | spawn call =>
      obtain ⟨hstarts, rfl⟩ := poolStep_spawn hstep
      rw [Bool.and_eq_true] at hstarts
      refine ⟨hs.admin, fun other hmem => ?_⟩
      rcases List.mem_append.mp hmem with hold | hnew
      · exact hs.others other hold
      · rw [List.mem_singleton.mp hnew]
        exact AdminCall.sparesActor_of_administers hstarts.1
  | advance index choice =>
      obtain ⟨call, relay', call', htask, hadvance, rfl⟩ := poolStep_advance hstep
      obtain ⟨next, hnext, heq⟩ := Option.map_eq_some_iff.mp hadvance
      rw [Prod.mk.injEq] at heq
      obtain ⟨rfl, rfl⟩ := heq
      have hcall := hs.others call (List.mem_of_getElem? htask)
      rw [ActorRemains, htask, Option.all_some] at hok
      exact ⟨hasAdmin_requestStep (Request.step_eq_some hnext) hs.admin hcall hok,
        forall_mem_set hs.others (hcall.step hnext)⟩

end Steps

/-- From the first start on there is an enabled administrator in every state, in every run in which
nobody disables or demotes itself, and whoever takes an administrator's office still holds its
own. -/
theorem enabled_admin_remains (config : RelayConfig) (countFault : Fault)
    (generated : Except String String) (choice : TaskChoice) (database : Database)
    (hfirst : Database.empty.ensureAdminExists config countFault generated choice = .ok database)
    (labels : List Label) (s : State)
    (hrun : run (step config) (init database) labels = some s)
    (hok : Meets (step config) ActorRemains (init database) labels) :
    ∃ user, s.shared.database.users.find user.id = some user ∧ user.role = .admin ∧
      user.disabled = false := by
  have hinv : Inv s :=
    run_invariant (P := Inv) (fun _ _ _ hs hlabel hstep => inv_step hs hlabel hstep)
      ⟨Database.hasAdmin_ensureAdminExists hfirst, fun _ h => by cases h⟩ hok hrun
  obtain ⟨userId, user, hfind, huser⟩ := Rows.anyRow_iff.mp hinv.admin
  simp only [UserRecord.isEnabledAdmin, UserRole.isAdmin, Bool.and_eq_true, decide_eq_true_eq,
    Bool.not_eq_true'] at huser
  exact ⟨user, Rows.key_of_find hfind ▸ hfind, huser⟩

def firstAccounts : Database :=
  match Database.empty.createUser none (some "user-1") DEFAULT_ADMIN_USERNAME "initial-secret"
      .admin 0 with
  | .ok database => database
  | .error _ => .empty

theorem firstAccounts_eq : Database.empty.ensureAdminExists System.plainConfig none
    (.ok "initial-secret") { identifier := some "user-1" } = .ok firstAccounts := rfl

def disableByDeputy : List Label :=
  [.spawn ⟨"user-1", .createUser "alice" "another-secret" .admin⟩,
    .advance 0 { identifier := some "user-2" },
    .spawn ⟨"user-2", .updateUser "user-1" ⟨some true, none, none⟩⟩, .advance 1 {}, .advance 1 {}]

theorem enabled_admin_remains_deputy :
    ∃ s, run (step System.plainConfig) (init firstAccounts) disableByDeputy = some s ∧
      s.shared.database.isEnabledAdmin "user-1" = false ∧
      ∃ user, s.shared.database.users.find user.id = some user ∧ user.role = .admin ∧
        user.disabled = false := by
  obtain ⟨s, hrun, hdisabled⟩ := exists_run (step System.plainConfig) (init firstAccounts)
    disableByDeputy (fun s => s.shared.database.isEnabledAdmin "user-1" = false)
    (by decide)
  exact ⟨s, hrun, hdisabled, enabled_admin_remains System.plainConfig none (.ok "initial-secret")
    { identifier := some "user-1" } firstAccounts firstAccounts_eq disableByDeputy s hrun
    (by decide)⟩

def disableSelf : List Label :=
  [.spawn ⟨"user-1", .updateUser "user-1" ⟨some true, none, none⟩⟩, .advance 0 {}, .advance 0 {}]

/-- No enabled account is left to administer the relay. -/
theorem enabled_admin_disables_itself :
    ¬ ∀ (config : RelayConfig) (countFault : Fault) (generated : Except String String)
      (choice : TaskChoice) (database : Database),
      Database.empty.ensureAdminExists config countFault generated choice = .ok database →
      ∀ (labels : List Label) (s : State),
        run (step config) (init database) labels = some s →
        ∃ user, s.shared.database.users.find user.id = some user ∧ user.role = .admin ∧
          user.disabled = false := by
  intro h
  obtain ⟨s, hrun, hnone⟩ := exists_run (step System.plainConfig) (init firstAccounts) disableSelf
    (fun s => s.shared.database.hasAdmin = false) (by decide)
  obtain ⟨user, hfind, hrole, henabled⟩ := h System.plainConfig none (.ok "initial-secret")
    { identifier := some "user-1" } firstAccounts firstAccounts_eq disableSelf s hrun
  have hadmin := Rows.anyRow_eq_false.mp hnone user.id user hfind
  simp [UserRecord.isEnabledAdmin, UserRole.isAdmin, hrole, henabled] at hadmin

end Administration

end TermexoRelay
