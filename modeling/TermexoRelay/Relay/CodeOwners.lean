import TermexoRelay.Relay.Codes

/-!
# The owner of a pending code

`devices.owner_user_id` references `users` and `enrollment_codes.owner_user_id` does not. A code is
checked against `users` when it is issued, so redeeming it depends on every request between the
check and the redemption.
-/

namespace TermexoRelay

open Transition

/-- The answer of a request no other request runs beside, when its actions are given these
choices. -/
def Request.answer (config : RelayConfig) :
    Relay → Request → List TaskChoice → Option (Except ApiError Reply)
  | _, .finished outcome, _ => some outcome
  | _, _, [] => none
  | relay, request, choice :: choices =>
      match request.step config relay choice with
      | some (relay, request) => Request.answer config relay request choices
      | none => none

theorem Request.answer_step {config : RelayConfig} {relay relay' : Relay}
    {request request' : Request} {choice : TaskChoice}
    (h : request.step config relay choice = some (relay', request')) (choices : List TaskChoice) :
    Request.answer config relay request (choice :: choices) =
      Request.answer config relay' request' choices := by
  cases request with
  | finished outcome => cases h
  | _ => simp only [Request.answer, h]

/-- A redemption on its own: the code is looked up, the row is created, the code is burned. -/
def redeem (config : RelayConfig) (relay : Relay) (code name : String)
    (credential : DeviceCredential) (now issued burned : Int) :
    Option (Except ApiError Reply) :=
  Request.answer config relay (.enrollWithCode code name)
    [{ now }, { now := issued, credential := some credential }, { now := burned }]

/-- A spelling of a pending code, a valid name, and a device id nobody has. -/
structure Redeems (config : RelayConfig) (db : Database) (row : EnrollmentRecord)
    (code name : String) (credential : DeviceCredential) (now : Int) : Prop where
  spelled : CodeRow config db code row.id row
  pending : row.status now = .pending
  name : ∃ label, requireText name "设备名称" MAX_DEVICE_NAME_LENGTH = .ok label
  fresh : db.devices.find credential.deviceId = none

namespace Database

/-- The owner of the row, if it has one, is in `users`. -/
def ownerLives (db : Database) (row : EnrollmentRecord) : Bool :=
  row.ownerUserId.all fun owner => (db.users.find owner).isSome

/-- The owner of every code that is neither used nor cancelled is in `users`. -/
def CodesOwned (db : Database) : Prop :=
  ∀ id row, db.enrollmentCodes.find id = some row → row.unsettled = true →
    db.ownerLives row = true

end Database

section Redeem

variable {config : RelayConfig} {relay : Relay} {row : EnrollmentRecord} {code name : String}
  {credential : DeviceCredential} {now : Int}

theorem Redeems.redeemable (h : Redeems config relay.database row code name credential now)
    (hdistinct : relay.database.CodesDistinct) :
    Request.redeemable config relay.database { now } code = .ok row := by
  obtain ⟨canonical, hcode, hrow, hhash⟩ := h.spelled
  have hfind : relay.database.enrollmentCodes.findWhere
      (fun other => other.codeHash = config.hashSecret canonical) = some row := by
    refine Rows.findWhere_of_unique hrow (decide_eq_true hhash) fun id other hother hp => ?_
    exact hdistinct id row.id other row hother hrow ((of_decide_eq_true hp).trans hhash.symm)
  have hredeemable : row.isRedeemable now = true := decide_eq_true h.pending
  rw [Request.redeemable, hcode]
  simp only [Database.findEnrollmentByHash, hfind, Fault.guard, Option.isSome_none,
    Bool.false_eq_true, if_false, hredeemable, if_true]

theorem Redeems.answer (h : Redeems config relay.database row code name credential now)
    (hdistinct : relay.database.CodesDistinct) (issued burned : Int) :
    redeem config relay code name credential now issued burned =
      some (if relay.database.ownerLives row then .ok (.enrolled credential)
        else .error .internal) := by
  obtain ⟨label, hname⟩ := h.name
  have hlookup : Request.step config relay { now } (.enrollWithCode code name) =
      some (relay, .issuing row.kind row.ownerUserId label (some row.id)) := by
    simp only [Request.step, hname, h.redeemable hdistinct]
  have hcreate : ∀ devices : Rows DeviceRecord.id,
      relay.database.devices.insert (Database.newDevice
        (Request.issued config credential row.kind row.ownerUserId label) issued) = some devices →
      relay.database.createDevice none
          (Request.issued config credential row.kind row.ownerUserId label) issued =
        if relay.database.ownerLives row then .ok { relay.database with devices }
        else .error .sqlite := by
    intro devices hinsert
    simp only [Database.createDevice, Fault.guard, Option.isSome_none, Bool.false_eq_true,
      if_false, hinsert]
    rfl
  obtain ⟨devices, hinsert⟩ := Rows.insert_of_free (Database.newDevice
    (Request.issued config credential row.kind row.ownerUserId label) issued) h.fresh
  rw [redeem, Request.answer_step hlookup]
  by_cases howner : relay.database.ownerLives row = true
  · have hissue : Request.step config relay { now := issued, credential := some credential }
        (.issuing row.kind row.ownerUserId label (some row.id)) =
        some ({ relay with database := { relay.database with devices } },
          .burning row.id credential) := by
      simp only [Request.step, hcreate devices hinsert, howner, if_true]
    obtain ⟨-, -, hfind, -⟩ := h.spelled
    have hopen : ∃ old, relay.database.enrollmentCodes.find row.id = some old ∧
        old.unsettled = true :=
      ⟨row, hfind, EnrollmentRecord.unsettled_of_status h.pending⟩
    obtain ⟨⟨database, changed⟩, hburn⟩ : ∃ result, Database.markEnrollmentUsed
        { relay.database with devices } none row.id credential.deviceId burned = .ok result :=
      ⟨_, rfl⟩
    have hchanged : changed = true := (Database.markEnrollmentUsed_eq_ok hburn).changed.mpr hopen
    rw [Request.answer_step hissue, if_pos howner]
    simp only [Request.answer, Request.step, hburn, hchanged, if_true, Request.succeed]
  · have hissue : Request.step config relay { now := issued, credential := some credential }
        (.issuing row.kind row.ownerUserId label (some row.id)) =
        some (relay, .finished (.error .internal)) := by
      simp only [Request.step, hcreate devices hinsert, howner]
      rfl
    rw [Request.answer_step hissue, if_neg howner]
    rfl

end Redeem

namespace Request

def isSuccess : Request → Bool
  | .finished (.ok _) => true
  | _ => false

def succeeds (config : RelayConfig) (relay : Relay) (choice : TaskChoice) (request : Request) :
    Bool :=
  (request.step config relay choice).any fun next => next.2.isSuccess

/-- A deletion spares the owner of every code that is neither used nor cancelled, and a code is
issued for an owner that is still there. -/
def keepsOwners (db : Database) : Request → Bool
  | .deletingUser userId =>
      !db.enrollmentCodes.anyRow fun row => row.unsettled && row.ownerUserId = some userId
  | .creatingEnrollment _ owner _ => owner.all fun owner => (db.users.find owner).isSome
  | _ => true

end Request

/-- The step deletes no account a pending code is for, and issues no code for an account that has
gone. -/
def System.ownersKept (config : RelayConfig) (s : System) : SystemLabel → Bool
  | .advance index choice =>
      match s.requestAt index with
      | some request =>
          !request.succeeds config s.shared choice || request.keepsOwners s.shared.database
      | none => true
  | _ => true

section Owned

variable {config : RelayConfig} {choice : TaskChoice} {relay relay' : Relay} {db db' : Database}
  {request request' : Request}

theorem ownerLives_iff {row : EnrollmentRecord} : db.ownerLives row = true ↔
    ∀ owner, row.ownerUserId = some owner → (db.users.find owner).isSome = true := by
  rw [Database.ownerLives, Option.all_eq_true]

theorem Database.CodesOwned.of_eq (h : db.CodesOwned)
    (hcodes : db'.enrollmentCodes = db.enrollmentCodes)
    (husers : ∀ userId, (db.users.find userId).isSome = true →
      (db'.users.find userId).isSome = true) : db'.CodesOwned := by
  intro id row hrow hunsettled
  rw [hcodes] at hrow
  have howner := ownerLives_iff.mp (h id row hrow hunsettled)
  exact ownerLives_iff.mpr fun owner hrowner => husers owner (howner owner hrowner)

theorem Database.CodesOwned.settle {id : String} {f : EnrollmentRecord → EnrollmentRecord}
    {changed : Bool} (h : db.CodesOwned) (hsettles : db.Settles db' id f changed)
    (hf : ∀ row : EnrollmentRecord, row.unsettled = true → (f row).unsettled = false) :
    db'.CodesOwned := by
  intro k row hrow hunsettled
  rw [hsettles.rows, Option.map_eq_some_iff] at hrow
  obtain ⟨old, hold, rfl⟩ := hrow
  split at hunsettled
  · next hk =>
      rw [hf old hk.2] at hunsettled
      cases hunsettled
  · next hk =>
      rw [if_neg hk, Database.ownerLives, hsettles.users]
      exact h k old hold hunsettled

/-- A deletion strands exactly the codes for its account. -/
theorem Database.codesOwned_deleteUser {fault : Fault} {userId : String} (h : db.CodesOwned)
    (hdeleted : db.deleteUser fault userId = .ok db') :
    db'.CodesOwned ↔ (Request.deletingUser userId).keepsOwners db = true := by
  obtain ⟨hcodes, husers⟩ := Database.codes_deleteUser hdeleted
  rw [Request.keepsOwners, Bool.not_eq_true', Rows.anyRow_eq_false]
  constructor
  · intro howned id row hrow
    rw [Bool.and_eq_false_iff, decide_eq_false_iff_not]
    by_cases hunsettled : row.unsettled = true
    · refine .inr fun howner => ?_
      have hlives := ownerLives_iff.mp (howned id row (hcodes ▸ hrow) hunsettled) userId howner
      rw [husers, if_pos rfl] at hlives
      cases hlives
    · exact .inl (Bool.not_eq_true _ ▸ hunsettled)
  · intro hspared id row hrow hunsettled
    rw [hcodes] at hrow
    refine ownerLives_iff.mpr fun owner howner => ?_
    have hne : owner ≠ userId := by
      rintro rfl
      have hno := hspared id row hrow
      rw [hunsettled, howner] at hno
      simp at hno
    rw [husers, if_neg hne]
    exact ownerLives_iff.mp (h id row hrow hunsettled) owner howner

/-- A new code has an owner exactly when the account it is for is still there. -/
theorem Database.codesOwned_createEnrollment {fault : Fault} {identifier : Option String}
    {enrollment : NewEnrollment} {now : Int} (h : db.CodesOwned)
    (hcreated : db.createEnrollment fault identifier enrollment now = .ok db') :
    db'.CodesOwned ↔
      enrollment.ownerUserId.all (fun owner => (db.users.find owner).isSome) = true := by
  obtain ⟨new, hnone, -, hfind⟩ := Database.createEnrollment_eq_ok hcreated
  have husers : db'.users = db.users := (Database.keeps_createEnrollment hcreated).users
  constructor
  · intro howned
    have hlives := howned new _ (by rw [hfind, if_pos rfl]) rfl
    rwa [Database.ownerLives, husers] at hlives
  · intro howner id row hrow hunsettled
    rw [Database.ownerLives, husers]
    rw [hfind] at hrow
    split at hrow
    · cases hrow
      exact howner
    · exact h id row hrow hunsettled

theorem Database.codesOwned_other (h : relay.database.CodesOwned)
    (hdeleting : ∀ userId, request ≠ .deletingUser userId)
    (hcreating : ∀ createdBy owner code, request ≠ .creatingEnrollment createdBy owner code)
    (hstep : request.step config relay choice = some (relay', request')) :
    relay'.database.CodesOwned := by
  cases Request.codesChange hstep with
  | none hcodes =>
      exact h.of_eq hcodes fun userId huser =>
        (Request.step_eq_some hstep).users_persist hdeleting huser
  | created _ _ => exact absurd rfl (hcreating _ _ _)
  | cancelled hcancelled =>
      refine h.settle (Database.cancelEnrollment_eq_ok hcancelled) fun row _ => ?_
      exact Bool.and_false _
  | burned hburned =>
      exact h.settle (Database.markEnrollmentUsed_eq_ok hburned) fun row _ => rfl

theorem Request.codesOwned_iff (h : relay.database.CodesOwned)
    (hstep : request.step config relay choice = some (relay', request')) :
    relay'.database.CodesOwned ↔
      (!request.succeeds config relay choice || request.keepsOwners relay.database) = true := by
  have hsucceeds : request.succeeds config relay choice = request'.isSuccess := by
    rw [Request.succeeds, hstep, Option.any_some]
  rw [hsucceeds]
  cases request with
  | deletingUser userId =>
      simp only [Request.step] at hstep
      split at hstep
      · cases hstep
        exact iff_of_true h rfl
      · next hdeleted =>
          cases hstep
          exact Database.codesOwned_deleteUser h hdeleted
  | creatingEnrollment createdBy owner code =>
      simp only [Request.step] at hstep
      split at hstep
      · cases hstep
        exact iff_of_true h rfl
      · cases hstep
        exact iff_of_true h rfl
      · split at hstep
        · cases hstep
          exact iff_of_true h rfl
        · next hcreated =>
            cases hstep
            exact Database.codesOwned_createEnrollment h hcreated
  | _ =>
      refine iff_of_true (Database.codesOwned_other h ?_ ?_ hstep) (Bool.or_true _)
      · exact fun _ heq => Request.noConfusion heq
      · exact fun _ _ _ heq => Request.noConfusion heq

end Owned

section Runs

variable {config : RelayConfig} {s s' : System} {label : SystemLabel}

theorem System.codesOwned_step (h : s.shared.database.CodesOwned)
    (hstep : System.step config s label = some s') :
    s'.shared.database.CodesOwned ↔ s.ownersKept config label = true := by
  cases label with
  | spawn task =>
      obtain ⟨-, rfl⟩ := poolStep_spawn hstep
      exact iff_of_true h rfl
  | environment event =>
      obtain ⟨relay, hrelay, rfl⟩ := poolStep_environment hstep
      obtain ⟨hdatabase, -⟩ := Relay.channelStep_eq_some hrelay
      exact iff_of_true (hdatabase ▸ h) rfl
  | advance index choice =>
      obtain ⟨task, relay, task', htask, hadvance, rfl⟩ := poolStep_advance hstep
      cases task with
      | session session =>
          obtain ⟨⟨_, session'⟩, hsession, heq⟩ := Option.map_eq_some_iff.mp hadvance
          cases heq
          refine iff_of_true ?_ ?_
          · refine h.of_eq (Session.codes_eq hsession) fun userId huser => ?_
            exact (Session.step_eq_some hsession).keeps.users ▸ huser
          · simp only [System.ownersKept, System.requestAt, htask]
      | request request =>
          obtain ⟨⟨_, request'⟩, hrequest, heq⟩ := Option.map_eq_some_iff.mp hadvance
          cases heq
          simp only [System.ownersKept, System.requestAt, htask]
          exact Request.codesOwned_iff h hrequest

theorem System.codesDistinct_step (h : s.shared.database.CodesDistinct)
    (hstep : System.step config s label = some s') : s'.shared.database.CodesDistinct := by
  cases label with
  | spawn task =>
      obtain ⟨-, rfl⟩ := poolStep_spawn hstep
      exact h
  | environment event =>
      obtain ⟨relay, hrelay, rfl⟩ := poolStep_environment hstep
      obtain ⟨hdatabase, -⟩ := Relay.channelStep_eq_some hrelay
      exact hdatabase ▸ h
  | advance index choice =>
      obtain ⟨task, relay, task', -, hadvance, rfl⟩ := poolStep_advance hstep
      exact (Task.codesKept hadvance).1.distinct h

end Runs

/-- While every deletion spares the owners of pending codes, and every code is issued for an owner
that is still there, every pending code redeems. In any other run some code is left whose redemption
fails with an internal error. -/
theorem pending_codes_redeem (config : RelayConfig) (labels : List SystemLabel) (s : System)
    (hrun : run (System.step config) (System.init .empty) labels = some s) :
    (Meets (System.step config) (fun s label => s.ownersKept config label = true)
        (System.init .empty) labels →
      ∀ row code name credential now issued burned,
        Redeems config s.shared.database row code name credential now →
        redeem config s.shared code name credential now issued burned =
          some (.ok (.enrolled credential))) ∧
    (¬ Meets (System.step config) (fun s label => s.ownersKept config label = true)
        (System.init .empty) labels →
      ∃ before after m id row, labels = before ++ after ∧
        run (System.step config) (System.init .empty) before = some m ∧
        m.shared.database.enrollmentCodes.find id = some row ∧ row.unsettled = true ∧
        ∀ code name credential now issued burned,
          Redeems config m.shared.database row code name credential now →
          redeem config m.shared code name credential now issued burned =
            some (.error .internal)) := by
  have hdistinct : ∀ {ls m}, run (System.step config) (System.init .empty) ls = some m →
      m.shared.database.CodesDistinct := by
    intro ls m hm
    refine Reachable.invariant (P := fun s : System => s.shared.database.CodesDistinct) ⟨ls, hm⟩ ?_
      fun _ _ _ h hstep => System.codesDistinct_step h hstep
    intro id id' row row' hrow
    cases hrow
  have howned : Throughout (System.step config) (fun s => s.shared.database.CodesOwned)
      (System.init .empty) labels ↔ Meets (System.step config)
        (fun s label => s.ownersKept config label = true) (System.init .empty) labels := by
    refine throughout_iff_meets (I := fun _ => True) (fun _ _ _ _ _ => trivial)
      (fun _ _ _ _ h hstep => System.codesOwned_step h hstep) trivial ?_ hrun
    intro id row hrow
    cases hrow
  constructor
  · intro hmeets row code name credential now issued burned hredeems
    have hlives : s.shared.database.ownerLives row = true := by
      obtain ⟨-, -, hrow, -⟩ := hredeems.spelled
      exact howned.mpr hmeets labels [] s (List.append_nil labels).symm hrun row.id row hrow
        (EnrollmentRecord.unsettled_of_status hredeems.pending)
    rw [hredeems.answer (hdistinct hrun) issued burned, if_pos hlives]
  · intro hbad
    rw [← howned] at hbad
    simp only [Throughout, Database.CodesOwned, not_forall] at hbad
    obtain ⟨before, after, m, hsplit, hm, id, row, hrow, hunsettled, hgone⟩ := hbad
    refine ⟨before, after, m, id, row, hsplit, hm, hrow, hunsettled, ?_⟩
    intro code name credential now issued burned hredeems
    rw [hredeems.answer (hdistinct hm) issued burned, if_neg hgone]

namespace System

def issueForAlice : List SystemLabel :=
  [.spawn (.request (.createUser "alice" "correct horse" .user)),
    .advance 0 { identifier := some "user-alice" },
    .spawn (.request (.createEnrollment "admin" ⟨.desktop, some "user-alice", none, none⟩)),
    .advance 1 {}, .advance 1 { identifier := some "code-1", code := .ok "ABCD-EFGH-JKLM" }]

def deleteAlice : List SystemLabel :=
  [.spawn (.request (.deleteUser "admin" "user-alice")), .advance 2 {}, .advance 2 {},
    .advance 2 {}, .advance 2 {}, .advance 2 {}]

def aliceCode : EnrollmentRecord :=
  Database.newEnrollment "code-1"
    ⟨"ABCD-EFGH-JKLM", .desktop, some "user-alice", "admin", none, 900000⟩ 0

theorem redeems_aliceCode {db : Database}
    (hrow : db.enrollmentCodes.find "code-1" = some aliceCode)
    (hfresh : db.devices.find "desk-1" = none) :
    Redeems plainConfig db aliceCode "abcd efgh jklm" "desk" ⟨"desk-1", "secret"⟩ 0 where
  spelled := ⟨"ABCD-EFGH-JKLM", by decide, hrow, rfl⟩
  pending := rfl
  name := ⟨"desk", by decide⟩
  fresh := hfresh

end System

/-- The code is pending and the account it was issued for is gone. -/
theorem pending_code_stranded :
    ¬ ∀ (labels : List SystemLabel) (s : System) (row : EnrollmentRecord) (code name : String)
      (credential : DeviceCredential) (now issued burned : Int),
      run (System.step System.plainConfig) (System.init .empty) labels = some s →
      Redeems System.plainConfig s.shared.database row code name credential now →
      redeem System.plainConfig s.shared code name credential now issued burned =
        some (.ok (.enrolled credential)) := by
  obtain ⟨s, hrun, hrow, hfresh, hanswer⟩ := exists_run (System.step System.plainConfig)
    (System.init .empty) (System.issueForAlice ++ System.deleteAlice)
    (fun s => s.shared.database.enrollmentCodes.find "code-1" = some System.aliceCode ∧
      s.shared.database.devices.find "desk-1" = none ∧
      redeem System.plainConfig s.shared "abcd efgh jklm" "desk" ⟨"desk-1", "secret"⟩ 0 0 0 =
        some (.error .internal)) (by decide)
  intro h
  have hok := h _ s _ _ _ _ 0 0 0 hrun (System.redeems_aliceCode hrow hfresh)
  rw [hanswer] at hok
  cases hok

theorem pending_codes_redeem_alice :
    ∃ s, run (System.step System.plainConfig) (System.init .empty) System.issueForAlice = some s ∧
      redeem System.plainConfig s.shared "abcd efgh jklm" "desk" ⟨"desk-1", "secret"⟩ 0 0 0 =
        some (.ok (.enrolled ⟨"desk-1", "secret"⟩)) := by
  obtain ⟨s, hrun, hrow, hfresh⟩ := exists_run (System.step System.plainConfig)
    (System.init .empty) System.issueForAlice
    (fun s => s.shared.database.enrollmentCodes.find "code-1" = some System.aliceCode ∧
      s.shared.database.devices.find "desk-1" = none) (by decide)
  exact ⟨s, hrun, (pending_codes_redeem System.plainConfig System.issueForAlice s hrun).1
    (by decide) _ _ _ _ 0 0 0 (System.redeems_aliceCode hrow hfresh)⟩

end TermexoRelay
