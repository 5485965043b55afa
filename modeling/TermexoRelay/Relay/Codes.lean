import TermexoRelay.Api.Redemption
import TermexoRelay.Relay.Tunnels

/-!
# One-time codes

Any number of redemptions of one code and cancellations of it run with everything else the relay
does. Beside each task stands what it was asked and which device row it created; neither decides
anything.
-/

namespace TermexoRelay

open Transition

/-- The device row an action creates. -/
def Request.creates : Request → Request → Option String
  | .issuing _ _ _ _, .burning _ credential => some credential.deviceId
  | .issuing _ _ _ _, .finished (.ok (.enrolled credential)) => some credential.deviceId
  | _, _ => none

def Task.creates : Task → Task → Option String
  | .request before, .request after => before.creates after
  | _, _ => none

structure Attempt where
  asked : Task
  stage : Task
  created : Option String
deriving DecidableEq

namespace Attempt

def start (task : Task) : Attempt := ⟨task, task, none⟩

def starts (attempt : Attempt) : Bool :=
  attempt.asked.starts && decide (attempt = start attempt.asked)

theorem eq_start {attempt : Attempt} (h : attempt.starts = true) :
    attempt = start attempt.asked :=
  of_decide_eq_true (Bool.and_eq_true _ _ ▸ h).2

def step (config : RelayConfig) (relay : Relay) (attempt : Attempt) (choice : TaskChoice) :
    Option (Relay × Attempt) :=
  (attempt.stage.step config relay choice).map fun next =>
    (next.1, { attempt with
      stage := next.2
      created := (attempt.stage.creates next.2).or attempt.created })

end Attempt

abbrev Redemptions := Pool Relay Attempt
abbrev RedemptionLabel := PoolLabel Attempt TaskChoice ChannelEvent

namespace Redemptions

def step (config : RelayConfig) : Redemptions → RedemptionLabel → Option Redemptions :=
  poolStep (fun _ attempt => attempt.starts)
    (fun _ relay attempt choice => attempt.step config relay choice) Relay.channelStep

def init (database : Database) : Redemptions := ⟨⟨database, .new, []⟩, []⟩

/-- Statements on behalf of a redemption do not fail. -/
def sound (choice : TaskChoice) (attempt : Attempt) : Bool :=
  match attempt.asked with
  | .request (.enrollWithCode _ _) => choice.fault.isNone
  | _ => true

def Sound (s : Redemptions) : RedemptionLabel → Prop
  | .advance index choice => s.tasks[index]?.all (sound choice) = true
  | .spawn _ => True
  | .environment _ => True

instance (s : Redemptions) : ∀ label, Decidable (Sound s label)
  | .advance index _ => inferInstanceAs (Decidable (s.tasks[index]?.all _ = true))
  | .spawn _ => .isTrue trivial
  | .environment _ => .isTrue trivial

end Redemptions

section Stages

variable {config : RelayConfig} {choice : TaskChoice} {relay relay' : Relay}
  {request request' : Request} {db db' : Database}

/-- The row is that of the code a device presents. -/
def CodeRow (config : RelayConfig) (db : Database) (code id : String) (row : EnrollmentRecord) :
    Prop :=
  ∃ canonical, normalizeCode code = some canonical ∧ db.enrollmentCodes.find id = some row ∧
    row.codeHash = config.hashSecret canonical

theorem CodeRow.persist {code id : String} {row : EnrollmentRecord}
    (h : CodeRow config db code id row) (hdb : db.CodesPersist db') :
    ∃ row', CodeRow config db' code id row' ∧ row.Outlives row' := by
  obtain ⟨canonical, hcode, hrow, hhash⟩ := h
  obtain ⟨row', hrow', houtlives⟩ := hdb id row hrow
  exact ⟨row', ⟨canonical, hcode, hrow', houtlives.codeHash.trans hhash⟩, houtlives⟩

/-- The code was burned for this device. -/
def BurnedFor (config : RelayConfig) (db : Database) (code deviceId : String) : Prop :=
  ∃ id row, CodeRow config db code id row ∧ row.usedAt.isSome = true ∧
    row.usedByDeviceId = some deviceId

theorem BurnedFor.persist {code deviceId : String} (h : BurnedFor config db code deviceId)
    (hdb : db.CodesPersist db') : BurnedFor config db' code deviceId := by
  obtain ⟨id, row, hrow, hused, hdevice⟩ := h
  obtain ⟨row', hrow', houtlives⟩ := hrow.persist hdb
  obtain ⟨hused', hdevice'⟩ := houtlives.used hused
  exact ⟨id, row', hrow', hused', hdevice'.trans hdevice⟩

/-- How far a redemption of the code is, with the row it created. -/
def Redeeming (config : RelayConfig) (db : Database) (code : String) (created : Option String) :
    Request → Prop
  | .enrollWithCode code' _ => code' = code ∧ created = none
  | .issuing _ _ _ (some id) => (∃ row, CodeRow config db code id row) ∧ created = none
  | .burning id credential =>
      (∃ row, CodeRow config db code id row) ∧ created = some credential.deviceId
  | .discarding deviceId => created = some deviceId
  | .finished (.ok (.enrolled credential)) =>
      created = some credential.deviceId ∧ BurnedFor config db code credential.deviceId
  | .finished (.error _) => True
  | _ => False

/-- How far a cancellation of the code is. -/
def Cancelling (db : Database) (id : String) : Request → Prop
  | .cancelEnrollment id' => id' = id
  | .cancelling id' => id' = id
  | .finished (.ok .done) =>
      ∃ row, db.enrollmentCodes.find id = some row ∧ row.cancelledAt.isSome = true
  | .finished (.error _) => True
  | _ => False

/-- A redemption that has been refused has revoked the row it created. -/
def Undone (db : Database) (created : Option String) : Request → Prop
  | .finished (.error _) => ∀ deviceId, created = some deviceId →
      ∃ row, db.standing deviceId = some row ∧ row.revoked = true
  | _ => True

theorem Redeeming.persist {code : String} {created : Option String}
    (h : Redeeming config db code created request) (hdb : db.CodesPersist db') :
    Redeeming config db' code created request := by
  cases request with
  | issuing kind owner name enrollment =>
      cases enrollment with
      | none => cases h
      | some id =>
          obtain ⟨⟨row, hrow⟩, hcreated⟩ := h
          obtain ⟨row', hrow', -⟩ := hrow.persist hdb
          exact ⟨⟨row', hrow'⟩, hcreated⟩
  | burning id credential =>
      obtain ⟨⟨row, hrow⟩, hcreated⟩ := h
      obtain ⟨row', hrow', -⟩ := hrow.persist hdb
      exact ⟨⟨row', hrow'⟩, hcreated⟩
  | finished outcome =>
      cases outcome with
      | error e => trivial
      | ok reply =>
          cases reply with
          | enrolled credential => exact ⟨h.1, h.2.persist hdb⟩
          | done => cases h
          | issued code => cases h
  | _ => exact h

theorem Cancelling.persist {id : String} (h : Cancelling db id request)
    (hdb : db.CodesPersist db') : Cancelling db' id request := by
  cases request with
  | finished outcome =>
      cases outcome with
      | error e => trivial
      | ok reply =>
          cases reply with
          | done =>
              obtain ⟨row, hrow, hcancelled⟩ := h
              obtain ⟨row', hrow', houtlives⟩ := hdb id row hrow
              exact ⟨row', hrow', houtlives.cancelled hcancelled⟩
          | enrolled credential => cases h
          | issued code => cases h
  | _ => exact h

theorem codeRow_of_redeemable {code : String} {enrollment : EnrollmentRecord}
    (h : Request.redeemable config db choice code = .ok enrollment) :
    CodeRow config db code enrollment.id enrollment ∧
      enrollment.isRedeemable choice.now = true := by
  unfold Request.redeemable at h
  split at h
  · cases h
  · next canonical hcode =>
      split at h
      · cases h
      · cases h
      · next row hfind =>
          split at h
          · next hredeemable =>
              cases h
              obtain ⟨-, hfind⟩ := Fault.guard_eq_ok.mp hfind
              obtain ⟨hrow, hhash⟩ := Rows.findWhere_eq_some (Except.ok.inj hfind)
              exact ⟨⟨canonical, hcode, hrow, of_decide_eq_true hhash⟩, hredeemable⟩
          · cases h

theorem Redeeming.step {code : String} {created : Option String}
    (h : Redeeming config relay.database code created request)
    (hstep : request.step config relay choice = some (relay', request')) :
    Redeeming config relay'.database code ((request.creates request').or created) request' := by
  have hpersist := (Request.codesChange hstep).persist
  cases request with
  | enrollWithCode code' name =>
      obtain ⟨rfl, rfl⟩ := h
      simp only [Request.step] at hstep
      split at hstep
      · cases hstep
        trivial
      · split at hstep
        · cases hstep
          trivial
        · next enrollment hredeemable =>
            cases hstep
            exact ⟨⟨enrollment, (codeRow_of_redeemable hredeemable).1⟩, rfl⟩
  | issuing kind owner name enrollment =>
      cases enrollment with
      | none => cases h
      | some id =>
          obtain ⟨⟨row, hrow⟩, rfl⟩ := h
          simp only [Request.step] at hstep
          split at hstep
          · cases hstep
            trivial
          · split at hstep
            · cases hstep
              trivial
            · cases hstep
              obtain ⟨row', hrow', -⟩ := hrow.persist hpersist
              exact ⟨⟨row', hrow'⟩, rfl⟩
  | burning id credential =>
      obtain ⟨⟨row, hrow⟩, rfl⟩ := h
      simp only [Request.step] at hstep
      split at hstep
      · cases hstep
        trivial
      · next changed hburned =>
          cases hstep
          cases changed with
          | false => rfl
          | true =>
              obtain ⟨old, hold, -, hnew⟩ := (Database.markEnrollmentUsed_eq_ok hburned).row
              obtain ⟨canonical, hcode, hfind, hhash⟩ := hrow
              rw [hold, Option.some.injEq] at hfind
              subst hfind
              exact ⟨rfl, id, _, ⟨canonical, hcode, hnew, hhash⟩, rfl, rfl⟩
  | discarding deviceId =>
      cases h
      simp only [Request.step] at hstep
      split at hstep <;> cases hstep <;> trivial
  | finished outcome => cases hstep
  | _ => cases h

theorem Cancelling.step {id : String} (h : Cancelling relay.database id request)
    (hstep : request.step config relay choice = some (relay', request')) :
    Cancelling relay'.database id request' := by
  cases request with
  | cancelEnrollment id' =>
      cases h
      simp only [Request.step] at hstep
      split at hstep
      · cases hstep
        trivial
      · cases hstep
        trivial
      · next record hfind =>
          cases hstep
          obtain ⟨-, hfind⟩ := Fault.guard_eq_ok.mp hfind
          exact Rows.key_of_find (Except.ok.inj hfind)
  | cancelling id' =>
      cases h
      simp only [Request.step] at hstep
      split at hstep
      · cases hstep
        trivial
      · next changed hcancelled =>
          cases hstep
          cases changed with
          | false => trivial
          | true =>
              obtain ⟨row, -, -, hnew⟩ := (Database.cancelEnrollment_eq_ok hcancelled).row
              exact ⟨_, hnew, rfl⟩
  | finished outcome => cases hstep
  | _ => cases h

theorem Undone.step {code : String} {created : Option String}
    (h : Redeeming config relay.database code created request)
    (hrow : ∀ deviceId, created = some deviceId →
      (relay.database.standing deviceId).isSome = true)
    (hfault : choice.fault = none)
    (hstep : request.step config relay choice = some (relay', request')) :
    Undone relay'.database ((request.creates request').or created) request' := by
  cases request with
  | enrollWithCode code' name =>
      obtain ⟨rfl, rfl⟩ := h
      simp only [Request.step] at hstep
      split at hstep
      · cases hstep
        exact fun deviceId hcreated => by cases hcreated
      · split at hstep
        · cases hstep
          exact fun deviceId hcreated => by cases hcreated
        · cases hstep
          trivial
  | issuing kind owner name enrollment =>
      cases enrollment with
      | none => cases h
      | some id =>
          obtain ⟨-, rfl⟩ := h
          simp only [Request.step] at hstep
          split at hstep
          · cases hstep
            exact fun deviceId hcreated => by cases hcreated
          · split at hstep
            · cases hstep
              exact fun deviceId hcreated => by cases hcreated
            · cases hstep
              trivial
  | burning id credential =>
      simp only [Request.step, Database.markEnrollmentUsed, hfault, Fault.guard,
        Option.isSome_none, Bool.false_eq_true, if_false, Option.some.injEq,
        Prod.mk.injEq] at hstep
      obtain ⟨-, rfl⟩ := hstep
      split <;> trivial
  | discarding deviceId =>
      cases h
      simp only [Request.step] at hstep
      split at hstep
      · next hfailed =>
          rw [hfault] at hfailed
          cases hfailed
      · next database _ hrevoked =>
          cases hstep
          intro deviceId' hcreated
          cases hcreated
          obtain ⟨-, hstanding⟩ := Database.revokeDevice_eq_ok hrevoked
          obtain ⟨row, hold⟩ := Option.isSome_iff_exists.mp (hrow deviceId rfl)
          exact ⟨_, by rw [hstanding, if_pos rfl, hold, Option.map_some], rfl⟩
  | finished outcome => cases hstep
  | _ => cases h

theorem Undone.persist {created : Option String} (h : Undone relay.database created request)
    (hprecedes : relay.Precedes relay') : Undone relay'.database created request := by
  cases request with
  | finished outcome =>
      cases outcome with
      | ok reply => trivial
      | error e =>
          intro deviceId hcreated
          obtain ⟨row, hrow, hrevoked⟩ := h deviceId hcreated
          obtain ⟨row', hrow', -, hkeep⟩ := hprecedes.standing deviceId row hrow
          exact ⟨row', hrow', hkeep hrevoked⟩
  | _ => trivial

theorem Request.creates_fresh {deviceId : String}
    (hstep : request.step config relay choice = some (relay', request'))
    (hcreated : request.creates request' = some deviceId) :
    relay.database.standing deviceId = none ∧
      (relay'.database.standing deviceId).isSome = true := by
  cases request with
  | issuing kind owner name enrollment =>
      simp only [Request.step] at hstep
      split at hstep
      · cases hstep
        cases hcreated
      · next credential hcredential =>
          split at hstep
          · cases hstep
            cases hcreated
          · next hissued =>
              cases hstep
              obtain ⟨hfree, -, -, hstanding⟩ := Database.createDevice_eq_ok hissued
              have hid : credential.deviceId = deviceId := by
                cases enrollment with
                | none => exact Option.some.inj hcreated
                | some id => exact Option.some.inj hcreated
              subst hid
              refine ⟨hfree, ?_⟩
              rw [hstanding]
              exact congrArg Option.isSome (if_pos rfl)
  | _ => cases hcreated

theorem Session.codes_eq {session session' : Session}
    (h : session.step config relay choice = some (relay', session')) :
    relay'.database.enrollmentCodes = relay.database.enrollmentCodes := by
  rcases Session.database_cases h with hsame | ⟨deviceId, f, hf, -, hset⟩
  · rw [hsame]
  · rw [hset]
    rfl

end Stages

namespace Attempt

variable {config : RelayConfig} {choice : TaskChoice} {relay relay' : Relay}
  {attempt attempt' : Attempt}

theorem step_eq_some (h : attempt.step config relay choice = some (relay', attempt')) :
    ∃ stage, attempt.stage.step config relay choice = some (relay', stage) ∧
      attempt' = { attempt with
        stage, created := (attempt.stage.creates stage).or attempt.created } := by
  obtain ⟨⟨_, stage⟩, hstage, heq⟩ := Option.map_eq_some_iff.mp h
  cases heq
  exact ⟨stage, hstage, rfl⟩

/-- What an attempt has done so far fits what it was asked. -/
def Sound (config : RelayConfig) (db : Database) (attempt : Attempt) : Prop :=
  match attempt.asked with
  | .request (.enrollWithCode code _) => ∃ request, attempt.stage = .request request ∧
      Redeeming config db code attempt.created request
  | .request (.cancelEnrollment id) => ∃ request, attempt.stage = .request request ∧
      Cancelling db id request
  | _ => True

def LoserUndone (db : Database) (attempt : Attempt) : Prop :=
  ∀ code name request, attempt.asked = .request (.enrollWithCode code name) →
    attempt.stage = .request request → Undone db attempt.created request

theorem sound_start (db : Database) (task : Task) : (start task).Sound config db := by
  cases task with
  | session session => trivial
  | request request =>
      cases request with
      | enrollWithCode code name => exact ⟨_, rfl, rfl, rfl⟩
      | cancelEnrollment id => exact ⟨_, rfl, rfl⟩
      | _ => trivial

theorem Sound.persist {db db' : Database} (h : attempt.Sound config db)
    (hdb : db.CodesPersist db') : attempt.Sound config db' := by
  unfold Sound at h ⊢
  split
  · next hasked =>
      rw [hasked] at h
      obtain ⟨request, hstage, hredeeming⟩ := h
      exact ⟨request, hstage, hredeeming.persist hdb⟩
  · next hasked =>
      rw [hasked] at h
      obtain ⟨request, hstage, hcancelling⟩ := h
      exact ⟨request, hstage, hcancelling.persist hdb⟩
  · trivial

theorem Sound.step (h : attempt.Sound config relay.database)
    (hstep : attempt.step config relay choice = some (relay', attempt')) :
    attempt'.Sound config relay'.database := by
  obtain ⟨stage', hstage', rfl⟩ := step_eq_some hstep
  unfold Sound at h ⊢
  split
  · next hasked =>
      simp only at hasked
      rw [hasked] at h
      obtain ⟨request, hstage, hredeeming⟩ := h
      rw [hstage] at hstage'
      obtain ⟨⟨_, request'⟩, hrequest, heq⟩ := Option.map_eq_some_iff.mp hstage'
      cases heq
      refine ⟨request', rfl, ?_⟩
      simp only [hstage]
      exact hredeeming.step hrequest
  · next hasked =>
      simp only at hasked
      rw [hasked] at h
      obtain ⟨request, hstage, hcancelling⟩ := h
      rw [hstage] at hstage'
      obtain ⟨⟨_, request'⟩, hrequest, heq⟩ := Option.map_eq_some_iff.mp hstage'
      cases heq
      exact ⟨request', rfl, hcancelling.step hrequest⟩
  · trivial

theorem LoserUndone.step (hsound : attempt.Sound config relay.database)
    (hrow : ∀ deviceId, attempt.created = some deviceId →
      (relay.database.standing deviceId).isSome = true)
    (hfault : Redemptions.sound choice attempt = true)
    (hstep : attempt.step config relay choice = some (relay', attempt')) :
    attempt'.LoserUndone relay'.database := by
  obtain ⟨stage', hstage', rfl⟩ := step_eq_some hstep
  intro code name request' hasked hrequest'
  simp only at hasked hrequest'
  subst hrequest'
  rw [Sound, hasked] at hsound
  rw [Redemptions.sound, hasked] at hfault
  obtain ⟨request, hstage, hredeeming⟩ := hsound
  rw [hstage] at hstage' ⊢
  obtain ⟨⟨_, request''⟩, hrequest, heq⟩ := Option.map_eq_some_iff.mp hstage'
  cases heq
  exact Undone.step hredeeming hrow (Option.isNone_iff_eq_none.mp hfault) hrequest

theorem LoserUndone.persist (h : attempt.LoserUndone relay.database)
    (hprecedes : relay.Precedes relay') : attempt.LoserUndone relay'.database :=
  fun code name request hasked hstage => (h code name request hasked hstage).persist hprecedes

theorem created_step
    (hrow : ∀ deviceId, attempt.created = some deviceId →
      (relay.database.standing deviceId).isSome = true)
    (hprecedes : relay.Precedes relay')
    (hstep : attempt.step config relay choice = some (relay', attempt')) {deviceId : String}
    (hcreated : attempt'.created = some deviceId) :
    (relay'.database.standing deviceId).isSome = true ∧
      (attempt.created = some deviceId ∨ relay.database.standing deviceId = none) := by
  obtain ⟨stage', hstage', rfl⟩ := step_eq_some hstep
  rcases Option.or_eq_some_iff.mp hcreated with hnew | ⟨-, hold⟩
  · cases hbefore : attempt.stage with
    | session session =>
        rw [hbefore] at hnew
        cases hnew
    | request request =>
        rw [hbefore] at hstage' hnew
        obtain ⟨⟨_, request'⟩, hrequest, heq⟩ := Option.map_eq_some_iff.mp hstage'
        cases heq
        obtain ⟨hfree, hsome⟩ := Request.creates_fresh hrequest hnew
        exact ⟨hsome, .inr hfree⟩
  · obtain ⟨row, hfound⟩ := Option.isSome_iff_exists.mp (hrow deviceId hold)
    obtain ⟨row', hrow', -, -⟩ := hprecedes.standing deviceId row hfound
    exact ⟨hrow' ▸ rfl, .inl hold⟩

end Attempt

structure Database.CodesKept (db db' : Database) : Prop where
  persist : db.CodesPersist db'
  distinct : db.CodesDistinct → db'.CodesDistinct
  settledOnce : db.SettledOnce → db'.SettledOnce

theorem Database.codesKept_of_eq {db db' : Database}
    (h : db'.enrollmentCodes = db.enrollmentCodes) : db.CodesKept db' where
  persist := by
    intro id row hrow
    exact ⟨row, h ▸ hrow, .refl row⟩
  distinct := by
    intro hdb id id' row row' hrow hrow'
    rw [h] at hrow hrow'
    exact hdb id id' row row' hrow hrow'
  settledOnce := by
    intro hdb id row hrow
    rw [h] at hrow
    exact hdb id row hrow

theorem Task.codesKept {config : RelayConfig} {choice : TaskChoice} {relay relay' : Relay}
    {task task' : Task} (h : task.step config relay choice = some (relay', task')) :
    relay.database.CodesKept relay'.database ∧ relay.Precedes relay' := by
  cases task with
  | session session =>
      obtain ⟨⟨_, session'⟩, hsession, heq⟩ := Option.map_eq_some_iff.mp h
      cases heq
      exact ⟨Database.codesKept_of_eq (Session.codes_eq hsession),
        (Session.step_eq_some hsession).precedes⟩
  | request request =>
      obtain ⟨⟨_, request'⟩, hrequest, heq⟩ := Option.map_eq_some_iff.mp h
      cases heq
      have hchange := Request.codesChange hrequest
      exact ⟨⟨hchange.persist, hchange.distinct, hchange.settledOnce⟩,
        (Request.step_eq_some hrequest).precedes⟩

namespace Redemptions

variable {config : RelayConfig} {s s' : Redemptions} {label : RedemptionLabel}

structure Inv (config : RelayConfig) (s : Redemptions) : Prop where
  distinct : s.shared.database.CodesDistinct
  settledOnce : s.shared.database.SettledOnce
  sound : ∀ attempt ∈ s.tasks, attempt.Sound config s.shared.database
  rows : ∀ attempt ∈ s.tasks, ∀ deviceId, attempt.created = some deviceId →
    (s.shared.database.standing deviceId).isSome = true
  keys : DistinctKeys Attempt.created s.tasks

theorem inv_init {database : Database} (hdistinct : database.CodesDistinct)
    (hsettled : database.SettledOnce) : Inv config (init database) where
  distinct := hdistinct
  settledOnce := hsettled
  sound := fun attempt h => absurd h List.not_mem_nil
  rows := fun attempt h => absurd h List.not_mem_nil
  keys := fun i j t t' k hi => by cases hi

theorem Inv.step (hs : Inv config s) (h : step config s label = some s') : Inv config s' := by
  cases label with
  | spawn attempt =>
      obtain ⟨hstarts, rfl⟩ := poolStep_spawn h
      have hstart := Attempt.eq_start hstarts
      refine ⟨hs.distinct, hs.settledOnce, ?_, ?_, ?_⟩
      · rw [List.forall_mem_append, List.forall_mem_singleton]
        refine ⟨hs.sound, ?_⟩
        rw [hstart]
        exact Attempt.sound_start _ _
      · rw [List.forall_mem_append, List.forall_mem_singleton]
        refine ⟨hs.rows, fun deviceId hcreated => ?_⟩
        rw [hstart] at hcreated
        cases hcreated
      · refine hs.keys.append ?_
        rw [hstart]
        rfl
  | advance index choice =>
      obtain ⟨attempt, relay, attempt', hattempt, hstep, rfl⟩ := poolStep_advance h
      have hmem := List.mem_of_getElem? hattempt
      obtain ⟨stage, hstage, -⟩ := Attempt.step_eq_some hstep
      obtain ⟨hkept, hprecedes⟩ := Task.codesKept hstage
      have hcreated : ∀ deviceId, attempt'.created = some deviceId →
          (relay.database.standing deviceId).isSome = true ∧
            (attempt.created = some deviceId ∨ s.shared.database.standing deviceId = none) :=
        fun deviceId => Attempt.created_step (hs.rows attempt hmem) hprecedes hstep
      refine ⟨hkept.distinct hs.distinct, hkept.settledOnce hs.settledOnce, ?_, ?_, ?_⟩
      · exact forall_mem_set (fun other hother => (hs.sound other hother).persist hkept.persist)
          ((hs.sound attempt hmem).step hstep)
      · refine forall_mem_set (fun other hother deviceId hother' => ?_)
          fun deviceId h => (hcreated deviceId h).1
        obtain ⟨row, hrow⟩ := Option.isSome_iff_exists.mp (hs.rows other hother deviceId hother')
        obtain ⟨row', hrow', -, -⟩ := hprecedes.standing deviceId row hrow
        rw [hrow']
        rfl
      · refine hs.keys.set hattempt fun deviceId h => ?_
        rcases (hcreated deviceId h).2 with hold | hfree
        · exact .inl hold
        · refine .inr fun i other hother hkey => ?_
          have hrow := hs.rows other (List.mem_of_getElem? hother) deviceId hkey
          rw [hfree] at hrow
          cases hrow
  | environment event =>
      obtain ⟨relay, hrelay, rfl⟩ := poolStep_environment h
      obtain ⟨hdatabase, -⟩ := Relay.channelStep_eq_some hrelay
      refine ⟨?_, ?_, ?_, ?_, hs.keys⟩
      · exact hdatabase ▸ hs.distinct
      · exact hdatabase ▸ hs.settledOnce
      · exact hdatabase ▸ hs.sound
      · exact hdatabase ▸ hs.rows

/-- A step without a failing statement leaves every refused redemption undone. -/
theorem losersUndone_step (hs : Inv config s)
    (hundone : ∀ attempt ∈ s.tasks, attempt.LoserUndone s.shared.database)
    (hsound : Sound s label) (h : step config s label = some s') :
    ∀ attempt ∈ s'.tasks, attempt.LoserUndone s'.shared.database := by
  cases label with
  | spawn attempt =>
      obtain ⟨hstarts, rfl⟩ := poolStep_spawn h
      have hstart := Attempt.eq_start hstarts
      rw [List.forall_mem_append, List.forall_mem_singleton]
      refine ⟨hundone, fun code name request hasked hstage => ?_⟩
      rw [hstart] at hstage ⊢
      rw [Attempt.start, hasked] at hstage
      cases hstage
      trivial
  | advance index choice =>
      obtain ⟨attempt, relay, attempt', hattempt, hstep, rfl⟩ := poolStep_advance h
      have hmem := List.mem_of_getElem? hattempt
      obtain ⟨stage, hstage, -⟩ := Attempt.step_eq_some hstep
      obtain ⟨-, hprecedes⟩ := Task.codesKept hstage
      rw [Sound, hattempt] at hsound
      exact forall_mem_set (fun other hother => (hundone other hother).persist hprecedes)
        (.step (hs.sound attempt hmem) (hs.rows attempt hmem) hsound hstep)
  | environment event =>
      obtain ⟨relay, hrelay, rfl⟩ := poolStep_environment h
      exact fun attempt hattempt => (hundone attempt hattempt).persist
        (Relay.precedes_channelStep hrelay)

def Redeemed (s : Redemptions) (index : Nat) (code : String) (credential : DeviceCredential) :
    Prop :=
  ∃ attempt name, s.tasks[index]? = some attempt ∧
    attempt.asked = .request (.enrollWithCode code name) ∧
    attempt.stage = .request (Request.succeed (.enrolled credential))

def Cancelled (s : Redemptions) (index : Nat) (id : String) : Prop :=
  ∃ attempt, s.tasks[index]? = some attempt ∧
    attempt.asked = .request (.cancelEnrollment id) ∧
    attempt.stage = .request (Request.succeed .done)

def Lost (s : Redemptions) (index : Nat) (code deviceId : String) : Prop :=
  ∃ attempt name e, s.tasks[index]? = some attempt ∧
    attempt.asked = .request (.enrollWithCode code name) ∧
    attempt.stage = .request (Request.fail e) ∧ attempt.created = some deviceId

theorem Redeemed.burned {index : Nat} {code : String} {credential : DeviceCredential}
    (h : s.Redeemed index code credential) (hs : Inv config s) :
    ∃ attempt, s.tasks[index]? = some attempt ∧ attempt.created = some credential.deviceId ∧
      BurnedFor config s.shared.database code credential.deviceId := by
  obtain ⟨attempt, name, hattempt, hasked, hstage⟩ := h
  have hsound := hs.sound attempt (List.mem_of_getElem? hattempt)
  rw [Attempt.Sound, hasked] at hsound
  obtain ⟨request, hstage', hredeeming⟩ := hsound
  rw [hstage] at hstage'
  cases hstage'
  exact ⟨attempt, hattempt, hredeeming.1, hredeeming.2⟩

theorem Cancelled.row {index : Nat} {id : String} (h : s.Cancelled index id)
    (hs : Inv config s) :
    ∃ row, s.shared.database.enrollmentCodes.find id = some row ∧
      row.cancelledAt.isSome = true := by
  obtain ⟨attempt, hattempt, hasked, hstage⟩ := h
  have hsound := hs.sound attempt (List.mem_of_getElem? hattempt)
  rw [Attempt.Sound, hasked] at hsound
  obtain ⟨request, hstage', hcancelling⟩ := hsound
  rw [hstage] at hstage'
  cases hstage'
  exact hcancelling

theorem codeRow_unique {db : Database} {code code' id id' : String}
    {row row' : EnrollmentRecord} (hdb : db.CodesDistinct) (h : CodeRow config db code id row)
    (h' : CodeRow config db code' id' row') (hcode : normalizeCode code = normalizeCode code') :
    id = id' ∧ row = row' := by
  obtain ⟨canonical, hcanonical, hrow, hhash⟩ := h
  obtain ⟨canonical', hcanonical', hrow', hhash'⟩ := h'
  rw [hcode, hcanonical', Option.some.injEq] at hcanonical
  subst hcanonical
  have hid : id = id' := hdb id id' row row' hrow hrow' (hhash.trans hhash'.symm)
  subst hid
  rw [hrow, Option.some.injEq] at hrow'
  exact ⟨rfl, hrow'⟩

/-- What every interleaving of redemptions and cancellations comes to. -/
structure RedeemedOnce (config : RelayConfig) (s : Redemptions) : Prop where
  unique : ∀ i j code code' credential credential', s.Redeemed i code credential →
    s.Redeemed j code' credential' → normalizeCode code = normalizeCode code' → i = j
  burned : ∀ i code credential, s.Redeemed i code credential → ∃ id row,
    CodeRow config s.shared.database code id row ∧ row.usedAt.isSome = true ∧
      row.usedByDeviceId = some credential.deviceId ∧ ∀ j, ¬ s.Cancelled j id
  cancelled : ∀ i j code id row credential, CodeRow config s.shared.database code id row →
    s.Cancelled j id → ¬ s.Redeemed i code credential
  settledOnce : s.shared.database.SettledOnce

theorem Inv.redeemedOnce (hs : Inv config s) : RedeemedOnce config s := by
  have hburned : ∀ i code credential, s.Redeemed i code credential → ∃ id row,
      CodeRow config s.shared.database code id row ∧ row.usedAt.isSome = true ∧
        row.usedByDeviceId = some credential.deviceId ∧ ∀ j, ¬ s.Cancelled j id := by
    intro i code credential hredeemed
    obtain ⟨-, -, -, id, row, hrow, hused, hdevice⟩ := hredeemed.burned hs
    refine ⟨id, row, hrow, hused, hdevice, fun j hcancelled => ?_⟩
    obtain ⟨row', hrow', hcancelledAt⟩ := hcancelled.row hs
    obtain ⟨-, -, hfind, -⟩ := hrow
    rw [hfind, Option.some.injEq] at hrow'
    subst hrow'
    exact hs.settledOnce id row hfind ⟨hused, hcancelledAt⟩
  refine ⟨?_, hburned, ?_, hs.settledOnce⟩
  · intro i j code code' credential credential' hi hj hcode
    obtain ⟨attempt, hattempt, hcreated, id, row, hrow, -, hdevice⟩ := hi.burned hs
    obtain ⟨attempt', hattempt', hcreated', id', row', hrow', -, hdevice'⟩ := hj.burned hs
    obtain ⟨-, rfl⟩ := codeRow_unique hs.distinct hrow hrow' hcode
    rw [hdevice] at hdevice'
    exact hs.keys i j attempt attempt' _ hattempt hattempt' hcreated (hcreated'.trans hdevice'.symm)
  · intro i j code id row credential hrow hcancelled hredeemed
    obtain ⟨id', row', hrow', -, -, hnone⟩ := hburned i code credential hredeemed
    obtain ⟨rfl, -⟩ := codeRow_unique hs.distinct hrow hrow' rfl
    exact hnone j hcancelled

/-- What the relay leaves behind, however often it was restarted. -/
inductive LeftBehind (config : RelayConfig) : Database → Prop
  | empty : LeftBehind config .empty
  | run {database : Database} {labels : List RedemptionLabel} {s : Redemptions}
      (h : LeftBehind config database)
      (hrun : Transition.run (Redemptions.step config) (init database) labels = some s) :
      LeftBehind config s.shared.database

theorem run_inv {database : Database} {labels : List RedemptionLabel}
    (hdistinct : database.CodesDistinct) (hsettled : database.SettledOnce)
    (hrun : run (Redemptions.step config) (init database) labels = some s) : Inv config s :=
  Reachable.invariant ⟨labels, hrun⟩ (inv_init hdistinct hsettled)
    fun _ _ _ hs hstep => hs.step hstep

theorem LeftBehind.valid {database : Database} (h : LeftBehind config database) :
    database.CodesDistinct ∧ database.SettledOnce := by
  induction h with
  | empty =>
      constructor
      · intro id id' row row' hrow
        cases hrow
      · intro id row hrow
        cases hrow
  | run _ hrun ih =>
      have hs := run_inv ih.1 ih.2 hrun
      exact ⟨hs.distinct, hs.settledOnce⟩

end Redemptions

/-- At most one attempt redeems a code, none once it is cancelled; and while statements do not fail,
a redemption that is refused has revoked the row it created. -/
theorem code_redeemed_once (config : RelayConfig) (database : Database)
    (hdatabase : Redemptions.LeftBehind config database) (labels : List RedemptionLabel)
    (s : Redemptions)
    (hrun : run (Redemptions.step config) (Redemptions.init database) labels = some s) :
    s.RedeemedOnce config ∧
      (Meets (Redemptions.step config) Redemptions.Sound (Redemptions.init database) labels →
        ∀ index code deviceId, s.Lost index code deviceId →
          ∃ row, s.shared.database.standing deviceId = some row ∧ row.revoked = true) := by
  obtain ⟨hdistinct, hsettled⟩ := hdatabase.valid
  have hs := Redemptions.run_inv hdistinct hsettled hrun
  refine ⟨hs.redeemedOnce, fun hmeets index code deviceId hlost => ?_⟩
  have hundone : Redemptions.Inv config s ∧
      ∀ attempt ∈ s.tasks, attempt.LoserUndone s.shared.database := by
    refine run_invariant (P := fun s => Redemptions.Inv config s ∧
      ∀ attempt ∈ s.tasks, attempt.LoserUndone s.shared.database) ?_
      ⟨Redemptions.inv_init hdistinct hsettled, ?_⟩ hmeets hrun
    · intro s label s' h hsound hstep
      exact ⟨h.1.step hstep, Redemptions.losersUndone_step h.1 h.2 hsound hstep⟩
    · exact fun attempt h => absurd h List.not_mem_nil
  obtain ⟨attempt, name, e, hattempt, hasked, hstage, hcreated⟩ := hlost
  exact hundone.2 attempt (List.mem_of_getElem? hattempt) code name _ hasked hstage deviceId
    hcreated

namespace Redemptions

def attempted (request : Request) : RedemptionLabel := .spawn (.start (.request request))

/-- Two devices present one code; both have a row before the first of them burns it, and a
cancellation comes too late. -/
def race : List RedemptionLabel :=
  [attempted (.createEnrollment "admin" ⟨.desktop, none, none, none⟩), .advance 0 {},
    .advance 0 { identifier := some "code-1", code := .ok "ABCD-EFGH-JKLM" },
    attempted (.enrollWithCode "abcd efgh jklm" "desk"),
    attempted (.enrollWithCode "ABCD-EFGH-JKLM" "desk"), attempted (.cancelEnrollment "code-1"),
    .advance 1 {}, .advance 2 {}, .advance 3 {},
    .advance 1 { credential := some ⟨"desk-1", "secret"⟩ },
    .advance 2 { credential := some ⟨"desk-2", "secret"⟩ },
    .advance 2 {}, .advance 1 {}, .advance 3 {}, .advance 1 {}]

end Redemptions

theorem code_redeemed_once_race :
    ∃ s, run (Redemptions.step System.plainConfig) (Redemptions.init .empty) Redemptions.race =
        some s ∧ s.RedeemedOnce System.plainConfig ∧
      s.Redeemed 2 "ABCD-EFGH-JKLM" ⟨"desk-2", "secret"⟩ ∧
      ∃ row, s.shared.database.standing "desk-1" = some row ∧ row.revoked = true := by
  have hend := exists_run (Redemptions.step System.plainConfig) (Redemptions.init .empty)
    Redemptions.race
    (fun s => s.tasks[1]? = some ⟨.request (.enrollWithCode "abcd efgh jklm" "desk"),
        .request (.fail (.unauthorized INVALID_CODE)), some "desk-1"⟩ ∧
      s.tasks[2]? = some ⟨.request (.enrollWithCode "ABCD-EFGH-JKLM" "desk"),
        .request (.succeed (.enrolled ⟨"desk-2", "secret"⟩)), some "desk-2"⟩)
    (by decide)
  obtain ⟨s, hrun, hloser, hwinner⟩ := hend
  obtain ⟨honce, hundone⟩ := code_redeemed_once System.plainConfig .empty .empty Redemptions.race s
    hrun
  refine ⟨s, hrun, honce, ⟨_, _, hwinner, rfl, rfl⟩, ?_⟩
  exact hundone (by decide) 1 "abcd efgh jklm" "desk-1" ⟨_, _, _, hloser, rfl, rfl, rfl⟩

end TermexoRelay
