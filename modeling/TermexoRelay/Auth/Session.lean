import TermexoRelay.Api.Errors
import TermexoRelay.Database.Queries

/-!
# Console sessions

A session is created with a fresh token and resolved in up to three queries, between which any
other task may act. Resolving slides the deadline forward.
-/

namespace TermexoRelay

/-- Seven days. -/
def SESSION_LIFETIME_MS : Int := 7 * 24 * 60 * 60 * 1000

/-- How much the deadline has to move before it is worth a write: an hour. -/
def SESSION_RENEWAL_THRESHOLD_MS : Int := 60 * 60 * 1000

/-- The new deadline, unless the stored one is still close enough. -/
def renewedExpiry (currentExpiresAt now : Int) : Option Int :=
  let extended := now + SESSION_LIFETIME_MS
  if SESSION_RENEWAL_THRESHOLD_MS ≤ extended - currentExpiresAt then some extended else none

namespace Database

def createSession (db : Database) (fault : Fault) (session : SessionRecord) :
    Except DatabaseError Database :=
  fault.guard <|
    match db.consoleSessions.insert session with
    | some consoleSessions => .ok { db with consoleSessions }
    | none => .error .sqlite

def openSession (config : RelayConfig) (db : Database) (choice : TaskChoice) (userId : String)
    (ip : Option String) : Except DatabaseError (Database × String) :=
  match choice.identifier with
  | none => .error .random
  | some token =>
      (db.createSession choice.fault
        { idHash := config.hashSecret token
          userId
          createdAt := choice.now
          expiresAt := choice.now + SESSION_LIFETIME_MS
          ip }).map fun database => (database, token)

section Opening

variable {config : RelayConfig} {db db' : Database} {choice : TaskChoice} {userId token : String}
  {ip : Option String}

theorem openSession_inserts (h : openSession config db choice userId ip = .ok (db', token)) :
    choice.identifier = some token ∧ ∃ sessions,
      db.consoleSessions.insert
        ⟨config.hashSecret token, userId, choice.now, choice.now + SESSION_LIFETIME_MS, ip⟩ =
          some sessions ∧
      db' = { db with consoleSessions := sessions } := by
  unfold openSession at h
  split at h
  · cases h
  · next token' htoken =>
      unfold Except.map at h
      split at h
      · cases h
      · next database hcreate =>
          cases h
          obtain ⟨-, hcreate⟩ := Fault.guard_eq_ok.mp hcreate
          split at hcreate
          · next sessions hinsert =>
              cases hcreate
              exact ⟨htoken, sessions, hinsert, rfl⟩
          · cases hcreate

theorem openSession_eq_ok (h : openSession config db choice userId ip = .ok (db', token)) :
    db.consoleSessions.find (config.hashSecret token) = none ∧
      ∀ idHash, db'.consoleSessions.find idHash =
        if idHash = config.hashSecret token then
          some ⟨config.hashSecret token, userId, choice.now, choice.now + SESSION_LIFETIME_MS, ip⟩
        else db.consoleSessions.find idHash := by
  obtain ⟨-, sessions, hinsert, rfl⟩ := openSession_inserts h
  exact Rows.insert_eq_some hinsert

end Opening

def recordUserLogin (db : Database) (fault : Fault) (id : String) (now : Int) :
    Except DatabaseError Database :=
  fault.guard <| .ok <|
    db.setUser id (fun user => { user with lastLoginAt := some now }) fun _ => rfl

end Database

/-- `resolve_session` between two of its queries. -/
inductive Resolve where
  | presented (token : String) (now : Int)
  /-- `delete_session` of a session that resolves to nothing. -/
  | dropping (idHash : String)
  | account (session : SessionRecord) (now : Int)
  | extending (idHash : String) (expiresAt : Int) (user : UserRecord)
  | resolved (user : Option UserRecord)
  | failed (e : DatabaseError)
deriving DecidableEq, Repr

namespace Resolve

def step (config : RelayConfig) (db : Database) (fault : Fault) :
    Resolve → Option (Database × Resolve)
  | .presented token now =>
      match db.findSession fault (config.hashSecret token) with
      | .error e => some (db, .failed e)
      | .ok none => some (db, .resolved none)
      | .ok (some session) =>
          some (db, if session.isExpired now then .dropping session.idHash
            else .account session now)
  | .dropping idHash =>
      match db.deleteSession fault idHash with
      | .error e => some (db, .failed e)
      | .ok database => some (database, .resolved none)
  | .account session now =>
      match db.findUser fault session.userId with
      | .error e => some (db, .failed e)
      | .ok none => some (db, .dropping session.idHash)
      | .ok (some user) =>
          some (db,
            if user.disabled then .dropping session.idHash
            else match renewedExpiry session.expiresAt now with
              | some expiresAt => .extending session.idHash expiresAt user
              | none => .resolved (some user))
  | .extending idHash expiresAt user =>
      match db.extendSession fault idHash expiresAt with
      | .error e => some (db, .failed e)
      | .ok database => some (database, .resolved (some user))
  | .resolved _ => none
  | .failed _ => none

def holding : Resolve → Option (String × String)
  | .account session _ => some (session.idHash, session.userId)
  | .extending idHash _ user => some (idHash, user.id)
  | _ => none

section Steps

variable {config : RelayConfig} {db db' : Database} {fault : Fault} {stage stage' : Resolve}

/-- Resolving changes no account, and takes away or extends single sessions. -/
theorem step_rows (h : stage.step config db fault = some (db', stage')) :
    db'.users = db.users ∧ ∀ idHash row, db'.consoleSessions.find idHash = some row →
      ∃ old, db.consoleSessions.find idHash = some old ∧ old.userId = row.userId := by
  have hsame : ∀ idHash row, db.consoleSessions.find idHash = some row →
      ∃ old, db.consoleSessions.find idHash = some old ∧ old.userId = row.userId :=
    fun _ row hrow => ⟨row, hrow, rfl⟩
  cases stage with
  | presented token now =>
      simp only [step] at h
      split at h <;> cases h <;> exact ⟨rfl, hsame⟩
  | dropping idHash =>
      simp only [step] at h
      split at h
      · cases h
        exact ⟨rfl, hsame⟩
      · next database hdelete =>
          cases h
          obtain ⟨-, hdelete⟩ := Fault.guard_eq_ok.mp hdelete
          rw [← Except.ok.inj hdelete]
          refine ⟨rfl, fun other row hrow => ?_⟩
          rw [Rows.find_delete, Option.filter_eq_some_iff] at hrow
          exact ⟨row, hrow.1, rfl⟩
  | account session now =>
      simp only [step] at h
      split at h <;> cases h <;> exact ⟨rfl, hsame⟩
  | extending idHash expiresAt user =>
      simp only [step] at h
      split at h
      · cases h
        exact ⟨rfl, hsame⟩
      · next database hextend =>
          cases h
          obtain ⟨-, hextend⟩ := Fault.guard_eq_ok.mp hextend
          rw [← Except.ok.inj hextend]
          refine ⟨rfl, fun other row hrow => ?_⟩
          rw [Rows.find_update, Option.map_eq_some_iff] at hrow
          obtain ⟨old, hold, rfl⟩ := hrow
          refine ⟨old, hold, ?_⟩
          split <;> rfl
  | resolved user => cases h
  | failed e => cases h

theorem step_resolved {user : UserRecord}
    (h : stage.step config db fault = some (db', .resolved (some user))) :
    ∃ idHash, stage.holding = some (idHash, user.id) := by
  cases stage with
  | presented token now =>
      simp only [step] at h
      split at h
      · cases h
      · cases h
      · simp only [Option.some.injEq, Prod.mk.injEq] at h
        obtain ⟨-, h⟩ := h
        split at h <;> cases h
  | dropping idHash =>
      simp only [step] at h
      split at h <;> cases h
  | account session now =>
      simp only [step] at h
      split at h
      · cases h
      · cases h
      · next found hfind =>
          simp only [Option.some.injEq, Prod.mk.injEq] at h
          obtain ⟨-, h⟩ := h
          split at h
          · cases h
          · split at h
            · cases h
            · cases h
              obtain ⟨-, hfind⟩ := Fault.guard_eq_ok.mp hfind
              have hid : user.id = session.userId := Rows.key_of_find (Except.ok.inj hfind)
              exact ⟨session.idHash, by rw [holding, hid]⟩
  | extending idHash expiresAt found =>
      simp only [step] at h
      split at h
      · cases h
      · cases h
        exact ⟨idHash, rfl⟩
  | resolved user => cases h
  | failed e => cases h

end Steps

end Resolve

end TermexoRelay
