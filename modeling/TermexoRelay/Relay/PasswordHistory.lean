import TermexoRelay.Database.Patches
import TermexoRelay.Relay.Passwords

/-!
# The password behind a session

Beside the console, the hash that every replacement writes is recorded. The replacement the ledger
counts for a session is the one whose hash the creator of the session has verified, or written.
-/

namespace TermexoRelay

open Transition

/-! ## Hashes in the database -/

namespace Database

def passwordHash (db : Database) (userId : String) : Option String :=
  (db.users.find userId).map UserRecord.passwordHash

section Queries

variable {db db' : Database} {fault : Fault}

theorem passwordHash_of_users (h : db'.users = db.users) : db'.passwordHash = db.passwordHash := by
  funext userId
  simp only [passwordHash, h]

theorem passwordHash_of_patched {id : String} {update : UserUpdate}
    (h : usersTable.RowPatched id update.apply db db') (userId : String) :
    db'.passwordHash userId = (db.passwordHash userId).map fun hash =>
      if userId = id then update.passwordHash.getD hash else hash := by
  have hfind : db'.users.find userId = (db.users.find userId).map fun user =>
      if user.id = id then update.apply user else user := h.patched userId
  rw [passwordHash, hfind, passwordHash, Option.map_map, Option.map_map]
  cases hrow : db.users.find userId with
  | none => rfl
  | some user =>
      have hid : user.id = userId := Rows.key_of_find hrow
      by_cases huser : userId = id
      · simp [hid, huser, UserUpdate.apply]
      · simp [hid, huser]

/-- The hash is the last field of a patch, so a patch that fails has not written it. -/
theorem passwordHash_updateUser (db : Database) (fault : Fault) (id : String)
    (update : UserUpdate) :
    ((db.updateUser fault id update).2 = .ok () ∧ ∀ userId,
      (db.updateUser fault id update).1.passwordHash userId =
        (db.passwordHash userId).map fun hash =>
          if userId = id then update.passwordHash.getD hash else hash) ∨
      (db.updateUser fault id update).2 = .error .sqlite ∧
        (db.updateUser fault id update).1.passwordHash = db.passwordHash := by
  rcases updateUser_appliesUpTo db fault id update with ⟨hok, hpatched⟩ |
    ⟨n, hn, -, herror, hpatched⟩
  · exact .inl ⟨hok, passwordHash_of_patched hpatched⟩
  · refine .inr ⟨herror, funext fun userId => ?_⟩
    have hnone : (update.take n).passwordHash = none := by
      simp only [UserUpdate.take, carriedOut]
      cases hhash : update.passwordHash with
      | none => simp
      | some hash =>
          simp only [UserUpdate.count, statementCount, hhash, Option.toList_some,
            List.length_singleton] at hn
          rw [if_neg (by simp only [statementCount]; omega)]
    rw [passwordHash_of_patched hpatched, hnone]
    cases db.passwordHash userId <;> simp

theorem passwordHash_of_updateUser {id : String} {update : UserUpdate}
    (h : db.updateUser fault id update = (db', .ok ())) (userId : String) :
    db'.passwordHash userId = (db.passwordHash userId).map fun hash =>
      if userId = id then update.passwordHash.getD hash else hash := by
  rcases passwordHash_updateUser db fault id update with ⟨-, hwritten⟩ | ⟨herror, -⟩
  · rw [h] at hwritten
    exact hwritten userId
  · rw [h] at herror
    cases herror

theorem passwordHash_of_updateUser_error {id : String} {update : UserUpdate} {e : DatabaseError}
    (h : db.updateUser fault id update = (db', .error e)) : db'.passwordHash = db.passwordHash := by
  rcases passwordHash_updateUser db fault id update with ⟨hok, -⟩ | ⟨-, hsame⟩
  · rw [h] at hok
    cases hok
  · rw [h] at hsame
    exact hsame

theorem passwordHash_recordUserLogin {userId : String} {now : Int}
    (h : db.recordUserLogin fault userId now = .ok db') : db'.passwordHash = db.passwordHash := by
  obtain ⟨-, h⟩ := Fault.guard_eq_ok.mp h
  rw [← Except.ok.inj h]
  funext id
  let seen (user : UserRecord) : UserRecord := { user with lastLoginAt := some now }
  exact Rows.map_find_update (f := seen) (g := UserRecord.passwordHash) (fun _ => rfl)
    (fun _ => rfl) db.users id

theorem passwordHash_openSession {config : RelayConfig} {choice : TaskChoice}
    {userId token : String} {ip : Option String}
    (h : db.openSession config choice userId ip = .ok (db', token)) :
    db'.passwordHash = db.passwordHash := by
  obtain ⟨-, sessions, -, rfl⟩ := openSession_inserts h
  rfl

theorem passwordHash_deleteSessionsOfUser {userId : String}
    (h : db.deleteSessionsOfUser fault userId = .ok db') : db'.passwordHash = db.passwordHash := by
  obtain ⟨-, h⟩ := Fault.guard_eq_ok.mp h
  rw [← Except.ok.inj h]
  rfl

/-- A password that is accepted has the hash in the row. -/
theorem passwordHash_passwordOwner {config : RelayConfig} {username password : String}
    {user : UserRecord} (h : Request.passwordOwner config db fault username password = .ok user) :
    db.passwordHash user.id = some user.passwordHash ∧
      config.verifyPassword password user.passwordHash = true := by
  unfold Request.passwordOwner at h
  split at h
  · cases h
  · cases h
  · next found hfound =>
      split at h
      · next hverified =>
          cases h
          obtain ⟨-, hfound⟩ := Fault.guard_eq_ok.mp hfound
          have hrow := (Rows.findWhere_eq_some (Except.ok.inj hfound)).1
          rw [Bool.and_eq_true] at hverified
          exact ⟨by rw [passwordHash, hrow, Option.map_some], hverified.2⟩
      · cases h

end Queries

end Database

/-! ## What an action does to passwords -/

/-- The hash an action writes over the password it replaces. -/
def ConsoleTask.hashWritten (config : RelayConfig) : ConsoleTask → Option String
  | .changing _ request _ => (newPasswordHash config request.newPassword).toOption
  | .updating (.updatingUser _ update) _ => update.passwordHash
  | _ => none

/-- The password that the `known`-th replacement has written was verified, or written by whom it
serves. -/
def Vouched (config : RelayConfig) (written : String → Nat → Option String) (userId : String)
    (known : Nat) : Prop :=
  ∃ password hash, written userId known = some hash ∧
    (config.verifyPassword password hash = true ∨ newPasswordHash config password = .ok hash)

/-- Whatever a task is about to open a session for is vouched for, and a patch is at an action that
concerns passwords. -/
def Vouches (config : RelayConfig) (written : String → Nat → Option String) : ConsoleTask → Prop
  | .loggingIn userId _ known => Vouched config written userId known
  | .opening userId _ known _ => Vouched config written userId known
  | .signingOut userId _ known => Vouched config written userId known
  | .updating request _ => request.patches = true
  | _ => True

/-- An action leaves passwords and sessions alone, opens a session, or replaces one password. -/
inductive PasswordStep (config : RelayConfig) (written : String → Nat → Option String)
    (state state' : ConsoleState) (task task' : ConsoleTask) : Prop where
  | kept
      (replaced : state'.ledger.replaced = state.ledger.replaced)
      (hashes : state'.relay.database.passwordHash = state.relay.database.passwordHash)
      (sessions : Console.KeepsSessions state.relay.database state'.relay.database)
      (origins : state'.ledger.origin = state.ledger.origin)
      (vouches : Vouches config written task')
  | opened {userId ip : String} {known : Nat} {replaces : Bool}
      (opening : task = .opening userId ip known replaces)
      (replaced : state'.ledger.replaced = state.ledger.replaced)
      (hashes : state'.relay.database.passwordHash = state.relay.database.passwordHash)
      (sessions : ∀ idHash row,
        state'.relay.database.consoleSessions.find idHash = some row →
          (state.relay.database.consoleSessions.find idHash = some row ∧
            state'.ledger.origin idHash = state.ledger.origin idHash) ∨
          row.userId = userId ∧ state'.ledger.origin idHash = known)
      (vouches : Vouches config written task')
  | replaced {userId hash : String}
      (hashWritten : task.hashWritten config = some hash)
      (ledger : state'.ledger = state.ledger.replace userId)
      (hashes : ∀ id, state'.relay.database.passwordHash id =
        (state.relay.database.passwordHash id).map fun old => if id = userId then hash else old)
      (sessions : Console.KeepsSessions state.relay.database state'.relay.database)
      (vouches : ∀ written', written' userId (state.ledger.replaced userId + 1) = some hash →
        Vouches config written' task')

/-- What is recorded for the last replacement of a password is the hash in the row. -/
def Current (written : String → Nat → Option String) (state : ConsoleState) : Prop :=
  ∀ userId hash, state.relay.database.passwordHash userId = some hash →
    written userId (state.ledger.replaced userId) = some hash

section Actions

variable {config : RelayConfig} {written : String → Nat → Option String}
  {state state' : ConsoleState} {choice : TaskChoice} {task' : ConsoleTask}

/-- The hash a sign-in verifies is the one that the replacement it counts has written. -/
theorem login_verified {username password ip ip' userId : String} {known : Nat}
    (hcurrent : Current written state)
    (h : ConsoleTask.step config state choice (.login username password ip) =
      some (state', .loggingIn userId ip' known)) :
    ∃ hash, written userId known = some hash ∧ config.verifyPassword password hash = true := by
  cases ConsoleTask.step_eq_some h with
  | @accepted _ _ _ user howner =>
      have hrow := Database.passwordHash_passwordOwner howner
      exact ⟨user.passwordHash, hcurrent user.id user.passwordHash hrow.1, hrow.2⟩

theorem vouches_updating {request : Request} {known : Nat} :
    Vouches config written
      (if request.patches then .updating request known else .finished (.ok ())) := by
  split
  · next hpatches => exact hpatches
  · trivial

theorem passwordStep_updatingUser {userId : String} {update : UserUpdate} {known : Nat}
    {relay' : Relay} {request' : Request}
    (h : (Request.updatingUser userId update).step config state.relay choice =
      some (relay', request')) :
    PasswordStep config written state
      ⟨relay', (ConsoleTask.patchLedger state.ledger known (.updatingUser userId update)
        request').1⟩
      (.updating (.updatingUser userId update) known)
      (if request'.patches then
        .updating request' (ConsoleTask.patchLedger state.ledger known
          (.updatingUser userId update) request').2
      else .finished (.ok ())) := by
  simp only [Request.step] at h
  split at h
  · next hupdate =>
      cases h
      exact .kept rfl (Database.passwordHash_of_updateUser_error hupdate)
        (Console.keepsSessions_of_updateUser hupdate) rfl vouches_updating
  · next database hupdate =>
      cases h
      have hwritten := Database.passwordHash_of_updateUser hupdate
      have hsessions := Console.keepsSessions_of_updateUser hupdate
      cases hhash : update.passwordHash with
      | some hash =>
          simp only [Option.isSome_some, Bool.true_or, if_true, ConsoleTask.patchLedger, hhash]
          rw [hhash] at hwritten
          exact .replaced hhash rfl hwritten hsessions fun _ _ => vouches_updating
      | none =>
          have hsame : database.passwordHash = state.relay.database.passwordHash := by
            funext id
            rw [hwritten id, hhash]
            cases state.relay.database.passwordHash id <;> simp
          refine .kept ?_ hsame hsessions ?_ vouches_updating
          all_goals
            simp only [Option.isSome_none, Bool.false_or]
            split
            · simp only [ConsoleTask.patchLedger, hhash, Option.isSome_none]
              rfl
            · rfl

theorem passwordStep_patched {request request' : Request} {known : Nat} {relay' : Relay}
    (hpatches : request.patches = true)
    (h : request.step config state.relay choice = some (relay', request')) :
    PasswordStep config written state
      ⟨relay', (ConsoleTask.patchLedger state.ledger known request request').1⟩
      (.updating request known)
      (if request'.patches then
        .updating request' (ConsoleTask.patchLedger state.ledger known request request').2
      else .finished (.ok ())) := by
  cases request with
  | updateUser id patch =>
      have hrelay : relay' = state.relay := by
        cases Request.step_eq_some h <;> rfl
      rw [hrelay]
      exact .kept rfl rfl (.of_eq rfl) rfl vouches_updating
  | updatingUser userId update => exact passwordStep_updatingUser h
  | signingOut userId update =>
      cases Request.step_eq_some h with
      | failed _ _ => exact .kept rfl rfl (.of_eq rfl) rfl vouches_updating
      | signedOut hdelete =>
          refine .kept ?_ (Database.passwordHash_deleteSessionsOfUser hdelete)
            (Console.keepsSessions_deleteSessionsOfUser hdelete) ?_ vouches_updating
          · split <;> rfl
          · split <;> rfl
  | _ => cases hpatches

theorem passwordStep_opened {userId ip token : String} {known : Nat} {replaces : Bool}
    {database : Database}
    (h : Database.openSession config state.relay.database choice userId (some ip) =
      .ok (database, token)) :
    PasswordStep config written state
      ⟨{ state.relay with database },
        if replaces then (state.ledger.opened (config.hashSecret token) known).settle userId known
        else state.ledger.opened (config.hashSecret token) known⟩
      (.opening userId ip known replaces) (.finished (.ok ())) := by
  have hledger : ∀ ledger : Ledger,
      (if replaces then ledger.settle userId known else ledger).replaced = ledger.replaced ∧
        (if replaces then ledger.settle userId known else ledger).origin = ledger.origin := by
    intro ledger
    cases replaces <;> exact ⟨rfl, rfl⟩
  refine .opened rfl (hledger _).1 (Database.passwordHash_openSession h) ?_ trivial
  intro idHash row hrow
  rw [(hledger _).2, Ledger.opened]
  rw [(Database.openSession_eq_ok h).2] at hrow
  by_cases hid : idHash = config.hashSecret token
  · rw [if_pos hid] at hrow
    cases hrow
    rw [hid]
    exact .inr ⟨rfl, Function.update_self ..⟩
  · rw [if_neg hid] at hrow
    exact .inl ⟨hrow, Function.update_of_ne hid ..⟩

theorem ConsoleTask.passwordStep {task : ConsoleTask} (hcurrent : Current written state)
    (hvouches : Vouches config written task)
    (h : task.step config state choice = some (state', task')) :
    PasswordStep config written state state' task task' := by
  cases ConsoleTask.step_eq_some h with
  | refused => exact .kept rfl rfl (.of_eq rfl) rfl trivial
  | @accepted _ password _ user _ =>
      obtain ⟨hash, hwritten, hverified⟩ := login_verified hcurrent h
      exact .kept rfl rfl (.of_eq rfl) rfl ⟨password, hash, hwritten, .inl hverified⟩
  | loggedIn hrecord =>
      exact .kept rfl (Database.passwordHash_recordUserLogin hrecord)
        (Console.keepsSessions_recordUserLogin hrecord) rfl hvouches
  | opened hopen => exact passwordStep_opened hopen
  | resolveFailed hstep =>
      obtain ⟨husers, hsessions⟩ := Resolve.step_rows hstep
      exact .kept rfl (Database.passwordHash_of_users husers) hsessions rfl trivial
  | @unresolved _ remaining _ _ _ hstep =>
      obtain ⟨husers, hsessions⟩ := Resolve.step_rows hstep
      refine .kept rfl (Database.passwordHash_of_users husers) hsessions rfl ?_
      cases remaining <;> trivial
  | @resolved _ _ _ change _ _ _ hstep _ =>
      obtain ⟨husers, hsessions⟩ := Resolve.step_rows hstep
      refine .kept rfl (Database.passwordHash_of_users husers) hsessions rfl ?_
      cases change <;> trivial
  | resolving hstep =>
      obtain ⟨husers, hsessions⟩ := Resolve.step_rows hstep
      exact .kept rfl (Database.passwordHash_of_users husers) hsessions rfl trivial
  | changeFailed hupdate =>
      exact .kept rfl (Database.passwordHash_of_updateUser_error hupdate)
        (Console.keepsSessions_of_updateUser hupdate) rfl trivial
  | @changed user request ip hash _ hhash hupdate =>
      have hreplaces : (ConsoleTask.changing user request ip).hashWritten config = some hash := by
        rw [ConsoleTask.hashWritten, hhash, Except.toOption]
      exact .replaced hreplaces rfl (Database.passwordHash_of_updateUser hupdate)
        (Console.keepsSessions_of_updateUser hupdate)
        fun _ hrecorded => ⟨request.newPassword, hash, hrecorded, .inr hhash⟩
  | signedOut hdelete =>
      exact .kept rfl (Database.passwordHash_deleteSessionsOfUser hdelete)
        (Console.keepsSessions_deleteSessionsOfUser hdelete) rfl hvouches
  | patched hstep => exact passwordStep_patched hvouches hstep

end Actions

section Growing

variable {config : RelayConfig} {written written' : String → Nat → Option String}

theorem Vouched.mono {userId : String} {known : Nat}
    (hkeep : ∀ userId known hash, written userId known = some hash →
      written' userId known = some hash)
    (h : Vouched config written userId known) : Vouched config written' userId known := by
  obtain ⟨password, hash, hwritten, hpassword⟩ := h
  exact ⟨password, hash, hkeep userId known hash hwritten, hpassword⟩

theorem Vouches.mono {task : ConsoleTask}
    (hkeep : ∀ userId known hash, written userId known = some hash →
      written' userId known = some hash)
    (h : Vouches config written task) : Vouches config written' task := by
  cases task with
  | loggingIn userId ip known => exact Vouched.mono hkeep h
  | opening userId ip known replaces => exact Vouched.mono hkeep h
  | signingOut userId ip known => exact Vouched.mono hkeep h
  | updating request known => exact h
  | _ => trivial

end Growing

/-! ## Runs -/

/-- A console, and the hash every replacement has written. Replacement 0 stands for the password an
account started with. -/
structure PasswordHistory where
  console : Console
  written : String → Nat → Option String

namespace PasswordHistory

/-- A replacement that an action counts is recorded with the hash the action writes. -/
def recorded (config : RelayConfig) (ledger ledger' : Ledger) (task : ConsoleTask)
    (written : String → Nat → Option String) (userId : String) (known : Nat) : Option String :=
  if ledger.replaced userId < known ∧ known ≤ ledger'.replaced userId then task.hashWritten config
  else written userId known

def init (database : Database) : PasswordHistory where
  console := Console.init database
  written userId known := if known = 0 then database.passwordHash userId else none

def step (config : RelayConfig) (s : PasswordHistory) (label : ConsoleLabel) :
    Option PasswordHistory :=
  (Console.step config s.console label).map fun console =>
    { console
      written := match label with
        | .advance index _ => s.console.tasks[index]?.elim s.written fun task =>
            recorded config s.console.shared.ledger console.shared.ledger task s.written
        | _ => s.written }

/-- The record only watches. -/
theorem run_console (config : RelayConfig) (s : PasswordHistory) (labels : List ConsoleLabel) :
    (run (step config) s labels).map console = run (Console.step config) s.console labels := by
  refine run_map ?_ s labels
  intro s label
  simp [step, Option.map_map, Function.comp_def]

/-- A session is one of those the relay started with, or it is vouched for. -/
def Accounted (config : RelayConfig) (database : Database)
    (written : String → Nat → Option String) (state : ConsoleState) : Prop :=
  ∀ idHash row, state.relay.database.consoleSessions.find idHash = some row →
    (∃ old, database.consoleSessions.find idHash = some old ∧ old.userId = row.userId ∧
      state.ledger.origin idHash = 0) ∨
    Vouched config written row.userId (state.ledger.origin idHash)

/-- Nothing is recorded that has not been counted, and what is recorded accounts for the rows. -/
structure Recorded (config : RelayConfig) (database : Database)
    (written : String → Nat → Option String) (state : ConsoleState) : Prop where
  counted : ∀ userId known hash, written userId known = some hash →
    known ≤ state.ledger.replaced userId
  current : Current written state
  accounted : Accounted config database written state

structure Inv (config : RelayConfig) (database : Database) (s : PasswordHistory) : Prop where
  recorded : Recorded config database s.written s.console.shared
  vouches : ∀ task ∈ s.console.tasks, Vouches config s.written task

section Steps

variable {config : RelayConfig} {database : Database}
  {written written' : String → Nat → Option String} {state state' : ConsoleState}
  {choice : TaskChoice} {task task' : ConsoleTask} {ledger ledger' : Ledger} {userId : String}

theorem recorded_of_eq (h : ledger'.replaced = ledger.replaced) :
    recorded config ledger ledger' task written = written := by
  funext userId known
  rw [recorded, h, if_neg]
  intro hbetween
  exact absurd hbetween.1 (Nat.not_lt.mpr hbetween.2)

theorem recorded_replace {hash : String} (h : task.hashWritten config = some hash) :
    recorded config ledger (ledger.replace userId) task written userId
      (ledger.replaced userId + 1) = some hash := by
  rw [recorded, if_pos, h]
  simp [Ledger.replace]

theorem recorded_replace_of_ne {other : String} (h : other ≠ userId) (known : Nat) :
    recorded config ledger (ledger.replace userId) task written other known =
      written other known := by
  rw [recorded, if_neg]
  simp only [Ledger.replace, Function.update_of_ne h]
  omega

/-- What was counted before an action keeps its record. -/
theorem recorded_of_counted
    (hcounted : ∀ userId known hash, written userId known = some hash →
      known ≤ ledger.replaced userId)
    (userId : String) (known : Nat) (hash : String) (h : written userId known = some hash) :
    recorded config ledger ledger' task written userId known = some hash := by
  have hknown := hcounted userId known hash h
  rw [recorded, if_neg (by omega)]
  exact h

theorem Accounted.keep (h : Accounted config database written state)
    (hkeep : ∀ userId known hash, written userId known = some hash →
      written' userId known = some hash)
    (hsessions : Console.KeepsSessions state.relay.database state'.relay.database)
    (horigin : state'.ledger.origin = state.ledger.origin) :
    Accounted config database written' state' := by
  intro idHash row hrow
  obtain ⟨old, hold, huser⟩ := hsessions idHash row hrow
  rw [horigin, ← huser]
  rcases h idHash old hold with hinherited | hvouched
  · exact .inl hinherited
  · exact .inr (hvouched.mono hkeep)

/-- No password is replaced. -/
theorem Recorded.keep (h : Recorded config database written state)
    (hreplaced : state'.ledger.replaced = state.ledger.replaced)
    (hhashes : state'.relay.database.passwordHash = state.relay.database.passwordHash)
    (haccounted : Accounted config database written state') :
    Recorded config database written state' := by
  refine ⟨?_, ?_, haccounted⟩
  · rw [hreplaced]
    exact h.counted
  · intro userId hash hhash
    rw [hhashes] at hhash
    rw [hreplaced]
    exact h.current userId hash hhash

theorem counted_replace (h : Recorded config database written state) (other : String)
    (known : Nat) (hash : String)
    (hrecorded : recorded config state.ledger (state.ledger.replace userId) task written other
      known = some hash) : known ≤ (state.ledger.replace userId).replaced other := by
  by_cases hother : other = userId
  · subst hother
    rw [recorded] at hrecorded
    split at hrecorded
    · next hbetween => exact hbetween.2
    · have hknown := h.counted other known hash hrecorded
      simp only [Ledger.replace, Function.update_self]
      omega
  · rw [recorded_replace_of_ne hother] at hrecorded
    simp only [Ledger.replace, Function.update_of_ne hother]
    exact h.counted other known hash hrecorded

/-- One password is replaced: its record is the hash that was written. -/
theorem Recorded.replace {hash : String} (h : Recorded config database written state)
    (hwritten : task.hashWritten config = some hash)
    (hledger : state'.ledger = state.ledger.replace userId)
    (hhashes : ∀ id, state'.relay.database.passwordHash id =
      (state.relay.database.passwordHash id).map fun old => if id = userId then hash else old)
    (hsessions : Console.KeepsSessions state.relay.database state'.relay.database) :
    Recorded config database
      (recorded config state.ledger (state.ledger.replace userId) task written) state' := by
  have hnew : recorded config state.ledger (state.ledger.replace userId) task written userId
      (state.ledger.replaced userId + 1) = some hash := recorded_replace hwritten
  refine ⟨?_, ?_, h.accounted.keep (recorded_of_counted h.counted) hsessions ?_⟩
  · rw [hledger]
    exact counted_replace h
  · intro other now hnow
    rw [hhashes, Option.map_eq_some_iff] at hnow
    obtain ⟨old, hold, heq⟩ := hnow
    rw [hledger]
    by_cases hother : other = userId
    · subst hother
      rw [if_pos rfl] at heq
      subst heq
      simpa [Ledger.replace] using hnew
    · rw [if_neg hother] at heq
      subst heq
      rw [recorded_replace_of_ne hother]
      simp only [Ledger.replace, Function.update_of_ne hother]
      exact h.current other old hold
  · rw [hledger]
    rfl

theorem Recorded.advance (h : Recorded config database written state)
    (hvouches : Vouches config written task)
    (hstep : task.step config state choice = some (state', task')) :
    Recorded config database (recorded config state.ledger state'.ledger task written) state' ∧
      Vouches config (recorded config state.ledger state'.ledger task written) task' := by
  cases ConsoleTask.passwordStep h.current hvouches hstep with
  | kept hreplaced hhashes hsessions horigins hnext =>
      rw [recorded_of_eq hreplaced]
      have haccounted := h.accounted.keep (fun _ _ _ h => h) hsessions horigins
      exact ⟨h.keep hreplaced hhashes haccounted, hnext⟩
  | opened hopening hreplaced hhashes hsessions hnext =>
      rw [recorded_of_eq hreplaced]
      refine ⟨h.keep hreplaced hhashes fun idHash row hrow => ?_, hnext⟩
      rcases hsessions idHash row hrow with ⟨hold, horigin⟩ | ⟨huser, horigin⟩
      · rw [horigin]
        exact h.accounted idHash row hold
      · rw [horigin, huser]
        rw [hopening] at hvouches
        exact .inr hvouches
  | replaced hwritten hledger hhashes hsessions hnext =>
      rw [hledger]
      exact ⟨h.replace hwritten hledger hhashes hsessions, hnext _ (recorded_replace hwritten)⟩

end Steps

section Runs

variable {config : RelayConfig} {database : Database} {s s' : PasswordHistory}
  {label : ConsoleLabel}

theorem vouches_of_starts {written : String → Nat → Option String} {task : ConsoleTask}
    (h : task.starts = true) : Vouches config written task := by
  cases task with
  | loggingIn userId ip known => cases h
  | opening userId ip known replaces => cases h
  | signingOut userId ip known => cases h
  | updating request known =>
      cases request with
      | updateUser id request => rfl
      | _ => cases h
  | _ => trivial

theorem inv_step (h : Inv config database s) (hstep : step config s label = some s') :
    Inv config database s' := by
  obtain ⟨console, hconsole, rfl⟩ := Option.map_eq_some_iff.mp hstep
  cases label with
  | environment event => cases event
  | spawn task =>
      obtain ⟨hstarts, rfl⟩ := poolStep_spawn hconsole
      refine ⟨h.recorded, fun other hother => ?_⟩
      rcases List.mem_append.mp hother with hold | hnew
      · exact h.vouches other hold
      · rw [List.mem_singleton] at hnew
        subst hnew
        exact vouches_of_starts hstarts
  | advance index choice =>
      obtain ⟨task, state', task', htask, hadvance, rfl⟩ := poolStep_advance hconsole
      have hvouches := h.vouches task (List.mem_of_getElem? htask)
      have hnext := h.recorded.advance hvouches hadvance
      simp only [htask, Option.elim_some]
      refine ⟨hnext.1, forall_mem_set (fun other hother => ?_) hnext.2⟩
      exact (h.vouches other hother).mono (recorded_of_counted h.recorded.counted)

theorem inv_init (config : RelayConfig) (database : Database) :
    Inv config database (init database) := by
  refine ⟨⟨?_, ?_, ?_⟩, fun _ h => nomatch h⟩
  · intro userId known hash h
    simp only [init] at h
    split at h
    · next hknown => exact hknown.le
    · cases h
  · intro userId hash h
    simpa [init, Console.init, Ledger.new] using h
  · intro idHash row hrow
    exact .inl ⟨row, hrow, rfl, rfl⟩

theorem inv_of_run {labels : List ConsoleLabel}
    (hrun : run (step config) (init database) labels = some s) : Inv config database s :=
  run_invariant (P := Inv config database) (fun _ _ _ h _ hstep => inv_step h hstep)
    (inv_init config database) (meets_true ..) hrun

end Runs

/-- In every run, the hash a sign-in verifies is the one the replacement it counts has written. -/
theorem login_verified_written (config : RelayConfig) (database : Database)
    (labels : List ConsoleLabel) (s : PasswordHistory)
    (hrun : run (step config) (init database) labels = some s) {choice : TaskChoice}
    {username password ip ip' userId : String} {known : Nat} {state' : ConsoleState}
    (h : ConsoleTask.step config s.console.shared choice (.login username password ip) =
      some (state', .loggingIn userId ip' known)) :
    ∃ hash, s.written userId known = some hash ∧ config.verifyPassword password hash = true :=
  login_verified (inv_of_run hrun).recorded.current h

/-- In every run, each session the relay has opened is one for a password whose hash the
replacement counted for it has written. -/
theorem sessions_vouched (config : RelayConfig) (database : Database)
    (labels : List ConsoleLabel) (s : PasswordHistory)
    (hrun : run (step config) (init database) labels = some s) :
    Accounted config database s.written s.console.shared :=
  (inv_of_run hrun).recorded.accounted

example : (run (step System.plainConfig) (init Administration.firstAccounts)
    Console.signInAndChange).map (fun s => (s.written "user-1" 0, s.written "user-1" 1)) =
      some (System.plainConfig.hashPassword "initial-secret" |>.toOption,
        System.plainConfig.hashPassword "another-secret" |>.toOption) := by decide

end PasswordHistory

end TermexoRelay
