import TermexoRelay.Auth.Session
import TermexoRelay.Relay.Administrators

/-!
# Replacing a password

A sign-in reads the account and inserts its session later; a replacement rewrites the hash and
drops the account's sessions later. The ledger beside the relay counts the replacements of every
account and remembers which of them the creator of a session knew of. It decides nothing.
-/

namespace TermexoRelay

open Transition

def WRONG_CURRENT_PASSWORD : String := "当前密码不正确。"
def NOT_LOGGED_IN : String := "请先登录。"

structure PasswordChangeRequest where
  currentPassword : String
  newPassword : String
deriving DecidableEq, Repr

/-- A token that resolved: to which account, how many replacements of its password the session was
created after, and how many had completed by then. -/
structure Resolution where
  userId : String
  origin : Nat
  settled : Nat
deriving DecidableEq, Repr

/-- What has happened to every account's password, and the origin of every session row. -/
structure Ledger where
  replaced : String → Nat
  /-- The last of them whose sign-out has run. -/
  swept : String → Nat
  /-- The last of them that has completed. -/
  settled : String → Nat
  origin : String → Nat
  resolved : List Resolution

namespace Ledger

def new : Ledger := ⟨fun _ => 0, fun _ => 0, fun _ => 0, fun _ => 0, []⟩

def raise (counts : String → Nat) (userId : String) (known : Nat) : String → Nat :=
  Function.update counts userId (max (counts userId) known)

def replace (ledger : Ledger) (userId : String) : Ledger :=
  { ledger with replaced := Function.update ledger.replaced userId (ledger.replaced userId + 1) }

def sweep (ledger : Ledger) (userId : String) (known : Nat) : Ledger :=
  { ledger with swept := raise ledger.swept userId known }

def settle (ledger : Ledger) (userId : String) (known : Nat) : Ledger :=
  { ledger with settled := raise ledger.settled userId known }

def opened (ledger : Ledger) (idHash : String) (known : Nat) : Ledger :=
  { ledger with origin := Function.update ledger.origin idHash known }

def resolve (ledger : Ledger) (idHash userId : String) : Ledger :=
  { ledger with
    resolved := ledger.resolved ++
      [⟨userId, ledger.origin idHash, ledger.settled userId⟩] }

end Ledger

/-- The tasks that act on passwords and sessions, between two of their queries. -/
inductive ConsoleTask where
  | finished (outcome : Except ApiError Unit)
  | login (username password ip : String)
  /-- `record_user_login`. -/
  | loggingIn (userId ip : String) (known : Nat)
  /-- `create_session`, at the end of a sign-in or of a change of one's own password. -/
  | opening (userId ip : String) (known : Nat) (replaces : Bool)
  /-- The session of a request is resolved; `change` is the password change it asks for. -/
  | resolving (stage : Resolve) (remaining : List String) (now : Int)
      (change : Option (PasswordChangeRequest × String))
  | changing (user : UserRecord) (request : PasswordChangeRequest) (ip : String)
  /-- `delete_sessions_of_user` of a password change. -/
  | signingOut (userId ip : String) (known : Nat)
  /-- An administrator's patch of an account, up to the end of its sign-out. -/
  | updating (request : Request) (known : Nat)
deriving DecidableEq

structure ConsoleState where
  relay : Relay
  ledger : Ledger

/-- The part of a patch that touches passwords and sessions. -/
def Request.patches : Request → Bool
  | .updateUser _ _ => true
  | .updatingUser _ _ => true
  | .signingOut _ _ => true
  | _ => false

namespace ConsoleTask

def starts : ConsoleTask → Bool
  | .login _ _ _ => true
  | .resolving (.presented _ now) _ now' _ => decide (now = now')
  | .updating (.updateUser _ _) known => decide (known = 0)
  | _ => false

/-- What follows a session that did not resolve. -/
def resolveNext (now : Int) (change : Option (PasswordChangeRequest × String)) :
    List String → ConsoleTask
  | token :: remaining => .resolving (.presented token now) remaining now change
  | [] => .finished (.error (.unauthorized NOT_LOGGED_IN))

/-- What an action of a patch means for the ledger. -/
def patchLedger (ledger : Ledger) (known : Nat) : Request → Request → Ledger × Nat
  | .updatingUser userId update, .signingOut _ _ =>
      if update.passwordHash.isSome then (ledger.replace userId, ledger.replaced userId + 1)
      else (ledger, 0)
  | .signingOut _ _, .finished (.error _) => (ledger, known)
  | .signingOut userId _, _ => ((ledger.sweep userId known).settle userId known, known)
  | _, _ => (ledger, known)

def step (config : RelayConfig) (state : ConsoleState) (choice : TaskChoice) :
    ConsoleTask → Option (ConsoleState × ConsoleTask)
  | .finished _ => none
  | .login username password ip =>
      match Request.passwordOwner config state.relay.database choice.fault username password with
      | .error e => some (state, .finished (.error e))
      | .ok user => some (state, .loggingIn user.id ip (state.ledger.replaced user.id))
  | .loggingIn userId ip known =>
      match state.relay.database.recordUserLogin choice.fault userId choice.now with
      | .error e => some (state, .finished (.error (.ofDatabase e)))
      | .ok database =>
          some ({ state with relay := { state.relay with database } },
            .opening userId ip known false)
  | .opening userId ip known replaces =>
      match Database.openSession config state.relay.database choice userId (some ip) with
      | .error e => some (state, .finished (.error (.ofDatabase e)))
      | .ok (database, token) =>
          let ledger := state.ledger.opened (config.hashSecret token) known
          some (⟨{ state.relay with database },
              if replaces then ledger.settle userId known else ledger⟩, .finished (.ok ()))
  | .resolving stage remaining now change =>
      match stage.step config state.relay.database choice.fault with
      | none => none
      | some (database, next) =>
          let relay := { state.relay with database }
          match next with
          | .failed e => some (⟨relay, state.ledger⟩, .finished (.error (.ofDatabase e)))
          | .resolved none => some (⟨relay, state.ledger⟩, resolveNext now change remaining)
          | .resolved (some user) =>
              let ledger := match stage.holding with
                | some (idHash, _) => state.ledger.resolve idHash user.id
                | none => state.ledger
              some (⟨relay, ledger⟩, match change with
                | none => .finished (.ok ())
                | some (request, ip) => .changing user request ip)
          | stage => some (⟨relay, state.ledger⟩, .resolving stage remaining now change)
  | .changing user request ip =>
      if config.verifyPassword request.currentPassword user.passwordHash then
        match newPasswordHash config request.newPassword with
        | .error e => some (state, .finished (.error e))
        | .ok hash =>
            match state.relay.database.updateUser choice.fault user.id ⟨none, none, some hash⟩ with
            | (database, .error e) =>
                some (⟨{ state.relay with database }, state.ledger⟩,
                  .finished (.error (.ofDatabase e)))
            | (database, .ok ()) =>
                some (⟨{ state.relay with database }, state.ledger.replace user.id⟩,
                  .signingOut user.id ip (state.ledger.replaced user.id + 1))
      else some (state, .finished (.error (.unauthorized WRONG_CURRENT_PASSWORD)))
  | .signingOut userId ip known =>
      match state.relay.database.deleteSessionsOfUser choice.fault userId with
      | .error e => some (state, .finished (.error (.ofDatabase e)))
      | .ok database =>
          some (⟨{ state.relay with database }, state.ledger.sweep userId known⟩,
            .opening userId ip known true)
  | .updating request known =>
      match request.step config state.relay choice with
      | none => none
      | some (relay, request') =>
          let (ledger, known) := patchLedger state.ledger known request request'
          some (⟨relay, ledger⟩,
            if request'.patches then .updating request' known else .finished (.ok ()))

end ConsoleTask

open ConsoleTask in
/-- The actions of the console's tasks, one rule for each: the state before, the task, and what they
become. -/
inductive ConsoleStep (config : RelayConfig) (choice : TaskChoice) (state : ConsoleState) :
    ConsoleTask → ConsoleState → ConsoleTask → Prop where
  /-- What ends a task without having changed anything. -/
  | refused {task : ConsoleTask} {e : ApiError} :
      ConsoleStep config choice state task state (.finished (.error e))
  | accepted {username password ip : String} {user : UserRecord}
      (h : Request.passwordOwner config state.relay.database choice.fault username password =
        .ok user) :
      ConsoleStep config choice state (.login username password ip) state
        (.loggingIn user.id ip (state.ledger.replaced user.id))
  | loggedIn {userId ip : String} {known : Nat} {database : Database}
      (h : state.relay.database.recordUserLogin choice.fault userId choice.now = .ok database) :
      ConsoleStep config choice state (.loggingIn userId ip known)
        { state with relay := { state.relay with database } } (.opening userId ip known false)
  | opened {userId ip token : String} {known : Nat} {replaces : Bool} {database : Database}
      (h : Database.openSession config state.relay.database choice userId (some ip) =
        .ok (database, token)) :
      ConsoleStep config choice state (.opening userId ip known replaces)
        ⟨{ state.relay with database },
          if replaces then (state.ledger.opened (config.hashSecret token) known).settle userId known
          else state.ledger.opened (config.hashSecret token) known⟩ (.finished (.ok ()))
  | resolveFailed {stage : Resolve} {remaining : List String} {now : Int}
      {change : Option (PasswordChangeRequest × String)} {database : Database} {e : DatabaseError}
      (h : stage.step config state.relay.database choice.fault = some (database, .failed e)) :
      ConsoleStep config choice state (.resolving stage remaining now change)
        ⟨{ state.relay with database }, state.ledger⟩ (.finished (.error (.ofDatabase e)))
  | unresolved {stage : Resolve} {remaining : List String} {now : Int}
      {change : Option (PasswordChangeRequest × String)} {database : Database}
      (h : stage.step config state.relay.database choice.fault = some (database, .resolved none)) :
      ConsoleStep config choice state (.resolving stage remaining now change)
        ⟨{ state.relay with database }, state.ledger⟩ (resolveNext now change remaining)
  | resolved {stage : Resolve} {remaining : List String} {now : Int}
      {change : Option (PasswordChangeRequest × String)} {database : Database} {user : UserRecord}
      {idHash : String}
      (h : stage.step config state.relay.database choice.fault =
        some (database, .resolved (some user)))
      (hholding : stage.holding = some (idHash, user.id)) :
      ConsoleStep config choice state (.resolving stage remaining now change)
        ⟨{ state.relay with database }, state.ledger.resolve idHash user.id⟩
        (change.elim (.finished (.ok ())) fun change => .changing user change.1 change.2)
  | resolving {stage stage' : Resolve} {remaining : List String} {now : Int}
      {change : Option (PasswordChangeRequest × String)} {database : Database}
      (h : stage.step config state.relay.database choice.fault = some (database, stage')) :
      ConsoleStep config choice state (.resolving stage remaining now change)
        ⟨{ state.relay with database }, state.ledger⟩ (.resolving stage' remaining now change)
  | changeFailed {user : UserRecord} {request : PasswordChangeRequest} {ip hash : String}
      {database : Database} {e : DatabaseError}
      (h : state.relay.database.updateUser choice.fault user.id ⟨none, none, some hash⟩ =
        (database, .error e)) :
      ConsoleStep config choice state (.changing user request ip)
        ⟨{ state.relay with database }, state.ledger⟩ (.finished (.error (.ofDatabase e)))
  | changed {user : UserRecord} {request : PasswordChangeRequest} {ip hash : String}
      {database : Database} (hhash : newPasswordHash config request.newPassword = .ok hash)
      (h : state.relay.database.updateUser choice.fault user.id ⟨none, none, some hash⟩ =
        (database, .ok ())) :
      ConsoleStep config choice state (.changing user request ip)
        ⟨{ state.relay with database }, state.ledger.replace user.id⟩
        (.signingOut user.id ip (state.ledger.replaced user.id + 1))
  | signedOut {userId ip : String} {known : Nat} {database : Database}
      (h : state.relay.database.deleteSessionsOfUser choice.fault userId = .ok database) :
      ConsoleStep config choice state (.signingOut userId ip known)
        ⟨{ state.relay with database }, state.ledger.sweep userId known⟩
        (.opening userId ip known true)
  | patched {request request' : Request} {known : Nat} {relay : Relay}
      (h : request.step config state.relay choice = some (relay, request')) :
      ConsoleStep config choice state (.updating request known)
        ⟨relay, (patchLedger state.ledger known request request').1⟩
        (if request'.patches then
          .updating request' (patchLedger state.ledger known request request').2
        else .finished (.ok ()))

theorem ConsoleTask.step_eq_some {config : RelayConfig} {choice : TaskChoice}
    {state state' : ConsoleState} {task task' : ConsoleTask}
    (h : task.step config state choice = some (state', task')) :
    ConsoleStep config choice state task state' task' := by
  cases task with
  | finished outcome => cases h
  | login username password ip =>
      simp only [ConsoleTask.step] at h
      split at h
      · cases h
        exact .refused
      · next howner =>
          cases h
          exact .accepted howner
  | loggingIn userId ip known =>
      simp only [ConsoleTask.step] at h
      split at h
      · cases h
        exact .refused
      · next hrecord =>
          cases h
          exact .loggedIn hrecord
  | opening userId ip known replaces =>
      simp only [ConsoleTask.step] at h
      split at h
      · cases h
        exact .refused
      · next hopen =>
          cases h
          exact .opened hopen
  | resolving stage remaining now change =>
      simp only [ConsoleTask.step] at h
      split at h
      · cases h
      · next hstep =>
          split at h
          · cases h
            exact .resolveFailed hstep
          · cases h
            exact .unresolved hstep
          · cases h
            obtain ⟨idHash, hholding⟩ := Resolve.step_resolved hstep
            simp only [hholding]
            cases change with
            | none => exact .resolved hstep hholding
            | some change => exact .resolved hstep hholding
          · cases h
            exact .resolving hstep
  | changing user request ip =>
      simp only [ConsoleTask.step] at h
      split at h
      · split at h
        · cases h
          exact .refused
        · next hhash =>
            split at h
            · next hupdate =>
                cases h
                exact .changeFailed hupdate
            · next hupdate =>
                cases h
                exact .changed hhash hupdate
      · cases h
        exact .refused
  | signingOut userId ip known =>
      simp only [ConsoleTask.step] at h
      split at h
      · cases h
        exact .refused
      · next hdelete =>
          cases h
          exact .signedOut hdelete
  | updating request known =>
      simp only [ConsoleTask.step] at h
      split at h
      · cases h
      · next hstep =>
          cases h
          exact .patched hstep

abbrev Console := Pool ConsoleState ConsoleTask
abbrev ConsoleLabel := PoolLabel ConsoleTask TaskChoice Empty

namespace Console

def step (config : RelayConfig) : Console → ConsoleLabel → Option Console :=
  poolStep (fun _ task => task.starts) (fun _ state task choice => task.step config state choice)
    fun _ event => nomatch event

def init (database : Database) : Console := ⟨⟨⟨database, .new, []⟩, .new⟩, []⟩

/-- The next action of a task opens no session over a password that was swept away since, and
answers no request for a session that is gone. -/
def fresh (state : ConsoleState) : ConsoleTask → Bool
  | .opening userId _ known _ => decide (state.ledger.swept userId ≤ known)
  | .resolving stage _ _ _ =>
      match stage.holding with
      | some (idHash, userId) =>
          (state.relay.database.consoleSessions.find idHash).any fun row =>
            decide (row.userId = userId)
      | none => true
  | _ => true

def Fresh (s : Console) : ConsoleLabel → Prop
  | .advance index _ => s.tasks[index]?.all (fresh s.shared) = true
  | .spawn _ => True
  | .environment _ => True

instance (s : Console) : ∀ label, Decidable (Fresh s label)
  | .advance index _ => inferInstanceAs (Decidable (s.tasks[index]?.all _ = true))
  | .spawn _ => .isTrue trivial
  | .environment _ => .isTrue trivial

/-- Every session row was created over a password no sign-out has swept since, and so was every
session that resolved. -/
structure Inv (state : ConsoleState) : Prop where
  rows : ∀ idHash row, state.relay.database.consoleSessions.find idHash = some row →
    state.ledger.swept row.userId ≤ state.ledger.origin idHash
  swept : ∀ userId, state.ledger.settled userId ≤ state.ledger.swept userId
  resolved : ∀ resolution ∈ state.ledger.resolved, resolution.settled ≤ resolution.origin

def Relies (ledger : Ledger) : ConsoleTask → Prop
  | .opening userId _ known true => known ≤ ledger.swept userId
  | .updating request _ => request.patches = true
  | _ => True

section Ledger

variable {counts : String → Nat} {userId other : String} {known : Nat}

theorem le_raise : counts other ≤ Ledger.raise counts userId known other := by
  unfold Ledger.raise
  by_cases h : other = userId
  · subst h
    rw [Function.update_self]
    exact le_max_left _ _
  · rw [Function.update_of_ne h]

theorem raise_of_ne (h : other ≠ userId) : Ledger.raise counts userId known other = counts other :=
  Function.update_of_ne h ..

theorem known_le_raise : known ≤ Ledger.raise counts userId known userId := by
  rw [Ledger.raise, Function.update_self]
  exact le_max_right _ _

theorem raise_le {bounds : String → Nat} (h : ∀ id, counts id ≤ bounds id)
    (hknown : known ≤ bounds userId) (id : String) :
    Ledger.raise counts userId known id ≤ bounds id := by
  by_cases hid : id = userId
  · subst hid
    rw [Ledger.raise, Function.update_self]
    exact max_le (h id) hknown
  · rw [raise_of_ne hid]
    exact h id

end Ledger

section Invariant

variable {config : RelayConfig} {state state' : ConsoleState} {choice : TaskChoice}
  {task task' : ConsoleTask} {relay' : Relay}

/-- No session appears, and none changes its account. -/
def KeepsSessions (db db' : Database) : Prop :=
  ∀ idHash row, db'.consoleSessions.find idHash = some row →
    ∃ old, db.consoleSessions.find idHash = some old ∧ old.userId = row.userId

theorem KeepsSessions.of_eq {db db' : Database} (h : db'.consoleSessions = db.consoleSessions) :
    KeepsSessions db db' :=
  fun _ row hrow => ⟨row, h ▸ hrow, rfl⟩

theorem keepsSessions_updateUser (db : Database) (fault : Fault) (id : String)
    (update : UserUpdate) : KeepsSessions db (db.updateUser fault id update).1 := by
  refine KeepsSessions.of_eq (Fault.runStatements_invariant
    (P := fun a : Database => a.consoleSessions = db.consoleSessions) rfl ?_)
  intro statement hstatement a ha
  simp only [Database.updateUserStatements, List.mem_append, Option.mem_toList,
    Option.map_eq_some_iff] at hstatement
  rcases hstatement with (⟨_, -, rfl⟩ | ⟨_, -, rfl⟩) | ⟨_, -, rfl⟩ <;> exact ha

theorem keepsSessions_of_updateUser {db db' : Database} {fault : Fault} {id : String}
    {update : UserUpdate} {outcome : Except DatabaseError Unit}
    (h : db.updateUser fault id update = (db', outcome)) : KeepsSessions db db' := by
  have hkeep := keepsSessions_updateUser db fault id update
  rwa [h] at hkeep

theorem keepsSessions_recordUserLogin {db db' : Database} {fault : Fault} {userId : String}
    {now : Int} (h : db.recordUserLogin fault userId now = .ok db') : KeepsSessions db db' := by
  obtain ⟨-, h⟩ := Fault.guard_eq_ok.mp h
  rw [← Except.ok.inj h]
  exact .of_eq rfl

theorem keepsSessions_deleteSessionsOfUser {db db' : Database} {fault : Fault} {userId : String}
    (h : db.deleteSessionsOfUser fault userId = .ok db') : KeepsSessions db db' := by
  obtain ⟨-, h⟩ := Fault.guard_eq_ok.mp h
  rw [← Except.ok.inj h]
  intro other row hrow
  rw [Rows.find_delete, Option.filter_eq_some_iff] at hrow
  exact ⟨row, hrow.1, rfl⟩

theorem Inv.keep (h : Inv state) (hkeep : KeepsSessions state.relay.database relay'.database) :
    Inv ⟨relay', state.ledger⟩ where
  rows idHash row hrow := by
    obtain ⟨old, hold, huser⟩ := hkeep idHash row hrow
    rw [← huser]
    exact h.rows idHash old hold
  swept := h.swept
  resolved := h.resolved

theorem Inv.settle (h : Inv state) {userId : String} {known : Nat}
    (hknown : known ≤ state.ledger.swept userId) :
    Inv ⟨state.relay, state.ledger.settle userId known⟩ where
  rows := h.rows
  swept := raise_le h.swept hknown
  resolved := h.resolved

theorem Inv.sweep (h : Inv state) {userId : String} {fault : Fault} {database : Database}
    (hdelete : state.relay.database.deleteSessionsOfUser fault userId = .ok database)
    (known : Nat) :
    Inv ⟨{ state.relay with database }, state.ledger.sweep userId known⟩ where
  rows idHash row hrow := by
    obtain ⟨-, hdelete⟩ := Fault.guard_eq_ok.mp hdelete
    rw [← Except.ok.inj hdelete] at hrow
    simp only [Rows.find_delete, Option.filter_eq_some_iff, Bool.not_eq_true',
      decide_eq_false_iff_not] at hrow
    change Ledger.raise state.ledger.swept userId known row.userId ≤ _
    rw [raise_of_ne hrow.2]
    exact h.rows idHash row hrow.1
  swept userId := (h.swept userId).trans le_raise
  resolved := h.resolved

theorem Inv.open (h : Inv state) {userId ip token : String} {known : Nat} {database : Database}
    (hopen : Database.openSession config state.relay.database choice userId (some ip) =
      .ok (database, token)) (hfresh : state.ledger.swept userId ≤ known) :
    Inv ⟨{ state.relay with database },
      state.ledger.opened (config.hashSecret token) known⟩ where
  rows idHash row hrow := by
    obtain ⟨hnew, hfind⟩ := Database.openSession_eq_ok hopen
    change state.ledger.swept row.userId ≤
      Function.update state.ledger.origin (config.hashSecret token) known idHash
    rw [hfind] at hrow
    by_cases hid : idHash = config.hashSecret token
    · rw [if_pos hid] at hrow
      rw [hid, Function.update_self, ← Option.some.inj hrow]
      exact hfresh
    · rw [if_neg hid] at hrow
      rw [Function.update_of_ne hid]
      exact h.rows idHash row hrow
  swept := h.swept
  resolved := h.resolved

theorem Inv.resolve (h : Inv state) {idHash userId : String}
    (hheld : ((state.relay.database.consoleSessions.find idHash).any fun row =>
      decide (row.userId = userId)) = true)
    (hkeep : KeepsSessions state.relay.database relay'.database) :
    Inv ⟨relay', state.ledger.resolve idHash userId⟩ where
  rows := (h.keep hkeep).rows
  swept := h.swept
  resolved resolution hresolution := by
    rcases List.mem_append.mp hresolution with hold | hnew
    · exact h.resolved resolution hold
    · rw [List.mem_singleton] at hnew
      subst hnew
      obtain ⟨row, hrow, huser⟩ := (Option.any_eq_true _ _).mp hheld
      rw [decide_eq_true_eq] at huser
      exact (h.swept userId).trans (huser ▸ h.rows idHash row hrow)

structure Keeps (state state' : ConsoleState) (task' : ConsoleTask) : Prop where
  inv : Inv state'
  relies : Relies state'.ledger task'
  swept : ∀ userId, state.ledger.swept userId ≤ state'.ledger.swept userId

theorem Inv.keeps (h : Inv state)
    (hkeep : KeepsSessions state.relay.database relay'.database)
    (hrelies : Relies state.ledger task') : Keeps state ⟨relay', state.ledger⟩ task' :=
  ⟨h.keep hkeep, hrelies, fun _ => le_rfl⟩

theorem relies_resolveNext (ledger : Ledger) (now : Int)
    (change : Option (PasswordChangeRequest × String)) (remaining : List String) :
    Relies ledger (ConsoleTask.resolveNext now change remaining) := by
  cases remaining <;> trivial

theorem relies_updating {ledger : Ledger} {request : Request} {known : Nat} :
    Relies ledger
      (if request.patches then .updating request known else .finished (.ok ())) := by
  split
  · next hpatches => exact hpatches
  · trivial

theorem Inv.replace (h : Inv state) (userId : String) :
    Inv ⟨state.relay, state.ledger.replace userId⟩ :=
  ⟨h.rows, h.swept, h.resolved⟩

/-- The statement of a patch, whatever it replaces. -/
theorem keeps_updatingUser {userId : String} {update : UserUpdate} {known : Nat}
    {request' : Request} (hinv : Inv state)
    (hkeep : KeepsSessions state.relay.database relay'.database) :
    Keeps state
      ⟨relay', (ConsoleTask.patchLedger state.ledger known (.updatingUser userId update)
        request').1⟩
      (if request'.patches then
        .updating request' (ConsoleTask.patchLedger state.ledger known
          (.updatingUser userId update) request').2
      else .finished (.ok ())) := by
  have hkept := hinv.keep hkeep
  cases request' with
  | signingOut userId' update' =>
      simp only [ConsoleTask.patchLedger]
      split
      · exact ⟨hkept.replace _, relies_updating, fun _ => le_rfl⟩
      · exact ⟨hkept, relies_updating, fun _ => le_rfl⟩
  | _ => exact ⟨hkept, relies_updating, fun _ => le_rfl⟩

theorem keeps_patched {request request' : Request} {known : Nat} (hinv : Inv state)
    (hpatches : request.patches = true)
    (h : request.step config state.relay choice = some (relay', request')) :
    Keeps state ⟨relay', (ConsoleTask.patchLedger state.ledger known request request').1⟩
      (if request'.patches then
        .updating request' (ConsoleTask.patchLedger state.ledger known request request').2
      else .finished (.ok ())) := by
  cases request with
  | updateUser id request =>
      have hrelay : relay' = state.relay := by
        cases Request.step_eq_some h <;> rfl
      rw [hrelay]
      exact ⟨hinv, relies_updating, fun _ => le_rfl⟩
  | updatingUser userId update =>
      have hkeep := keepsSessions_updateUser state.relay.database choice.fault userId update
      cases Request.step_eq_some h with
      | failed _ _ => exact keeps_updatingUser hinv (.of_eq rfl)
      | userUpdateFailed _ => exact keeps_updatingUser hinv hkeep
      | userUpdated => exact keeps_updatingUser hinv hkeep
  | signingOut userId update =>
      cases Request.step_eq_some h with
      | failed _ _ => exact ⟨hinv, relies_updating, fun _ => le_rfl⟩
      | signedOut hdelete =>
          have hknown : known ≤ (state.ledger.sweep userId known).swept userId := known_le_raise
          have hswept := (hinv.sweep hdelete known).settle hknown
          split
          · exact ⟨hswept, relies_updating, fun _ => le_raise⟩
          · exact ⟨hswept, relies_updating, fun _ => le_raise⟩
  | _ => cases hpatches

theorem keeps_opened {userId ip token : String} {known : Nat} {replaces : Bool}
    {database : Database} (hinv : Inv state)
    (hrelies : Relies state.ledger (.opening userId ip known replaces))
    (hfresh : state.ledger.swept userId ≤ known)
    (h : Database.openSession config state.relay.database choice userId (some ip) =
      .ok (database, token)) :
    Keeps state
      ⟨{ state.relay with database },
        if replaces then (state.ledger.opened (config.hashSecret token) known).settle userId known
        else state.ledger.opened (config.hashSecret token) known⟩ (.finished (.ok ())) := by
  have hopened := hinv.open h hfresh
  cases replaces with
  | false => exact ⟨hopened, trivial, fun _ => le_rfl⟩
  | true => exact ⟨hopened.settle hrelies, trivial, fun _ => le_rfl⟩

/-- Every action that opens no session too late and resolves none that is gone. -/
theorem step_keeps {task : ConsoleTask} (hinv : Inv state) (hrelies : Relies state.ledger task)
    (hfresh : fresh state task = true)
    (h : task.step config state choice = some (state', task')) : Keeps state state' task' := by
  cases ConsoleTask.step_eq_some h with
  | refused => exact hinv.keeps (.of_eq rfl) trivial
  | accepted _ => exact hinv.keeps (.of_eq rfl) trivial
  | loggedIn hrecord => exact hinv.keeps (keepsSessions_recordUserLogin hrecord) trivial
  | opened hopen => exact keeps_opened hinv hrelies (of_decide_eq_true hfresh) hopen
  | resolveFailed hstep => exact hinv.keeps (Resolve.step_rows hstep).2 trivial
  | unresolved hstep => exact hinv.keeps (Resolve.step_rows hstep).2 (relies_resolveNext ..)
  | @resolved _ _ _ change _ _ _ hstep hholding =>
      simp only [fresh, hholding] at hfresh
      refine ⟨hinv.resolve hfresh (Resolve.step_rows hstep).2, ?_, fun _ => le_rfl⟩
      cases change <;> trivial
  | resolving hstep => exact hinv.keeps (Resolve.step_rows hstep).2 trivial
  | changeFailed hupdate => exact hinv.keeps (keepsSessions_of_updateUser hupdate) trivial
  | changed _ hupdate =>
      have hkeep := keepsSessions_of_updateUser hupdate
      exact ⟨(hinv.keep hkeep).replace _, trivial, fun _ => le_rfl⟩
  | signedOut hdelete => exact ⟨hinv.sweep hdelete _, known_le_raise, fun _ => le_raise⟩
  | patched hstep => exact keeps_patched hinv hrelies hstep

end Invariant

section Runs

variable {config : RelayConfig} {s s' : Console} {label : ConsoleLabel}

structure PoolInv (s : Console) : Prop where
  inv : Inv s.shared
  relies : ∀ task ∈ s.tasks, Relies s.shared.ledger task

theorem Relies.mono {ledger ledger' : Ledger} {task : ConsoleTask}
    (hswept : ∀ userId, ledger.swept userId ≤ ledger'.swept userId) (h : Relies ledger task) :
    Relies ledger' task := by
  cases task with
  | opening userId ip known replaces =>
      cases replaces with
      | false => trivial
      | true => exact le_trans h (hswept userId)
  | updating request known => exact h
  | _ => trivial

theorem relies_of_starts {ledger : Ledger} {task : ConsoleTask} (h : task.starts = true) :
    Relies ledger task := by
  cases task with
  | opening userId ip known replaces => cases h
  | updating request known =>
      cases request with
      | updateUser id request => rfl
      | _ => cases h
  | _ => trivial

theorem poolInv_step (h : PoolInv s) (hfresh : Fresh s label)
    (hstep : step config s label = some s') : PoolInv s' := by
  cases label with
  | environment event => cases event
  | spawn task =>
      obtain ⟨hstarts, rfl⟩ := poolStep_spawn hstep
      refine ⟨h.inv, fun other hother => ?_⟩
      rcases List.mem_append.mp hother with hold | hnew
      · exact h.relies other hold
      · rw [List.mem_singleton] at hnew
        subst hnew
        exact relies_of_starts hstarts
  | advance index choice =>
      obtain ⟨task, state', task', htask, hadvance, rfl⟩ := poolStep_advance hstep
      rw [Fresh, htask, Option.all_some] at hfresh
      have hrelies : Relies s.shared.ledger task := h.relies task (List.mem_of_getElem? htask)
      have hkeeps := step_keeps h.inv hrelies hfresh hadvance
      refine ⟨hkeeps.inv, forall_mem_set (fun other hother => ?_) hkeeps.relies⟩
      exact (h.relies other hother).mono hkeeps.swept

theorem poolInv_init (database : Database) : PoolInv (init database) where
  inv := ⟨fun _ _ _ => le_rfl, fun _ => le_rfl, fun _ h => nomatch h⟩
  relies _ h := nomatch h

end Runs

/-- No session of an account was created over a password whose replacement has completed, and no
token resolved to one that was. -/
def ReplacementsEndSessions (state : ConsoleState) : Prop :=
  (∀ idHash row, state.relay.database.consoleSessions.find idHash = some row →
    state.ledger.settled row.userId ≤ state.ledger.origin idHash) ∧
  ∀ resolution ∈ state.ledger.resolved, resolution.settled ≤ resolution.origin

theorem Inv.endSessions {state : ConsoleState} (h : Inv state) : ReplacementsEndSessions state :=
  ⟨fun idHash row hrow => (h.swept row.userId).trans (h.rows idHash row hrow), h.resolved⟩

/-- As long as no session is inserted after the sign-out of a replacement its creator did not know
of, and no session is gone while it resolves, a replaced password leaves nothing signed in. -/
theorem replaced_password_ends_sessions (config : RelayConfig) (database : Database)
    (labels : List ConsoleLabel) (s : Console)
    (hrun : run (step config) (init database) labels = some s)
    (hfresh : Meets (step config) Fresh (init database) labels) :
    ReplacementsEndSessions s.shared := by
  have hpool : PoolInv s :=
    run_invariant (P := PoolInv) (fun _ _ _ h hlabel hstep => poolInv_step h hlabel hstep)
      (poolInv_init database) hfresh hrun
  exact hpool.inv.endSessions

def signInAndChange : List ConsoleLabel :=
  [.spawn (.login "admin" "initial-secret" "10.0.0.1"), .advance 0 {}, .advance 0 {},
    .advance 0 { identifier := some "token-1" },
    .spawn (.resolving (.presented "token-1" 0) [] 0
      (some (⟨"initial-secret", "another-secret"⟩, "10.0.0.1"))),
    .advance 1 {}, .advance 1 {}, .advance 1 {}, .advance 1 {},
    .advance 1 { identifier := some "token-2" },
    .spawn (.resolving (.presented "token-2" 0) [] 0 none), .advance 2 {}, .advance 2 {}]

theorem replaced_password_ends_sessions_changed :
    ∃ s, run (step System.plainConfig) (init Administration.firstAccounts) signInAndChange =
        some s ∧
      s.shared.ledger.resolved = [⟨"user-1", 0, 0⟩, ⟨"user-1", 1, 1⟩] ∧
      s.shared.relay.database.consoleSessions.find "token-1" = none ∧
      ReplacementsEndSessions s.shared := by
  obtain ⟨s, hrun, hresolved, hgone⟩ := exists_run (step System.plainConfig)
    (init Administration.firstAccounts) signInAndChange
    (fun s => s.shared.ledger.resolved = [⟨"user-1", 0, 0⟩, ⟨"user-1", 1, 1⟩] ∧
      s.shared.relay.database.consoleSessions.find "token-1" = none) (by decide)
  exact ⟨s, hrun, hresolved, hgone, replaced_password_ends_sessions System.plainConfig
    Administration.firstAccounts signInAndChange s hrun (by decide)⟩

/-- The password is verified, an administrator replaces it and signs the account out, and only
then is the session inserted. Its token still resolves. -/
def signInLate : List ConsoleLabel :=
  [.spawn (.login "admin" "initial-secret" "10.0.0.1"), .advance 0 {}, .advance 0 {},
    .spawn (.updating (.updateUser "user-1" ⟨none, none, some "another-secret"⟩) 0),
    .advance 1 {}, .advance 1 {}, .advance 1 {},
    .advance 0 { identifier := some "token-1" },
    .spawn (.resolving (.presented "token-1" 0) [] 0 none), .advance 2 {}, .advance 2 {}]

theorem replaced_password_keeps_late_session :
    ¬ ∀ (config : RelayConfig) (database : Database) (labels : List ConsoleLabel) (s : Console),
      run (step config) (init database) labels = some s → ReplacementsEndSessions s.shared := by
  intro h
  obtain ⟨s, hrun, hresolved⟩ := exists_run (step System.plainConfig)
    (init Administration.firstAccounts) signInLate
    (fun s => ⟨"user-1", 0, 1⟩ ∈ s.shared.ledger.resolved) (by decide)
  have hends := h System.plainConfig Administration.firstAccounts signInLate s hrun
  exact absurd (hends.2 ⟨"user-1", 0, 1⟩ hresolved) (by decide)

end Console

end TermexoRelay
