import Mathlib.Logic.Relation
import TermexoRelay.Relay.Passwords

/-!
# Who a console request runs as

A browser may send several session cookies, in any order and some of them stale or planted. The
relay resolves one after the other and runs as the account of the first that stands for a session;
on the way it drops the rows of sessions that have ended and pushes the deadline of the one it
found.
-/

namespace TermexoRelay

open Relation

/-- A request behind the console login, from its cookies to the end of what it does to its
session. -/
inductive Visit where
  /-- `SessionUser::from_request_parts`: one token is being resolved, `remaining` come after it. -/
  | trying (token : String) (stage : Resolve) (remaining : List String) (now : Int) (logout : Bool)
  /-- The handler runs as the account. -/
  | admitted (token : String) (user : UserRecord)
  /-- `destroy_session` of a logout. -/
  | leaving (token : String)
  | left (token : String)
  | refused (e : ApiError)
deriving DecidableEq, Repr

namespace Visit

/-- The next token of the cookies, or the answer when none resolved. -/
def next (now : Int) (logout : Bool) : List String → Visit
  | token :: remaining => .trying token (.presented token now) remaining now logout
  | [] => .refused (.unauthorized NOT_LOGGED_IN)

def step (config : RelayConfig) (db : Database) (fault : Fault) :
    Visit → Option (Database × Visit)
  | .trying token stage remaining now logout =>
      (stage.step config db fault).map fun resolved =>
        (resolved.1, match resolved.2 with
          | .failed e => .refused (.ofDatabase e)
          | .resolved none => next now logout remaining
          | .resolved (some user) => if logout then .leaving token else .admitted token user
          | stage => .trying token stage remaining now logout)
  | .leaving token =>
      match db.deleteSession fault (config.hashSecret token) with
      | .error e => some (db, .refused (.ofDatabase e))
      | .ok database => some (database, .left token)
  | .admitted _ _ => none
  | .left _ => none
  | .refused _ => none

def starts : Visit → Bool
  | .trying token (.presented token' now) _ now' _ => decide (token = token' ∧ now = now')
  | .refused e => decide (e = .unauthorized NOT_LOGGED_IN)
  | _ => false

/-- The token of the session the request was let in by. -/
def letIn : Visit → Option String
  | .admitted token _ => some token
  | .leaving token => some token
  | .left token => some token
  | _ => none

end Visit

/-- The account a session row lets in. -/
def Database.rowUser (db : Database) (now : Int) (row : Option SessionRecord) :
    Option UserRecord :=
  row.bind fun session =>
    if session.isExpired now then none
    else (db.users.find session.userId).filter fun user => !user.disabled

/-- The account a token lets in. -/
def Database.liveUser (config : RelayConfig) (db : Database) (now : Int) (token : String) :
    Option UserRecord :=
  db.rowUser now (db.consoleSessions.find (config.hashSecret token))

/-- The first token that lets somebody in. -/
def Database.firstLive (config : RelayConfig) (db : Database) (now : Int) (tokens : List String) :
    Option (String × UserRecord) :=
  tokens.findSome? fun token => (db.liveUser config now token).map fun user => (token, user)

/-- `delete_expired_sessions`, with the number of rows it removed. -/
def Database.deleteExpiredSessions (db : Database) (fault : Fault) (now : Int) :
    Except DatabaseError (Database × Nat) :=
  fault.guard <| .ok
    ({ db with consoleSessions := db.consoleSessions.delete fun row => row.isExpired now },
      (db.consoleSessions.keysWhere fun row => row.isExpired now).length)

/-- No account changes, and every session lets in whom it did before. -/
structure Database.Tidied (now : Int) (db db' : Database) : Prop where
  users : db'.users = db.users
  sessions : ∀ idHash, db.rowUser now (db'.consoleSessions.find idHash) =
    db.rowUser now (db.consoleSessions.find idHash)

section Tidied

variable {config : RelayConfig} {now : Int} {db db' db'' : Database}

theorem Database.rowUser_congr (h : db'.users = db.users) (row : Option SessionRecord) :
    db'.rowUser now row = db.rowUser now row := by
  rw [rowUser, rowUser, h]

theorem Database.Tidied.refl (now : Int) (db : Database) : Tidied now db db :=
  ⟨rfl, fun _ => rfl⟩

theorem Database.Tidied.trans (h : Tidied now db db') (h' : Tidied now db' db'') :
    Tidied now db db'' := by
  refine ⟨h'.users.trans h.users, fun idHash => ?_⟩
  rw [← rowUser_congr h.users, h'.sessions, rowUser_congr h.users, h.sessions]

theorem Database.Tidied.liveUser (h : Tidied now db db') (token : String) :
    db'.liveUser config now token = db.liveUser config now token := by
  rw [Database.liveUser, rowUser_congr h.users, h.sessions, Database.liveUser]

theorem Database.Tidied.firstLive (h : Tidied now db db') (tokens : List String) :
    db'.firstLive config now tokens = db.firstLive config now tokens := by
  rw [Database.firstLive, Database.firstLive]
  congr 1
  funext token
  rw [h.liveUser]

theorem Database.Tidied.drop {idHash : String}
    (hdead : db.rowUser now (db.consoleSessions.find idHash) = none)
    (h : db.deleteSession none idHash = .ok db') : Tidied now db db' := by
  obtain ⟨-, h⟩ := Fault.guard_eq_ok.mp h
  rw [← Except.ok.inj h]
  refine ⟨rfl, fun other => ?_⟩
  rw [Rows.find_delete]
  cases hrow : db.consoleSessions.find other with
  | none => rfl
  | some row =>
      by_cases hother : row.idHash = idHash
      · have hid : other = idHash := (Rows.key_of_find hrow).symm.trans hother
        rw [← hid, hrow] at hdead
        rw [hdead, Option.filter_some, if_neg (by simp [hother])]
        rfl
      · rw [Option.filter_some, if_pos (by simp [hother])]

theorem Database.Tidied.extend {idHash : String} {session : SessionRecord}
    (hsession : db.consoleSessions.find idHash = some session)
    (hlive : session.isExpired now = false) {expiresAt : Int} (hlater : now < expiresAt)
    (h : db.extendSession none idHash expiresAt = .ok db') : Tidied now db db' := by
  obtain ⟨-, h⟩ := Fault.guard_eq_ok.mp h
  rw [← Except.ok.inj h]
  refine ⟨rfl, fun other => ?_⟩
  rw [Rows.find_update]
  cases hrow : db.consoleSessions.find other with
  | none => rfl
  | some row =>
      by_cases hother : row.idHash = idHash
      · have hid : other = idHash := (Rows.key_of_find hrow).symm.trans hother
        rw [hid, hsession, Option.some.injEq] at hrow
        subst hrow
        have hrenewed : ({ session with expiresAt } : SessionRecord).isExpired now = false := by
          simpa [SessionRecord.isExpired] using hlater
        rw [Option.map_some, if_pos (by simp [hother]), rowUser, rowUser, Option.bind_some,
          Option.bind_some, hrenewed, hlive]
      · rw [Option.map_some, if_neg (by simp [hother])]

end Tidied

/-- A step of a request that nothing else acts in between of, with no query failing. -/
def Visit.Alone (config : RelayConfig) (a b : Database × Visit) : Prop :=
  a.2.step config a.1 none = some b

/-- What a request that runs alone comes to. -/
def Visit.outcome (logout : Bool) : Option (String × UserRecord) → Visit
  | some (token, user) => if logout then .leaving token else .admitted token user
  | none => .refused (.unauthorized NOT_LOGGED_IN)

section Alone

variable {config : RelayConfig} {now : Int} {db : Database} {token : String}

theorem Visit.drop_alone (remaining : List String) (logout : Bool)
    (hdead : db.liveUser config now token = none) :
    ∃ db', db.Tidied now db' ∧ ReflTransGen (Alone config)
      (db, .trying token (.dropping (config.hashSecret token)) remaining now logout)
      (db', next now logout remaining) := by
  refine ⟨_, Database.Tidied.drop hdead rfl, .single ?_⟩
  rfl

theorem lt_of_renewedExpiry {currentExpiresAt expiresAt : Int}
    (h : renewedExpiry currentExpiresAt now = some expiresAt) : now < expiresAt := by
  simp only [renewedExpiry, Option.ite_none_right_eq_some, Option.some.injEq] at h
  rw [← h.2]
  exact Int.lt_add_of_pos_right now (by decide)

theorem Visit.resolve_alone (config : RelayConfig) (now : Int) (db : Database) (token : String)
    (remaining : List String) (logout : Bool) :
    ∃ db', db.Tidied now db' ∧ ReflTransGen (Alone config)
      (db, .trying token (.presented token now) remaining now logout)
      (db', match db.liveUser config now token with
        | some user => outcome logout (some (token, user))
        | none => next now logout remaining) := by
  cases hsession : db.consoleSessions.find (config.hashSecret token) with
  | none =>
      have hdead : db.liveUser config now token = none := by
        rw [Database.liveUser, hsession, Database.rowUser, Option.bind_none]
      rw [hdead]
      refine ⟨db, .refl now db, .single ?_⟩
      simp [Alone, step, Resolve.step, Database.findSession, Fault.guard, hsession]
  | some session =>
      have hhash : session.idHash = config.hashSecret token := Rows.key_of_find hsession
      have hlive : db.liveUser config now token = if session.isExpired now then none
          else (db.users.find session.userId).filter fun user => !user.disabled := by
        rw [Database.liveUser, hsession, Database.rowUser, Option.bind_some]
      by_cases hexpired : session.isExpired now = true
      · rw [if_pos hexpired] at hlive
        obtain ⟨db', htidied, hdrop⟩ := drop_alone remaining logout hlive
        rw [hlive]
        refine ⟨db', htidied, .head ?_ hdrop⟩
        simp [Alone, step, Resolve.step, Database.findSession, Fault.guard, hsession, hexpired,
          hhash]
      · rw [if_neg hexpired] at hlive
        have hfound : Alone config (db, .trying token (.presented token now) remaining now logout)
            (db, .trying token (.account session now) remaining now logout) := by
          simp [Alone, step, Resolve.step, Database.findSession, Fault.guard, hsession, hexpired]
        have hmissing : db.liveUser config now token = none → Alone config
            (db, .trying token (.account session now) remaining now logout)
            (db, .trying token (.dropping (config.hashSecret token)) remaining now logout) := by
          intro hdead
          rw [hlive] at hdead
          cases huser : db.users.find session.userId with
          | none => simp [Alone, step, Resolve.step, Database.findUser, Fault.guard, huser, hhash]
          | some user =>
              rw [huser, Option.filter_some, ite_eq_right_iff] at hdead
              have hdisabled : user.disabled = true := by simpa using hdead
              simp [Alone, step, Resolve.step, Database.findUser, Fault.guard, huser, hhash,
                hdisabled]
        cases hresult : db.liveUser config now token with
        | none =>
            obtain ⟨db', htidied, hdrop⟩ := drop_alone remaining logout hresult
            exact ⟨db', htidied, .head hfound (.head (hmissing hresult) hdrop)⟩
        | some user =>
            rw [hlive, Option.filter_eq_some_iff] at hresult
            obtain ⟨huser, henabled⟩ := hresult
            have henabled : user.disabled = false := by simpa using henabled
            cases hrenewed : renewedExpiry session.expiresAt now with
            | none =>
                refine ⟨db, .refl now db, .head hfound (.single ?_)⟩
                simp [Alone, step, Resolve.step, Database.findUser, Fault.guard, huser, henabled,
                  hrenewed, outcome]
            | some expiresAt =>
                have hnext : Alone config
                    (db, .trying token (.account session now) remaining now logout)
                    (db, .trying token (.extending (config.hashSecret token) expiresAt user)
                      remaining now logout) := by
                  simp [Alone, step, Resolve.step, Database.findUser, Fault.guard, huser, henabled,
                    hrenewed, hhash]
                refine ⟨_, .extend hsession (by simpa using hexpired) (lt_of_renewedExpiry hrenewed)
                  rfl, .head hfound (.head hnext (.single ?_))⟩
                rfl

end Alone

/-- The extractor of a request that runs alone comes to the first of its tokens that lets anybody
in, and leaves every session letting in whom it did. -/
theorem Visit.extractor_alone (config : RelayConfig) (now : Int) (logout : Bool)
    (tokens : List String) (db : Database) :
    ∃ db', db.Tidied now db' ∧ ReflTransGen (Alone config)
      (db, next now logout tokens) (db', outcome logout (db.firstLive config now tokens)) := by
  induction tokens generalizing db with
  | nil => exact ⟨db, .refl now db, .refl⟩
  | cons token remaining ih =>
      obtain ⟨db', htidied, hresolved⟩ := resolve_alone config now db token remaining logout
      cases hlive : db.liveUser config now token with
      | some user =>
          rw [hlive] at hresolved
          refine ⟨db', htidied, ?_⟩
          rw [Database.firstLive, List.findSome?_cons, hlive]
          exact hresolved
      | none =>
          rw [hlive] at hresolved
          obtain ⟨db'', htidied', hrest⟩ := ih db'
          refine ⟨db'', htidied.trans htidied', ?_⟩
          rw [Database.firstLive, List.findSome?_cons, hlive, ← Database.firstLive,
            ← htidied.firstLive]
          exact hresolved.trans hrest

/-- The request can end in this way, when nothing acts in between and no query fails. -/
def Visit.ComesTo (config : RelayConfig) (db : Database) (visit visit' : Visit) : Prop :=
  ∃ db', ReflTransGen (Alone config) (db, visit) (db', visit') ∧ visit'.step config db' none = none

/-- The end of a request that was let in by a token, or by none. -/
def Visit.answer (logout : Bool) : Option (String × UserRecord) → Visit
  | some (token, user) => if logout then .left token else .admitted token user
  | none => .refused (.unauthorized NOT_LOGGED_IN)

theorem Visit.comesTo_unique {config : RelayConfig} {db : Database} {visit a b : Visit}
    (ha : ComesTo config db visit a) (hb : ComesTo config db visit b) : a = b := by
  have hunique : Relator.RightUnique (Alone config) := by
    intro x y z hy hz
    exact Option.some.inj (hy.symm.trans hz)
  have hend : ∀ {x : Database} {v : Visit} {y : Database × Visit}, v.step config x none = none →
      ReflTransGen (Alone config) (x, v) y → y = (x, v) := by
    intro x v y hstop hreach
    rcases hreach.cases_head with rfl | ⟨next, hnext, -⟩
    · rfl
    · rw [Alone, hstop] at hnext
      cases hnext
  obtain ⟨x, hx, hxstop⟩ := ha
  obtain ⟨y, hy, hystop⟩ := hb
  rcases hx.total_of_right_unique hunique hy with hreach | hreach
  · exact (congrArg Prod.snd (hend hxstop hreach)).symm
  · exact congrArg Prod.snd (hend hystop hreach)

/-- A request that runs alone ends in one way only. -/
theorem Visit.comesTo_iff (config : RelayConfig) (now : Int) (logout : Bool) (tokens : List String)
    (db : Database) (visit : Visit) :
    ComesTo config db (next now logout tokens) visit ↔
      visit = answer logout (db.firstLive config now tokens) := by
  have hanswer : ComesTo config db (next now logout tokens)
      (answer logout (db.firstLive config now tokens)) := by
    obtain ⟨db', -, hreach⟩ := extractor_alone config now logout tokens db
    cases hfirst : db.firstLive config now tokens with
    | none =>
        rw [hfirst] at hreach
        exact ⟨db', hreach, rfl⟩
    | some first =>
        rw [hfirst] at hreach
        cases logout with
        | false => exact ⟨db', hreach, rfl⟩
        | true => exact ⟨_, hreach.tail rfl, rfl⟩
  constructor
  · intro h
    exact comesTo_unique h hanswer
  · rintro rfl
    exact hanswer

theorem Database.deleteExpiredSessions_tidied {db db' : Database} {fault : Fault}
    {sweptAt now : Int} {removed : Nat}
    (h : db.deleteExpiredSessions fault sweptAt = .ok (db', removed)) (hlater : sweptAt ≤ now) :
    Tidied now db db' := by
  obtain ⟨-, h⟩ := Fault.guard_eq_ok.mp h
  obtain ⟨rfl, -⟩ := Prod.mk.inj (Except.ok.inj h)
  refine ⟨rfl, fun idHash => ?_⟩
  rw [Rows.find_delete]
  cases hrow : db.consoleSessions.find idHash with
  | none => rfl
  | some row =>
      cases hexpired : row.isExpired sweptAt with
      | false => rw [Option.filter_some, if_pos (by simp [hexpired])]
      | true =>
          have hstill : row.isExpired now = true := by
            simp only [SessionRecord.isExpired, decide_eq_true_eq] at hexpired ⊢
            exact Int.le_trans hexpired hlater
          rw [Option.filter_some, if_neg (by simp [hexpired]), rowUser, rowUser, Option.bind_none,
            Option.bind_some, if_pos hstill]

/-- A console request that runs alone ends as the account of the first of its tokens that lets
anybody in, whatever other tokens it carries, and a logout with that session deleted; it is refused
when none does, and there is no other way it can end. Clearing the sessions that had run out at an
earlier start of the relay makes no difference to it. -/
theorem console_request_answer (config : RelayConfig) (db db' : Database) (fault : Fault)
    (sweptAt now : Int) (removed : Nat)
    (h : db.deleteExpiredSessions fault sweptAt = .ok (db', removed)) (hlater : sweptAt ≤ now)
    (logout : Bool) (tokens : List String) (visit : Visit) :
    (Visit.ComesTo config db (.next now logout tokens) visit ↔
      visit = .answer logout (db.firstLive config now tokens)) ∧
    (Visit.ComesTo config db' (.next now logout tokens) visit ↔
      visit = .answer logout (db.firstLive config now tokens)) := by
  have hfirst : db'.firstLive config now tokens = db.firstLive config now tokens :=
    (Database.deleteExpiredSessions_tidied h hlater).firstLive tokens
  constructor
  · exact Visit.comesTo_iff config now logout tokens db visit
  · rw [← hfirst]
    exact Visit.comesTo_iff config now logout tokens db' visit

def signedInTwice : Database :=
  match Administration.firstAccounts.openSession System.plainConfig
      { identifier := some "token-1" } "user-1" none with
  | .error _ => .empty
  | .ok (db, _) =>
      match db.openSession System.plainConfig
          { identifier := some "token-2", now := SESSION_LIFETIME_MS } "user-1" none with
      | .error _ => .empty
      | .ok (db, _) => db

/-- The first of them has run out and is cleared, and its cookie is still sent. -/
theorem console_request_answer_signedInTwice :
    ∃ db', signedInTwice.deleteExpiredSessions none SESSION_LIFETIME_MS = .ok (db', 1) ∧
      ∃ user, Visit.ComesTo System.plainConfig db'
        (.next SESSION_LIFETIME_MS false ["token-1", "token-2"]) (.admitted "token-2" user) := by
  obtain ⟨user, huser⟩ := Option.isSome_iff_exists.mp
    (by decide : (signedInTwice.users.find "user-1").isSome = true)
  refine ⟨_, rfl, user, ?_⟩
  refine (console_request_answer System.plainConfig signedInTwice _ none SESSION_LIFETIME_MS
    SESSION_LIFETIME_MS 1 rfl (Int.le_refl _) false ["token-1", "token-2"] _).2.mpr ?_
  rw [show user = (signedInTwice.users.find "user-1").get (by decide) from by simp [huser]]
  decide

end TermexoRelay
