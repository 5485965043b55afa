import TermexoRelay.Auth.Session
import TermexoRelay.Library.Lease
import TermexoRelay.Relay.System
import Mathlib.Algebra.Order.Group.Int

/-!
# The lifetime of a session

A token is resolved again and again, and each time in up to three queries, before any of which the
other tasks may have changed the database. The stored deadline is a lease, and resolving uses it.
-/

namespace TermexoRelay

open Transition

/-- One query of `resolve_session` that goes through, over the database it finds. -/
def Resolve.turn (config : RelayConfig) (state : Database × Resolve) (found : Database) :
    Option (Database × Resolve) :=
  state.2.step config found none

def Database.deadline (config : RelayConfig) (token : String) (db : Database) : Option Int :=
  (db.consoleSessions.find (config.hashSecret token)).map SessionRecord.expiresAt

/-- The account exists and is not disabled. -/
def Database.Enabled (userId : String) (db : Database) : Prop :=
  ∃ user, db.users.find userId = some user ∧ user.disabled = false

/-- What the other tasks leave to a query: the account is enabled, and the row of the session is as
the query before left it. Before the first query the row may have been cleared away, if it had run
out. -/
structure LeftAlone (config : RelayConfig) (token userId : String) (state : Database × Resolve)
    (found : Database) : Prop where
  account : found.Enabled userId
  session : found.consoleSessions.find (config.hashSecret token) =
      state.1.consoleSessions.find (config.hashSecret token) ∨
    found.consoleSessions.find (config.hashSecret token) = none ∧
      ∃ now, state.2 = .presented token now ∧
        ∀ row ∈ state.1.consoleSessions.find (config.hashSecret token), row.isExpired now = true

structure SessionUse where
  now : Int
  answer : Option UserRecord
  deadline : Option Int

/-- The token is resolved at one time after the other. -/
inductive SessionUses (config : RelayConfig) (token userId : String) :
    Database → List SessionUse → Database → Prop
  | unused (db : Database) : SessionUses config token userId db [] db
  | used {db db' last : Database} {now : Int} {found : List Database}
      {answer : Option UserRecord} {uses : List SessionUse}
      (halone : Meets (Resolve.turn config) (LeftAlone config token userId)
        (db, .presented token now) found)
      (hrun : run (Resolve.turn config) (db, .presented token now) found =
        some (db', .resolved answer))
      (hrest : SessionUses config token userId db' uses last) :
      SessionUses config token userId db (⟨now, answer, db'.deadline config token⟩ :: uses) last

section Call

variable {config : RelayConfig} {token userId : String} {db db' found : Database} {now : Int}
  {stage : Resolve} {founds : List Database} {answer : Option UserRecord}

theorem run_turn_resolved {result : Option UserRecord}
    (hrun : run (Resolve.turn config) (db, .resolved result) founds =
      some (db', .resolved answer)) : db' = db ∧ answer = result := by
  cases founds with
  | nil =>
      simp only [run_nil, Option.some.injEq, Prod.mk.injEq, Resolve.resolved.injEq] at hrun
      exact ⟨hrun.1.symm, hrun.2.symm⟩
  | cons found founds =>
      obtain ⟨m, hm, -⟩ := run_cons_eq_some.mp hrun
      cases hm

theorem run_turn_cons (hstage : ∀ result, stage ≠ .resolved result)
    (halone : Meets (Resolve.turn config) (LeftAlone config token userId) (db, stage) founds)
    (hrun : run (Resolve.turn config) (db, stage) founds = some (db', .resolved answer)) :
    ∃ found rest db₁ stage₁, stage.step config found none = some (db₁, stage₁) ∧
      LeftAlone config token userId (db, stage) found ∧
      Meets (Resolve.turn config) (LeftAlone config token userId) (db₁, stage₁) rest ∧
      run (Resolve.turn config) (db₁, stage₁) rest = some (db', .resolved answer) := by
  cases founds with
  | nil =>
      simp only [run_nil, Option.some.injEq, Prod.mk.injEq] at hrun
      exact absurd hrun.2 (hstage answer)
  | cons found rest =>
      obtain ⟨⟨db₁, stage₁⟩, hstep, hrest⟩ := run_cons_eq_some.mp hrun
      obtain ⟨hfound, hmeets⟩ := meets_cons.mp halone
      exact ⟨found, rest, db₁, stage₁, hstep, hfound, hmeets _ hstep, hrest⟩

theorem run_dropping
    (halone : Meets (Resolve.turn config) (LeftAlone config token userId)
      (db, .dropping (config.hashSecret token)) founds)
    (hrun : run (Resolve.turn config) (db, .dropping (config.hashSecret token)) founds =
      some (db', .resolved answer)) :
    db'.consoleSessions.find (config.hashSecret token) = none ∧ answer = none := by
  obtain ⟨found, rest, db₁, stage₁, hstep, -, -, hrest⟩ :=
    run_turn_cons (fun _ => Resolve.noConfusion) halone hrun
  simp only [Resolve.step, Database.deleteSession, Fault.guard, Option.isSome_none,
    Bool.false_eq_true, if_false, Option.some.injEq, Prod.mk.injEq] at hstep
  obtain ⟨rfl, rfl⟩ := hstep
  obtain ⟨rfl, rfl⟩ := run_turn_resolved hrest
  refine ⟨?_, rfl⟩
  rw [Rows.find_delete, Option.filter_eq_none_iff]
  intro row hrow
  simp [Rows.key_of_find hrow]

theorem run_extending {expiresAt : Int} {user : UserRecord}
    (halone : Meets (Resolve.turn config) (LeftAlone config token userId)
      (db, .extending (config.hashSecret token) expiresAt user) founds)
    (hrun : run (Resolve.turn config)
      (db, .extending (config.hashSecret token) expiresAt user) founds =
        some (db', .resolved answer)) :
    db'.consoleSessions.find (config.hashSecret token) =
        (db.consoleSessions.find (config.hashSecret token)).map
          (fun row => { row with expiresAt }) ∧ answer = some user := by
  obtain ⟨found, rest, db₁, stage₁, hstep, hfound, -, hrest⟩ :=
    run_turn_cons (fun _ => Resolve.noConfusion) halone hrun
  simp only [Resolve.step, Database.extendSession, Fault.guard, Option.isSome_none,
    Bool.false_eq_true, if_false, Option.some.injEq, Prod.mk.injEq] at hstep
  obtain ⟨rfl, rfl⟩ := hstep
  obtain ⟨rfl, rfl⟩ := run_turn_resolved hrest
  have hsame : found.consoleSessions.find (config.hashSecret token) =
      db.consoleSessions.find (config.hashSecret token) := by
    rcases hfound.session with hsame | ⟨-, now, hpresented, -⟩
    · exact hsame
    · cases hpresented
  refine ⟨?_, rfl⟩
  rw [Rows.find_update, hsame]
  cases hrow : db.consoleSessions.find (config.hashSecret token) with
  | none => rfl
  | some row => simp [Rows.key_of_find hrow]

theorem run_account {session : SessionRecord}
    (hsession : db.consoleSessions.find (config.hashSecret token) = some session)
    (hiduser : session.userId = userId)
    (halone : Meets (Resolve.turn config) (LeftAlone config token userId)
      (db, .account session now) founds)
    (hrun : run (Resolve.turn config) (db, .account session now) founds =
      some (db', .resolved answer)) :
    (∃ row, db'.consoleSessions.find (config.hashSecret token) = some row ∧
      row.userId = userId ∧ row.expiresAt =
        Lease.renew SESSION_LIFETIME_MS SESSION_RENEWAL_THRESHOLD_MS session.expiresAt now) ∧
      ∃ user, answer = some user ∧ user.id = userId := by
  obtain ⟨found, rest, db₁, stage₁, hstep, hfound, hmeets, hrest⟩ :=
    run_turn_cons (fun _ => Resolve.noConfusion) halone hrun
  obtain ⟨user, huser, henabled⟩ := hfound.account
  have hid : user.id = userId := Rows.key_of_find huser
  have hkey : session.idHash = config.hashSecret token := Rows.key_of_find hsession
  have hsame : found.consoleSessions.find (config.hashSecret token) = some session := by
    rcases hfound.session with hsame | ⟨-, now, hpresented, -⟩
    · exact hsame.trans hsession
    · cases hpresented
  simp only [Resolve.step, Database.findUser, Fault.guard, Option.isSome_none,
    Bool.false_eq_true, if_false, hiduser, huser, henabled, hkey, renewedExpiry,
    Option.some.injEq, Prod.mk.injEq] at hstep
  obtain ⟨rfl, hstage⟩ := hstep
  by_cases hfar : SESSION_RENEWAL_THRESHOLD_MS ≤ now + SESSION_LIFETIME_MS - session.expiresAt
  · rw [if_pos hfar] at hstage
    subst hstage
    obtain ⟨hrow, rfl⟩ := run_extending hmeets hrest
    rw [hsame, Option.map_some] at hrow
    exact ⟨⟨_, hrow, hiduser, by rw [Lease.renew, if_pos hfar]⟩, user, rfl, hid⟩
  · rw [if_neg hfar] at hstage
    subst hstage
    obtain ⟨rfl, rfl⟩ := run_turn_resolved hrest
    exact ⟨⟨session, hsame, hiduser, by rw [Lease.renew, if_neg hfar]⟩, user, rfl, hid⟩

/-- One call uses the lease: the deadline it leaves is the lease after the use, and it answers
with the account exactly when there is one. -/
theorem run_presented
    (howner : ∀ row ∈ db.consoleSessions.find (config.hashSecret token), row.userId = userId)
    (halone : Meets (Resolve.turn config) (LeftAlone config token userId)
      (db, .presented token now) founds)
    (hrun : run (Resolve.turn config) (db, .presented token now) founds =
      some (db', .resolved answer)) :
    db'.deadline config token = Lease.use SESSION_LIFETIME_MS SESSION_RENEWAL_THRESHOLD_MS
        (db.deadline config token) now ∧
      answer.isSome = (db'.deadline config token).isSome ∧
      (∀ user ∈ answer, user.id = userId) ∧
      ∀ row ∈ db'.consoleSessions.find (config.hashSecret token), row.userId = userId := by
  obtain ⟨found, rest, db₁, stage₁, hstep, hfound, hmeets, hrest⟩ :=
    run_turn_cons (fun _ => Resolve.noConfusion) halone hrun
  simp only [Resolve.step, Database.findSession, Fault.guard, Option.isSome_none,
    Bool.false_eq_true, if_false] at hstep
  have hlease : Lease.use SESSION_LIFETIME_MS SESSION_RENEWAL_THRESHOLD_MS
      (db.deadline config token) now = Lease.use SESSION_LIFETIME_MS SESSION_RENEWAL_THRESHOLD_MS
        (found.deadline config token) now := by
    rcases hfound.session with hsame | ⟨hgone, now', hpresented, hexpired⟩
    · rw [Database.deadline, Database.deadline, hsame]
    · cases hpresented
      rw [Database.deadline, Database.deadline, hgone]
      cases hrow : db.consoleSessions.find (config.hashSecret token) with
      | none => rfl
      | some row => exact if_pos (of_decide_eq_true (hexpired row hrow))
  rw [hlease, Database.deadline, Database.deadline]
  cases hrow : found.consoleSessions.find (config.hashSecret token) with
  | none =>
      simp only [hrow, Option.some.injEq, Prod.mk.injEq] at hstep
      obtain ⟨rfl, rfl⟩ := hstep
      obtain ⟨rfl, rfl⟩ := run_turn_resolved hrest
      rw [hrow]
      exact ⟨rfl, rfl, fun _ huser => (by cases huser), fun _ hrow => (by cases hrow)⟩
  | some session =>
      have hkey : session.idHash = config.hashSecret token := Rows.key_of_find hrow
      have hiduser : session.userId = userId := by
        rcases hfound.session with hsame | ⟨hgone, -⟩
        · exact howner session (hsame ▸ hrow)
        · rw [hgone] at hrow
          cases hrow
      simp only [hrow, hkey, Option.some.injEq, Prod.mk.injEq] at hstep
      obtain ⟨rfl, hstage⟩ := hstep
      by_cases hexpired : session.isExpired now = true
      · rw [if_pos hexpired] at hstage
        subst hstage
        obtain ⟨hgone, rfl⟩ := run_dropping hmeets hrest
        rw [hgone]
        refine ⟨?_, rfl, fun _ huser => (by cases huser), fun _ hrow => (by cases hrow)⟩
        exact (if_pos (of_decide_eq_true hexpired)).symm
      · rw [if_neg hexpired] at hstage
        subst hstage
        obtain ⟨⟨row, hkept, howned, hexpires⟩, user, rfl, hid⟩ :=
          run_account hrow hiduser hmeets hrest
        rw [hkept]
        refine ⟨?_, rfl, fun other hother => ?_, fun other hother => ?_⟩
        · rw [Option.map_some, Option.map_some, hexpires, Lease.use, Option.bind_some,
            if_neg fun hle => hexpired (decide_eq_true hle)]
        · rw [← Option.some.inj hother, hid]
        · rw [← Option.some.inj hother, howned]

/-- The call can be run to an answer from here. -/
def Answers (config : RelayConfig) (token userId : String) (db : Database) (stage : Resolve) :
    Prop :=
  ∃ founds db' answer,
    Meets (Resolve.turn config) (LeftAlone config token userId) (db, stage) founds ∧
    run (Resolve.turn config) (db, stage) founds = some (db', .resolved answer)

theorem answers_resolved (result : Option UserRecord) :
    Answers config token userId db (.resolved result) :=
  ⟨[], db, result, trivial, rfl⟩

theorem Answers.step {db₁ : Database} {stage₁ : Resolve} (henabled : db.Enabled userId)
    (hstep : stage.step config db none = some (db₁, stage₁))
    (h : Answers config token userId db₁ stage₁) : Answers config token userId db stage := by
  obtain ⟨founds, db', answer, hmeets, hrun⟩ := h
  have hturn : Resolve.turn config (db, stage) db = some (db₁, stage₁) := hstep
  refine ⟨db :: founds, db', answer, meets_cons.mpr ⟨⟨henabled, .inl rfl⟩, fun m hm => ?_⟩,
    run_cons_eq_some.mpr ⟨_, hturn, hrun⟩⟩
  rw [hturn, Option.some.injEq] at hm
  exact hm ▸ hmeets

theorem answers_presented (henabled : db.Enabled userId)
    (howner : ∀ row ∈ db.consoleSessions.find (config.hashSecret token), row.userId = userId)
    (now : Int) : Answers config token userId db (.presented token now) := by
  cases hrow : db.consoleSessions.find (config.hashSecret token) with
  | none =>
      have hfind : (Resolve.presented token now).step config db none =
          some (db, .resolved none) := by
        rw [Resolve.step, Database.findSession, hrow]
        rfl
      exact Answers.step henabled hfind (answers_resolved none)
  | some session =>
      have hfind : (Resolve.presented token now).step config db none =
          some (db, if session.isExpired now then .dropping session.idHash
            else .account session now) := by
        rw [Resolve.step, Database.findSession, hrow]
        rfl
      refine Answers.step henabled hfind ?_
      split
      · exact Answers.step henabled rfl (answers_resolved none)
      · obtain ⟨user, huser, hdisabled⟩ := henabled
        cases hrenewed : renewedExpiry session.expiresAt now with
        | none =>
            have haccount : (Resolve.account session now).step config db none =
                some (db, .resolved (some user)) := by
              simp [Resolve.step, Database.findUser, Fault.guard, howner session hrow, huser,
                hdisabled, hrenewed]
            exact Answers.step ⟨user, huser, hdisabled⟩ haccount (answers_resolved (some user))
        | some expiresAt =>
            have haccount : (Resolve.account session now).step config db none =
                some (db, .extending session.idHash expiresAt user) := by
              simp [Resolve.step, Database.findUser, Fault.guard, howner session hrow, huser,
                hdisabled, hrenewed]
            refine Answers.step ⟨user, huser, hdisabled⟩ haccount ?_
            exact Answers.step ⟨user, huser, hdisabled⟩ rfl (answers_resolved (some user))

end Call

section Uses

variable {config : RelayConfig} {token userId : String} {db middle last : Database}
  {uses uses' : List SessionUse}

theorem SessionUses.append (h : SessionUses config token userId db uses middle)
    (h' : SessionUses config token userId middle uses' last) :
    SessionUses config token userId db (uses ++ uses') last := by
  induction h with
  | unused db => exact h'
  | used halone hrun _ ih => exact .used halone hrun (ih h')

/-- The deadlines the calls leave are the history of the lease. -/
theorem SessionUses.history (h : SessionUses config token userId db uses last)
    (howner : ∀ row ∈ db.consoleSessions.find (config.hashSecret token), row.userId = userId) :
    (uses.map fun use => (use.now, use.deadline)) =
        Lease.history SESSION_LIFETIME_MS SESSION_RENEWAL_THRESHOLD_MS (db.deadline config token)
          (uses.map SessionUse.now) ∧
      (∀ use ∈ uses, use.answer.isSome = use.deadline.isSome ∧
        ∀ user ∈ use.answer, user.id = userId) ∧
      ∀ row ∈ last.consoleSessions.find (config.hashSecret token), row.userId = userId := by
  induction h with
  | unused db => exact ⟨rfl, fun use huse => absurd huse List.not_mem_nil, howner⟩
  | used halone hrun _ ih =>
      obtain ⟨hlease, hanswer, huser, howner'⟩ := run_presented howner halone hrun
      obtain ⟨hhistory, hanswers, hlast⟩ := ih howner'
      refine ⟨?_, ?_, hlast⟩
      · rw [List.map_cons, List.map_cons, hhistory, Lease.history, ← hlease]
      · intro use huse
        rcases List.mem_cons.mp huse with rfl | huse
        · exact ⟨hanswer, huser⟩
        · exact hanswers use huse

theorem SessionUses.start (h : SessionUses config token userId db (uses ++ uses') last) :
    ∃ middle, SessionUses config token userId db uses middle := by
  induction uses generalizing db with
  | nil => exact ⟨db, .unused db⟩
  | cons use uses ih =>
      cases h with
      | used halone hrun hrest =>
          obtain ⟨middle, hmiddle⟩ := ih hrest
          exact ⟨middle, .used halone hrun hmiddle⟩

end Uses

section Leased

variable {config : RelayConfig} {token userId : String} {used : Int} {db last : Database}
  {uses : List SessionUse}

/-- The session belongs to the account, and its deadline is within a threshold of a lifetime after
its last use. -/
structure Database.Leased (config : RelayConfig) (token userId : String) (used : Int)
    (db : Database) : Prop where
  owner : ∀ row ∈ db.consoleSessions.find (config.hashSecret token), row.userId = userId
  within : ∀ deadline ∈ db.deadline config token,
    Lease.Within SESSION_LIFETIME_MS SESSION_RENEWAL_THRESHOLD_MS used deadline

theorem renewalThreshold_pos : 0 < SESSION_RENEWAL_THRESHOLD_MS := by decide

theorem leased_openSession {opened : Database} {choice : TaskChoice} {ip : Option String}
    (h : Database.openSession config db choice userId ip = .ok (opened, token)) :
    opened.Leased config token userId choice.now ∧
      opened.deadline config token = some (choice.now + SESSION_LIFETIME_MS) := by
  obtain ⟨-, hrows⟩ := Database.openSession_eq_ok h
  have hrow := hrows (config.hashSecret token)
  rw [if_pos rfl] at hrow
  have hfresh : opened.deadline config token = some (choice.now + SESSION_LIFETIME_MS) := by
    rw [Database.deadline, hrow, Option.map_some]
  refine ⟨⟨?_, ?_⟩, hfresh⟩
  · intro row hmem
    rw [hrow, Option.mem_some_iff] at hmem
    rw [← hmem]
  · intro deadline hdeadline
    rw [hfresh, Option.mem_some_iff] at hdeadline
    rw [← hdeadline]
    exact Lease.within_fresh renewalThreshold_pos

theorem SessionUses.answer_eq_none_iff (h : SessionUses config token userId db uses last)
    (hleased : db.Leased config token userId used) :
    ∀ use ∈ uses, use.answer = none ↔ use.deadline = none := by
  obtain ⟨-, hanswers, -⟩ := h.history hleased.owner
  intro use huse
  rw [← Option.isNone_iff_eq_none, ← Option.isNone_iff_eq_none, ← Option.not_isSome,
    ← Option.not_isSome, (hanswers use huse).1]

theorem SessionUses.answered (h : SessionUses config token userId db uses last)
    (hleased : db.Leased config token userId used)
    (hlease : (db.deadline config token).isSome = true)
    (htimes : (used :: uses.map SessionUse.now).IsChain (· ≤ ·))
    (hclose : (used :: uses.map SessionUse.now).IsChain fun earlier later =>
      later - earlier ≤ SESSION_LIFETIME_MS - SESSION_RENEWAL_THRESHOLD_MS) :
    ∀ use ∈ uses, ∃ user, use.answer = some user ∧ user.id = userId := by
  obtain ⟨hhistory, hanswers, -⟩ := h.history hleased.owner
  have hkept := Lease.history_isSome renewalThreshold_pos hleased.within hlease htimes hclose
  rw [← hhistory] at hkept
  intro use huse
  have hsome := hkept _ (List.mem_map_of_mem huse)
  rw [← (hanswers use huse).1] at hsome
  obtain ⟨user, huser⟩ := Option.isSome_iff_exists.mp hsome
  exact ⟨user, huser, (hanswers use huse).2 user huser⟩

theorem SessionUses.refused_of_late (h : SessionUses config token userId db uses last)
    (hleased : db.Leased config token userId used)
    (htimes : (used :: uses.map SessionUse.now).IsChain (· ≤ ·)) :
    (∀ use ∈ uses.head?, used + SESSION_LIFETIME_MS ≤ use.now → use.answer = none) ∧
      uses.IsChain fun previous use =>
        previous.now + SESSION_LIFETIME_MS ≤ use.now → use.answer = none := by
  obtain ⟨hhistory, -, -⟩ := h.history hleased.owner
  have hnone := h.answer_eq_none_iff hleased
  have hfar := Lease.history_none_of_far renewalThreshold_pos hleased.within htimes
  rw [← hhistory, List.isChain_cons] at hfar
  constructor
  · intro use huse hlate
    refine (hnone use (List.mem_of_mem_head? huse)).mpr (hfar.1 (use.now, use.deadline) ?_ hlate)
    rw [List.head?_map, Option.mem_def.mp huse]
    rfl
  · refine List.IsChain.imp_of_mem_imp (fun previous use _ huse hnext hlate => ?_)
      ((List.isChain_map _).mp hfar.2)
    exact (hnone use huse).mpr (hnext hlate)

theorem SessionUses.stays_refused (h : SessionUses config token userId db uses last)
    (hleased : db.Leased config token userId used) :
    uses.Pairwise fun earlier later => earlier.answer = none → later.answer = none := by
  obtain ⟨hhistory, -, -⟩ := h.history hleased.owner
  have hnone := h.answer_eq_none_iff hleased
  have hstays := Lease.history_stays_none SESSION_LIFETIME_MS SESSION_RENEWAL_THRESHOLD_MS
    (db.deadline config token) (uses.map SessionUse.now)
  rw [← hhistory, List.pairwise_map] at hstays
  refine hstays.imp_of_mem fun hearlier hlater hnext hanswer => ?_
  exact (hnone _ hlater).mpr (hnext ((hnone _ hearlier).mp hanswer))

theorem SessionUses.deadline_within (h : SessionUses config token userId db uses last)
    (hleased : db.Leased config token userId used)
    (htimes : (used :: uses.map SessionUse.now).IsChain (· ≤ ·)) :
    ∀ use ∈ uses, use.answer.isSome = true → ∃ deadline, use.deadline = some deadline ∧
      use.now + SESSION_LIFETIME_MS - SESSION_RENEWAL_THRESHOLD_MS < deadline ∧
        deadline ≤ use.now + SESSION_LIFETIME_MS := by
  obtain ⟨hhistory, hanswers, -⟩ := h.history hleased.owner
  intro use huse hanswer
  rw [(hanswers use huse).1] at hanswer
  obtain ⟨deadline, hdeadline⟩ := Option.isSome_iff_exists.mp hanswer
  have hbounds := Lease.history_within renewalThreshold_pos hleased.within htimes
    (use.now, use.deadline) (hhistory ▸ List.mem_map_of_mem huse) deadline hdeadline
  exact ⟨deadline, hdeadline, hbounds.lower, hbounds.upper⟩

end Leased

/-- A session that is used at least once in its lifetime less the threshold never runs out, one
that is not used for a whole lifetime does and stays so, and the deadline that is stored is always
within a threshold of a lifetime after the last use. -/
theorem session_lifetime {config : RelayConfig} {db opened last : Database} {choice : TaskChoice}
    {userId token : String} {ip : Option String} {uses : List SessionUse}
    (hopen : Database.openSession config db choice userId ip = .ok (opened, token))
    (huses : SessionUses config token userId opened uses last)
    (htimes : (choice.now :: uses.map SessionUse.now).IsChain (· ≤ ·)) :
    (last.Enabled userId → ∀ now, ∃ answer deadline next,
      SessionUses config token userId opened (uses ++ [⟨now, answer, deadline⟩]) next) ∧
    (∀ first rest, uses = first ++ rest →
      ((choice.now :: first.map SessionUse.now).IsChain fun earlier later =>
        later - earlier ≤ SESSION_LIFETIME_MS - SESSION_RENEWAL_THRESHOLD_MS) →
      ∀ use ∈ first, ∃ user, use.answer = some user ∧ user.id = userId) ∧
    (∀ use ∈ uses.head?, choice.now + SESSION_LIFETIME_MS ≤ use.now → use.answer = none) ∧
    (uses.IsChain fun previous use =>
      previous.now + SESSION_LIFETIME_MS ≤ use.now → use.answer = none) ∧
    (uses.Pairwise fun earlier later => earlier.answer = none → later.answer = none) ∧
    ∀ use ∈ uses, use.answer.isSome = true → ∃ deadline, use.deadline = some deadline ∧
      use.now + SESSION_LIFETIME_MS - SESSION_RENEWAL_THRESHOLD_MS < deadline ∧
        deadline ≤ use.now + SESSION_LIFETIME_MS := by
  obtain ⟨hleased, hfresh⟩ := leased_openSession hopen
  obtain ⟨-, -, hlast⟩ := huses.history hleased.owner
  obtain ⟨hfirst, hnext⟩ := huses.refused_of_late hleased htimes
  refine ⟨fun henabled now => ?_, ?_, hfirst, hnext, huses.stays_refused hleased,
    huses.deadline_within hleased htimes⟩
  · obtain ⟨founds, next, answer, hmeets, hrun⟩ := answers_presented henabled hlast now
    exact ⟨answer, _, next, huses.append (.used hmeets hrun (.unused next))⟩
  · rintro first rest rfl hclose
    obtain ⟨middle, hstart⟩ := huses.start
    rw [List.map_append, ← List.cons_append] at htimes
    exact hstart.answered hleased (Option.isSome_of_eq_some hfresh) htimes.left_of_append hclose

def aliceOnly : Database where
  users := (Rows.empty.insert (Database.newUser "user-1" "alice" "hash" .user 0)).getD .empty
  devices := .empty
  enrollmentCodes := .empty
  consoleSessions := .empty

def DAY_MS : Int := 24 * 60 * 60 * 1000

def aliceSignedIn (expiresAt : Int) : Database where
  users := aliceOnly.users
  devices := .empty
  enrollmentCodes := .empty
  consoleSessions := (Rows.empty.insert ⟨"token", "user-1", 0, expiresAt, none⟩).getD .empty

/-- A session that is used a day after it was opened, which pushes its deadline, and then not for a
whole lifetime. -/
theorem session_lifetime_daily :
    ∃ last daily late, Database.openSession System.plainConfig aliceOnly
        { identifier := some "token" } "user-1" none =
          .ok (aliceSignedIn SESSION_LIFETIME_MS, "token") ∧
      SessionUses System.plainConfig "token" "user-1" (aliceSignedIn SESSION_LIFETIME_MS)
        [daily, late] last ∧
      daily.now = DAY_MS ∧ late.now = DAY_MS + SESSION_LIFETIME_MS ∧
      (∃ user, daily.answer = some user ∧ user.id = "user-1") ∧
      (∃ deadline, daily.deadline = some deadline ∧ SESSION_LIFETIME_MS < deadline) ∧
      late.answer = none := by
  have henabled : ∀ expiresAt, (aliceSignedIn expiresAt).Enabled "user-1" :=
    fun _ => ⟨_, rfl, rfl⟩
  have halone : ∀ expiresAt stage, LeftAlone System.plainConfig "token" "user-1"
      (aliceSignedIn expiresAt, stage) (aliceSignedIn expiresAt) :=
    fun expiresAt _ => ⟨henabled expiresAt, .inl rfl⟩
  have hopen : Database.openSession System.plainConfig aliceOnly { identifier := some "token" }
      "user-1" none = .ok (aliceSignedIn SESSION_LIFETIME_MS, "token") := rfl
  have hrenewing : Meets (Resolve.turn System.plainConfig)
      (LeftAlone System.plainConfig "token" "user-1")
      (aliceSignedIn SESSION_LIFETIME_MS, .presented "token" DAY_MS)
      (List.replicate 3 (aliceSignedIn SESSION_LIFETIME_MS)) :=
    ⟨halone _ _, halone _ _, halone _ _, trivial⟩
  have hdropping : Meets (Resolve.turn System.plainConfig)
      (LeftAlone System.plainConfig "token" "user-1")
      (aliceSignedIn (DAY_MS + SESSION_LIFETIME_MS),
        .presented "token" (DAY_MS + SESSION_LIFETIME_MS))
      (List.replicate 2 (aliceSignedIn (DAY_MS + SESSION_LIFETIME_MS))) :=
    ⟨halone _ _, halone _ _, trivial⟩
  have huses := SessionUses.used hrenewing rfl (.used hdropping rfl (.unused _))
  have htimes : ([0, DAY_MS, DAY_MS + SESSION_LIFETIME_MS] : List Int).IsChain (· ≤ ·) := by
    decide
  obtain ⟨-, hanswered, -, hfar, -, hwithin⟩ := session_lifetime hopen huses htimes
  refine ⟨_, _, _, hopen, huses, rfl, rfl, ?_, ?_, ?_⟩
  · exact hanswered [_] [_] rfl (by decide) _ List.mem_cons_self
  · obtain ⟨deadline, hdeadline, hlower, -⟩ := hwithin _ List.mem_cons_self rfl
    refine ⟨deadline, hdeadline, ?_⟩
    simp only [DAY_MS, SESSION_RENEWAL_THRESHOLD_MS] at hlower
    omega
  · exact (List.isChain_cons_cons.mp hfar).1 le_rfl

end TermexoRelay
