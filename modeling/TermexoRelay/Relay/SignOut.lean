import TermexoRelay.Api.Redemption
import TermexoRelay.Relay.SessionUser

/-!
# Signing out

A logout deletes the session it was let in by. Between its queries sign-ins, other requests, tunnels
and administrators act on the same rows, and a request that is being resolved meanwhile may still
push the deadline of the session that is gone.
-/

namespace TermexoRelay

open Transition

/-- A task of the relay that may act on console sessions. -/
inductive SessionTask where
  | console (task : ConsoleTask)
  | signedIn (visit : Visit)
  /-- A tunnel session or any other request. -/
  | relay (task : Task)
deriving DecidableEq

namespace SessionTask

def starts : SessionTask → Bool
  | .console task => task.starts
  | .signedIn visit => visit.starts
  | .relay task => task.starts

def step (config : RelayConfig) (state : ConsoleState) (choice : TaskChoice) :
    SessionTask → Option (ConsoleState × SessionTask)
  | .console task => (task.step config state choice).map fun next => (next.1, .console next.2)
  | .signedIn visit =>
      (visit.step config state.relay.database choice.fault).map fun next =>
        ({ state with relay := { state.relay with database := next.1 } }, .signedIn next.2)
  | .relay task =>
      (task.step config state.relay choice).map fun next =>
        ({ state with relay := next.1 }, .relay next.2)

end SessionTask

abbrev SignIns := Pool ConsoleState SessionTask
abbrev SignInLabel := PoolLabel SessionTask TaskChoice ChannelEvent

namespace SignIns

def step (config : RelayConfig) : SignIns → SignInLabel → Option SignIns :=
  poolStep (fun _ task => task.starts) (fun _ state task choice => task.step config state choice)
    fun state event => (state.relay.channelStep event).map fun relay => { state with relay }

def init (database : Database) : SignIns := ⟨⟨⟨database, .new, []⟩, .new⟩, []⟩

def visitAt (s : SignIns) (index : Nat) : Option Visit :=
  match s.tasks[index]? with
  | some (.signedIn visit) => some visit
  | _ => none

theorem visitAt_eq_some {s : SignIns} {index : Nat} {visit : Visit} :
    s.visitAt index = some visit ↔ s.tasks[index]? = some (.signedIn visit) := by
  unfold visitAt
  split
  · next found htask => simp [htask]
  · next hother =>
      constructor
      · intro h
        cases h
      · intro h
        exact absurd h (hother visit)

/-- A session that is opened gets another digest. -/
def opensOther (config : RelayConfig) (idHash : String) (s : SignIns) : SignInLabel → Bool
  | .advance index choice =>
      match s.tasks[index]? with
      | some (.console (.opening _ _ _ _)) =>
          choice.identifier.all fun token => config.hashSecret token ≠ idHash
      | _ => true
  | _ => true

end SignIns

section Keeps

open Console

variable {config : RelayConfig} {choice : TaskChoice} {relay relay' : Relay}
  {state state' : ConsoleState}

theorem Console.KeepsSessions.none {db db' : Database} (h : KeepsSessions db db') {idHash : String}
    (hnone : db.consoleSessions.find idHash = none) : db'.consoleSessions.find idHash = none := by
  cases hrow : db'.consoleSessions.find idHash with
  | none => rfl
  | some row =>
      obtain ⟨old, hold, -⟩ := h idHash row hrow
      rw [hnone] at hold
      cases hold

theorem keepsSessions_deleteSession {db db' : Database} {fault : Fault} {idHash : String}
    (h : db.deleteSession fault idHash = .ok db') : KeepsSessions db db' := by
  obtain ⟨-, h⟩ := Fault.guard_eq_ok.mp h
  rw [← Except.ok.inj h]
  intro other row hrow
  rw [Rows.find_delete, Option.filter_eq_some_iff] at hrow
  exact ⟨row, hrow.1, rfl⟩

theorem Request.consoleSessions_eq {request request' : Request}
    (hrequest : request.writesCodes = true)
    (h : request.step config relay choice = some (relay', request')) :
    relay'.database.consoleSessions = relay.database.consoleSessions := by
  cases request with
  | creatingEnrollment createdBy owner request =>
      simp only [Request.step] at h
      split at h
      · cases h
        rfl
      · cases h
        rfl
      · split at h
        · cases h
          rfl
        · next hcreated =>
            cases h
            obtain ⟨-, id, rows, -, rfl⟩ := Database.createEnrollment_inserts hcreated
            rfl
  | cancelling id =>
      simp only [Request.step] at h
      split at h
      · cases h
        rfl
      · next hcancelled =>
          cases h
          obtain ⟨-, hcancelled⟩ := Fault.guard_eq_ok.mp hcancelled
          rw [← (Prod.mk.inj (Except.ok.inj hcancelled)).1]
  | burning enrollment credential =>
      simp only [Request.step] at h
      split at h
      · cases h
        rfl
      · next hburned =>
          cases h
          obtain ⟨-, hburned⟩ := Fault.guard_eq_ok.mp hburned
          rw [← (Prod.mk.inj (Except.ok.inj hburned)).1]
  | _ => cases hrequest

theorem keepsSessions_revokeDevice {db db' : Database} {fault : Fault} {id : String} {now : Int}
    {changed : Bool} (h : db.revokeDevice fault id now = .ok (db', changed)) :
    KeepsSessions db db' := by
  obtain ⟨-, h⟩ := Fault.guard_eq_ok.mp h
  exact .of_eq (by rw [← (Prod.mk.inj (Except.ok.inj h)).1])

theorem Request.keepsSessions {request request' : Request}
    (h : request.step config relay choice = some (relay', request')) :
    KeepsSessions relay.database relay'.database := by
  cases hwrites : request.writesCodes with
  | true => exact .of_eq (Request.consoleSessions_eq hwrites h)
  | false =>
      cases Request.step_eq_some h with
      | userCreated hcreated =>
          obtain ⟨_, users, -, rfl⟩ := Database.createUser_inserts hcreated
          exact .of_eq rfl
      | userUpdateFailed _ => exact keepsSessions_updateUser _ _ _ _
      | userUpdated => exact keepsSessions_updateUser _ _ _ _
      | signedOut hdeleted => exact keepsSessions_deleteSessionsOfUser hdeleted
      | rowRevoked hrevoked => exact keepsSessions_revokeDevice hrevoked
      | disowned hdisowned =>
          obtain ⟨-, hdisowned⟩ := Fault.guard_eq_ok.mp hdisowned
          exact .of_eq (by rw [← Except.ok.inj hdisowned])
      | forgotten hdeleted => exact keepsSessions_deleteSessionsOfUser hdeleted
      | userDeleted hdeleted =>
          obtain rfl := Database.deleteUser_deletes hdeleted
          exact .of_eq rfl
      | deviceUpdated =>
          refine .of_eq (Fault.runStatements_invariant
            (P := fun a : Database => a.consoleSessions = relay.database.consoleSessions) rfl ?_)
          intro statement hstatement a ha
          simp only [Database.updateDeviceStatements, List.mem_append, Option.mem_toList,
            Option.map_eq_some_iff] at hstatement
          rcases hstatement with (⟨_, -, rfl⟩ | ⟨_, -, rfl⟩) | ⟨_, -, rfl⟩ <;> exact ha
      | codeCreated _ => cases hwrites
      | codeCancelled _ => cases hwrites
      | issued _ hcreated _ =>
          obtain ⟨-, devices, -, rfl⟩ := Database.createDevice_inserts hcreated
          exact .of_eq rfl
      | burned _ _ => cases hwrites
      | discarded hrevoked => exact keepsSessions_revokeDevice hrevoked
      | _ => exact .of_eq rfl

theorem Task.keepsSessions {task task' : Task}
    (h : task.step config relay choice = some (relay', task')) :
    KeepsSessions relay.database relay'.database := by
  cases task with
  | session session =>
      obtain ⟨⟨_, session'⟩, hsession, heq⟩ := Option.map_eq_some_iff.mp h
      cases heq
      rcases Session.database_cases hsession with hsame | ⟨deviceId, f, hf, -, hset⟩
      · exact .of_eq (by rw [hsame])
      · exact .of_eq (by rw [hset]; rfl)
  | request request =>
      obtain ⟨⟨_, request'⟩, hrequest, heq⟩ := Option.map_eq_some_iff.mp h
      cases heq
      exact Request.keepsSessions hrequest

theorem ConsoleTask.keepsSessions {task task' : ConsoleTask}
    (hopening : ∀ userId ip known replaces, task ≠ .opening userId ip known replaces)
    (h : task.step config state choice = some (state', task')) :
    KeepsSessions state.relay.database state'.relay.database := by
  cases ConsoleTask.step_eq_some h with
  | loggedIn hrecord => exact keepsSessions_recordUserLogin hrecord
  | opened _ => exact absurd rfl (hopening _ _ _ _)
  | resolveFailed hstep => exact (Resolve.step_rows hstep).2
  | unresolved hstep => exact (Resolve.step_rows hstep).2
  | resolved hstep _ => exact (Resolve.step_rows hstep).2
  | resolving hstep => exact (Resolve.step_rows hstep).2
  | changeFailed hupdate => exact keepsSessions_of_updateUser hupdate
  | changed _ hupdate => exact keepsSessions_of_updateUser hupdate
  | signedOut hdelete => exact keepsSessions_deleteSessionsOfUser hdelete
  | patched hstep => exact Request.keepsSessions hstep
  | _ => exact .of_eq rfl

theorem Visit.keepsSessions {db db' : Database} {fault : Fault} {visit visit' : Visit}
    (h : visit.step config db fault = some (db', visit')) : KeepsSessions db db' := by
  cases visit with
  | trying token stage remaining now logout =>
      obtain ⟨⟨_, resolved⟩, hstep, heq⟩ := Option.map_eq_some_iff.mp h
      cases heq
      exact (Resolve.step_rows hstep).2
  | leaving token =>
      simp only [Visit.step] at h
      split at h
      · cases h
        exact .of_eq rfl
      · next hdelete =>
          cases h
          exact keepsSessions_deleteSession hdelete
  | _ => cases h

end Keeps

/-- A request that was not let in by the session and is not about to be: while it tries a token of
the session it has found no row. -/
structure Visit.ShutOut (config : RelayConfig) (idHash : String) (visit : Visit) : Prop where
  letIn : ∀ token, visit.letIn = some token → config.hashSecret token ≠ idHash
  trying : ∀ token stage remaining now logout, visit = .trying token stage remaining now logout →
    config.hashSecret token = idHash →
    (∃ now', stage = .presented token now') ∨ ∃ other, stage = .dropping other

section ShutOut

variable {config : RelayConfig} {choice : TaskChoice} {idHash : String}

theorem Visit.shutOut_next (now : Int) (logout : Bool) (remaining : List String) :
    (next now logout remaining).ShutOut config idHash := by
  cases remaining with
  | nil =>
      refine ⟨fun token h => ?_, fun _ _ _ _ _ h => ?_⟩
      · cases h
      · cases h
  | cons token remaining =>
      refine ⟨fun token h => ?_, fun _ _ _ _ _ h _ => ?_⟩
      · cases h
      · cases h
        exact .inl ⟨now, rfl⟩

theorem Visit.shutOut_refused (e : ApiError) : (refused e).ShutOut config idHash := by
  refine ⟨fun token h => ?_, fun _ _ _ _ _ h => ?_⟩
  · cases h
  · cases h

theorem Visit.shutOut_of_starts {visit : Visit} (h : visit.starts = true) :
    visit.ShutOut config idHash := by
  cases visit with
  | trying token stage remaining now logout =>
      cases stage with
      | presented token' now' =>
          obtain ⟨rfl, -⟩ := of_decide_eq_true h
          refine ⟨fun token h => ?_, fun _ _ _ _ _ h _ => ?_⟩
          · cases h
          · cases h
            exact .inl ⟨now', rfl⟩
      | _ => cases h
  | refused e => exact shutOut_refused e
  | _ => cases h

theorem Resolve.step_of_missing {db db' : Database} {fault : Fault} {token : String}
    {stage stage' : Resolve} (hnone : db.consoleSessions.find (config.hashSecret token) = none)
    (hstage : (∃ now, stage = .presented token now) ∨ ∃ other, stage = .dropping other)
    (h : stage.step config db fault = some (db', stage')) :
    stage' = .resolved none ∨ ∃ e, stage' = .failed e := by
  rcases hstage with ⟨now, rfl⟩ | ⟨other, rfl⟩
  · simp only [Resolve.step, Database.findSession, hnone] at h
    cases fault with
    | none =>
        cases h
        exact .inl rfl
    | some failed =>
        cases h
        exact .inr ⟨_, rfl⟩
  · simp only [Resolve.step] at h
    split at h
    · cases h
      exact .inr ⟨_, rfl⟩
    · cases h
      exact .inl rfl

theorem Visit.ShutOut.step {db db' : Database} {fault : Fault} {visit visit' : Visit}
    (hout : visit.ShutOut config idHash) (hnone : db.consoleSessions.find idHash = none)
    (h : visit.step config db fault = some (db', visit')) : visit'.ShutOut config idHash := by
  cases visit with
  | trying token stage remaining now logout =>
      obtain ⟨⟨_, resolved⟩, hstep, heq⟩ := Option.map_eq_some_iff.mp h
      cases heq
      by_cases hhash : config.hashSecret token = idHash
      · have hstage := hout.trying token stage remaining now logout rfl hhash
        rcases Resolve.step_of_missing (hhash ▸ hnone) hstage hstep with rfl | ⟨e, rfl⟩
        · exact shutOut_next now logout remaining
        · exact shutOut_refused _
      · have hlet : ∀ visit : Visit, visit.letIn = some token →
            (∀ token stage remaining now logout,
              visit ≠ .trying token stage remaining now logout) →
            visit.ShutOut config idHash := by
          intro visit hletIn hnot
          refine ⟨fun other hother => ?_, fun _ _ _ _ _ htrying => absurd htrying (hnot _ _ _ _ _)⟩
          rw [hletIn, Option.some.injEq] at hother
          exact hother ▸ hhash
        have htry : ∀ stage,
            (Visit.trying token stage remaining now logout).ShutOut config idHash := by
          intro stage
          refine ⟨fun other hother => ?_, fun _ _ _ _ _ htrying htoken => ?_⟩
          · cases hother
          · cases htrying
            exact absurd htoken hhash
        cases resolved with
        | failed e => exact shutOut_refused _
        | resolved user =>
            cases user with
            | none => exact shutOut_next now logout remaining
            | some user =>
                cases logout with
                | true => exact hlet _ rfl (by simp)
                | false => exact hlet _ rfl (by simp)
        | _ => exact htry _
  | leaving token =>
      simp only [Visit.step] at h
      split at h
      · cases h
        exact shutOut_refused _
      · cases h
        refine ⟨fun other hother => hout.letIn other hother, fun _ _ _ _ _ htrying => ?_⟩
        cases htrying
  | _ => cases h

end ShutOut

namespace SignIns

section Runs

variable {config : RelayConfig} {idHash : String} {s s' : SignIns} {label : SignInLabel}

/-- The session is gone, and no request from task `since` on was or will be let in by it. -/
structure Closed (config : RelayConfig) (idHash : String) (since : Nat) (s : SignIns) : Prop where
  gone : s.shared.relay.database.consoleSessions.find idHash = none
  since_le : since ≤ s.tasks.length
  shutOut : ∀ (index : Nat) (visit : Visit), since ≤ index →
    s.tasks[index]? = some (.signedIn visit) → visit.ShutOut config idHash

/-- A session that is gone is not opened again. -/
theorem gone_step (hgone : s.shared.relay.database.consoleSessions.find idHash = none)
    (hother : opensOther config idHash s label = true) (h : step config s label = some s') :
    s'.shared.relay.database.consoleSessions.find idHash = none := by
  cases label with
  | spawn task =>
      obtain ⟨-, rfl⟩ := poolStep_spawn h
      exact hgone
  | environment event =>
      obtain ⟨state, hstate, rfl⟩ := poolStep_environment h
      obtain ⟨relay, hrelay, rfl⟩ := Option.map_eq_some_iff.mp hstate
      rw [(Relay.channelStep_eq_some hrelay).1]
      exact hgone
  | advance index choice =>
      obtain ⟨task, state, task', htask, hadvance, rfl⟩ := poolStep_advance h
      cases task with
      | signedIn visit =>
          obtain ⟨⟨_, visit'⟩, hstep, heq⟩ := Option.map_eq_some_iff.mp hadvance
          cases heq
          exact (Visit.keepsSessions hstep).none hgone
      | relay task =>
          obtain ⟨⟨_, task'⟩, hstep, heq⟩ := Option.map_eq_some_iff.mp hadvance
          cases heq
          exact (Task.keepsSessions hstep).none hgone
      | console task =>
          obtain ⟨⟨_, task'⟩, hstep, heq⟩ := Option.map_eq_some_iff.mp hadvance
          cases heq
          by_cases hopening : ∀ userId ip known replaces, task ≠ .opening userId ip known replaces
          · exact (ConsoleTask.keepsSessions hopening hstep).none hgone
          · simp only [ne_eq, not_forall, not_not] at hopening
            obtain ⟨userId, ip, known, replaces, rfl⟩ := hopening
            simp only [opensOther, htask] at hother
            cases ConsoleTask.step_eq_some hstep with
            | refused => exact hgone
            | opened hopen =>
                rw [(Database.openSession_inserts hopen).1, Option.all_some, decide_eq_true_eq]
                  at hother
                rw [(Database.openSession_eq_ok hopen).2, if_neg (Ne.symm hother)]
                exact hgone

theorem closed_step {since : Nat} (hs : Closed config idHash since s)
    (hother : opensOther config idHash s label = true) (h : step config s label = some s') :
    Closed config idHash since s' := by
  have hgone := gone_step hs.gone hother h
  cases label with
  | spawn task =>
      obtain ⟨hstarts, rfl⟩ := poolStep_spawn h
      refine ⟨hgone, by simpa using Nat.le_succ_of_le hs.since_le,
        fun index visit hindex hvisit => ?_⟩
      rcases getElem?_append_cases hvisit with hvisit | rfl
      · exact hs.shutOut index visit hindex hvisit
      · exact Visit.shutOut_of_starts hstarts
  | environment event =>
      obtain ⟨state, -, rfl⟩ := poolStep_environment h
      exact ⟨hgone, hs.since_le, hs.shutOut⟩
  | advance moved choice =>
      obtain ⟨task, state, task', htask, hadvance, rfl⟩ := poolStep_advance h
      refine ⟨hgone, by simpa using hs.since_le, fun index visit hindex hvisit => ?_⟩
      rcases getElem?_set_cases hvisit with ⟨rfl, rfl⟩ | ⟨-, hvisit⟩
      · cases task with
        | signedIn old =>
            obtain ⟨⟨_, visit'⟩, hstep, heq⟩ := Option.map_eq_some_iff.mp hadvance
            cases heq
            exact (hs.shutOut index old hindex htask).step hs.gone hstep
        | relay task =>
            obtain ⟨_, -, heq⟩ := Option.map_eq_some_iff.mp hadvance
            cases heq
        | console task =>
            obtain ⟨_, -, heq⟩ := Option.map_eq_some_iff.mp hadvance
            cases heq
      · exact hs.shutOut index visit hindex hvisit

end Runs

/-- Once a logout has deleted its session, no request that arrives afterwards is let in by it,
whatever was going on meanwhile, as long as no later token has its digest. -/
theorem left_session_stays_closed (config : RelayConfig) (s s₁ s' : SignIns) (index : Nat)
    (choice : TaskChoice) (token : String) (labels : List SignInLabel)
    (hleaving : s.visitAt index = some (.leaving token))
    (hstep : step config s (.advance index choice) = some s₁)
    (hleft : s₁.visitAt index = some (.left token))
    (hrun : run (step config) s₁ labels = some s')
    (hother : Meets (step config)
      (fun s label => opensOther config (config.hashSecret token) s label = true) s₁ labels)
    (later : Nat) (visit : Visit) (hlater : s₁.tasks.length ≤ later)
    (hvisit : s'.visitAt later = some visit) (presented : String)
    (hletIn : visit.letIn = some presented) :
    config.hashSecret presented ≠ config.hashSecret token := by
  rw [visitAt_eq_some] at hleaving hleft hvisit
  have hgone : s₁.shared.relay.database.consoleSessions.find (config.hashSecret token) = none := by
    obtain ⟨task, state, task', htask, hadvance, rfl⟩ := poolStep_advance hstep
    rw [hleaving, Option.some.injEq] at htask
    subst htask
    obtain ⟨⟨_, visit'⟩, hdelete, heq⟩ := Option.map_eq_some_iff.mp hadvance
    cases heq
    simp only [Visit.step] at hdelete
    split at hdelete
    · cases hdelete
      rw [List.getElem?_set_self (List.getElem?_eq_some_iff.mp hleaving).1] at hleft
      cases hleft
    · next database hdeleted =>
        cases hdelete
        obtain ⟨-, hdeleted⟩ := Fault.guard_eq_ok.mp hdeleted
        rw [← Except.ok.inj hdeleted]
        simp only [Rows.find_delete, Option.filter_eq_none_iff]
        intro row hrow
        simp [Rows.key_of_find hrow]
  have hstart : Closed config (config.hashSecret token) s₁.tasks.length s₁ := by
    refine ⟨hgone, le_rfl, fun index visit hindex hvisit => ?_⟩
    exact absurd (List.getElem?_eq_some_iff.mp hvisit).1 (Nat.not_lt.mpr hindex)
  have hclosed : Closed config (config.hashSecret token) s₁.tasks.length s' :=
    run_invariant (fun _ _ _ hs hlabel hstep => closed_step hs hlabel hstep) hstart hother hrun
  exact (hclosed.shutOut later visit hlater hvisit).letIn presented hletIn

def signInTwice : List SignInLabel :=
  [.spawn (.console (.login "admin" "initial-secret" "10.0.0.1")), .advance 0 {}, .advance 0 {},
    .advance 0 { identifier := some "token-1" },
    .spawn (.console (.login "admin" "initial-secret" "10.0.0.2")), .advance 1 {}, .advance 1 {},
    .advance 1 { identifier := some "token-2" },
    .spawn (.signedIn (.trying "token-1" (.presented "token-1" 0) [] 0 true)), .advance 2 {},
    .advance 2 {}]

def returnWithBoth : List SignInLabel :=
  [.spawn (.signedIn (.trying "token-1" (.presented "token-1" 0) ["token-2"] 0 false)),
    .advance 3 {}, .advance 3 {}, .advance 3 {}]

theorem left_session_stays_closed_twice :
    ∃ s s₁ s', run (step System.plainConfig) (init Administration.firstAccounts) signInTwice =
        some s ∧
      step System.plainConfig s (.advance 2 {}) = some s₁ ∧
      run (step System.plainConfig) s₁ returnWithBoth = some s' ∧ "token-2" ≠ "token-1" := by
  obtain ⟨s, hrun, hleaving, hrest⟩ := exists_run (step System.plainConfig)
    (init Administration.firstAccounts) signInTwice
    (fun s => s.visitAt 2 = some (.leaving "token-1") ∧
      (step System.plainConfig s (.advance 2 {})).any (fun s₁ =>
        decide (s₁.visitAt 2 = some (.left "token-1") ∧ s₁.tasks.length = 3 ∧
          Meets (step System.plainConfig)
            (fun s label => opensOther System.plainConfig "token-1" s label = true) s₁
            returnWithBoth) &&
        (run (step System.plainConfig) s₁ returnWithBoth).any fun s' =>
          (s'.visitAt 3).any fun visit => visit.letIn = some "token-2") = true) (by decide)
  obtain ⟨s₁, hstep, hs₁⟩ := (Option.any_eq_true _ _).mp hrest
  rw [Bool.and_eq_true, decide_eq_true_eq] at hs₁
  obtain ⟨⟨hleft, hlength, hother⟩, hs₁⟩ := hs₁
  obtain ⟨s', hrun', hs'⟩ := (Option.any_eq_true _ _).mp hs₁
  obtain ⟨visit, hvisit, hletIn⟩ := (Option.any_eq_true _ _).mp hs'
  exact ⟨s, s₁, s', hrun, hstep, hrun', left_session_stays_closed System.plainConfig s s₁ s' 2 {}
    "token-1" returnWithBoth hleaving hstep hleft hrun' hother 3 visit hlength.le hvisit "token-2"
    (of_decide_eq_true hletIn)⟩

end SignIns

end TermexoRelay
