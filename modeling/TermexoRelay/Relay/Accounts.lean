import TermexoRelay.Relay.Revocation

/-!
# Accounts and the devices they own

Disabling an account sets its flag, signs it out, lists its devices once and revokes them one by
one; a deletion lists and revokes them before it disowns them. A device gets its owner where its row
is inserted, which rechecks nothing about the account. What is live of a disabled account is covered
by a request that has still to revoke it, as long as no row is inserted past the listing.
-/

namespace TermexoRelay

open Transition

namespace Database

/-- The account owns this device, and the device is not revoked. -/
def OwnsLive (db : Database) (userId deviceId : String) : Prop :=
  ∃ row, db.standing deviceId = some row ∧ row.ownerUserId = some userId ∧ row.revoked = false

def ownsLive (db : Database) (userId : String) : Bool :=
  db.devices.anyRow fun device => decide (device.ownerUserId = some userId) && !device.isRevoked

theorem OwnsLive.ownsLive {db : Database} {userId deviceId : String}
    (h : db.OwnsLive userId deviceId) : db.ownsLive userId = true := by
  obtain ⟨row, hrow, howner, hlive⟩ := h
  obtain ⟨device, hfind, rfl⟩ := find_of_standing hrow
  rw [← Bool.not_eq_false, Database.ownsLive, Rows.anyRow_eq_false]
  intro hnone
  have hdevice := hnone deviceId device hfind
  simp [show device.ownerUserId = some userId from howner,
    show device.isRevoked = false from hlive] at hdevice

theorem OwnsLive.of_standing {db db' : Database} (h : db'.standing = db.standing)
    {userId deviceId : String} (hlive : db'.OwnsLive userId deviceId) :
    db.OwnsLive userId deviceId := by
  obtain ⟨row, hrow, hrest⟩ := hlive
  exact ⟨row, h ▸ hrow, hrest⟩

/-- Every device of a disabled account is revoked. -/
def DisabledRevoked (db : Database) : Prop :=
  ∀ userId deviceId device, db.isDisabled userId = true →
    db.devices.find deviceId = some device → device.ownerUserId = some userId →
    device.isRevoked = true

theorem disabledRevoked_iff {db : Database} : db.DisabledRevoked ↔
    ∀ userId deviceId, db.isDisabled userId = true → ¬db.OwnsLive userId deviceId := by
  constructor
  · rintro h userId deviceId hdisabled ⟨row, hrow, howner, hlive⟩
    obtain ⟨device, hfind, rfl⟩ := find_of_standing hrow
    have hrevoked : device.standing.revoked = true :=
      h userId deviceId device hdisabled hfind howner
    rw [hrevoked] at hlive
    cases hlive
  · intro h userId deviceId device hdisabled hfind howner
    by_contra hlive
    exact h userId deviceId hdisabled
      ⟨_, standing_of_find hfind, howner, Bool.eq_false_iff.mpr hlive⟩

end Database

namespace Request

def toRevoke : Request → List String
  | .revoking deviceId remaining _ .row => deviceId :: remaining
  | .revoking _ remaining _ _ => remaining
  | _ => []

def tail : Request → Option RevokeTail
  | .revoking _ _ tail _ => some tail
  | .disowning userId => some (.delete userId)
  | _ => none

/-- Whether a request that disables the account has its listing ahead. -/
def willList (userId : String) : Request → Bool
  | .signingOut id update => decide (id = userId ∧ update.disabled = some true)
  | .listing _ (.disable id) => decide (id = userId)
  | _ => false

/-- The account that the next action goes on disabling, if a failing statement would stop that. -/
def disabling : Request → Option String
  | .signingOut userId update => if update.disabled = some true then some userId else none
  | .listing _ (.disable userId) => some userId
  | .revoking _ _ (.disable userId) .row => some userId
  | _ => none

/-- The request will revoke this device of the account it disables. -/
def Covers (userId deviceId : String) (request : Request) : Prop :=
  request.willList userId = true ∨
    request.tail = some (.disable userId) ∧ deviceId ∈ request.toRevoke

/-- A listing is of the account that is being disabled or deleted. -/
def ListsOwn (request : Request) : Prop :=
  ∀ userId tail, request = .listing userId tail → tail = .disable userId ∨ tail = .delete userId

theorem toRevoke_revokeNext (tail : RevokeTail) (remaining : List String) :
    (revokeNext tail remaining).toRevoke = remaining := by
  cases remaining with
  | cons deviceId rest => rfl
  | nil => cases tail <;> rfl

theorem tail_revokeNext {tail : RevokeTail} {remaining : List String} {deviceId : String}
    (h : deviceId ∈ remaining) : (revokeNext tail remaining).tail = some tail := by
  cases remaining with
  | cons id rest => rfl
  | nil => cases h

theorem tail_of_revokeNext {tail tail' : RevokeTail} {remaining : List String}
    (h : (revokeNext tail remaining).tail = some tail') : tail = tail' := by
  cases remaining with
  | cons id rest => exact Option.some.inj h
  | nil => cases tail <;> cases h; rfl

end Request

/-- What a step has to respect for no disabled and no deleted account to keep a live device: a row
is inserted for an account only while it is not disabled or is about to be listed, and never between
the listing and the disowning of a deletion; and no statement fails between the flag of an account
that still owns a live device and the last revocation. -/
def accountsCovered (s : System) : SystemLabel → Bool
  | .advance index choice =>
      match s.tasks[index]? with
      | some (.request (.issuing _ (some owner) _ _)) =>
          choice.fault.isSome || choice.credential.isNone ||
            (!s.shared.database.isDisabled owner || s.anyRequest (Request.willList owner)) &&
              !s.anyRequest fun request => decide (request.tail = some (.delete owner))
      | some (.request (.updatingUser userId update)) =>
          decide (update.disabled ≠ some true) ||
            choice.fault.all (fun failed => decide (failed = 0 ∨
              (Database.updateUserStatements userId update).length ≤ failed)) ||
            !s.shared.database.ownsLive userId
      | some (.request request) =>
          choice.fault.isNone || request.disabling.all fun userId =>
            !s.shared.database.isDisabled userId || !s.shared.database.ownsLive userId
      | _ => true
  | _ => true

section Steps

variable {config : RelayConfig} {choice : TaskChoice} {relay relay' : Relay}
  {request request' : Request} {userId deviceId : String}

theorem RequestStep.ownsLive (h : RequestStep config choice relay request relay' request')
    (hlive : relay'.database.OwnsLive userId deviceId) :
    relay.database.OwnsLive userId deviceId ∨
      (∃ kind name enrollment, request = .issuing kind (some userId) name enrollment) ∧
        choice.fault = none ∧ choice.credential.isSome = true := by
  cases h.standingChange with
  | none hsame => exact .inl (hlive.of_standing hsame)
  | created hcredential hcreated =>
      obtain ⟨-, -, -, hstanding⟩ := Database.createDevice_eq_ok hcreated
      obtain ⟨row, hrow, howner, hrevoked⟩ := hlive
      rw [hstanding] at hrow
      split at hrow
      · obtain rfl := Option.some.inj hrow
        obtain rfl : _ = some userId := howner
        exact .inr ⟨⟨_, _, _, rfl⟩, (Fault.guard_eq_ok.mp hcreated).1, by rw [hcredential]; rfl⟩
      · exact .inl ⟨row, hrow, howner, hrevoked⟩
  | revoked _ hdone =>
      obtain ⟨-, hstanding⟩ := Database.revokeDevice_eq_ok hdone
      obtain ⟨row, hrow, howner, hrevoked⟩ := hlive
      rw [hstanding] at hrow
      split at hrow
      · obtain ⟨old, -, rfl⟩ := Option.map_eq_some_iff.mp hrow
        cases hrevoked
      · exact .inl ⟨row, hrow, howner, hrevoked⟩
  | disowned hdisowned =>
      obtain ⟨-, hstanding⟩ := Database.disownDevicesOf_eq_ok hdisowned
      obtain ⟨row, hrow, howner, hrevoked⟩ := hlive
      rw [hstanding] at hrow
      obtain ⟨old, hold, rfl⟩ := Option.map_eq_some_iff.mp hrow
      split at howner
      · cases howner
      · next hother =>
          rw [if_neg hother] at hrevoked
          exact .inl ⟨old, hold, howner, hrevoked⟩

theorem Fault.runStatements_error {α : Type} {fault : Fault} {statements : List (α → α)} {a : α}
    {e : DatabaseError} (h : (fault.runStatements statements a).2 = .error e) :
    ∃ failed, fault = some failed ∧ failed < statements.length := by
  cases fault with
  | none => cases h
  | some failed =>
      refine ⟨failed, rfl, ?_⟩
      by_contra hlt
      simp [Fault.runStatements, hlt] at h

/-- An account is disabled by an update that goes on to sign it out, or by one that fails past its
first statement. -/
theorem RequestStep.isDisabled (h : RequestStep config choice relay request relay' request')
    (hdisabled : relay'.database.isDisabled userId = true) :
    relay.database.isDisabled userId = true ∨ request'.willList userId = true ∨
      ∃ update failed, request = .updatingUser userId update ∧ update.disabled = some true ∧
        choice.fault = some failed ∧ failed ≠ 0 ∧
        failed < (Database.updateUserStatements userId update).length := by
  have hkeeps : relay.database.Keeps relay'.database →
      relay.database.isDisabled userId = true := by
    intro hkeeps
    rw [Database.isDisabled, ← hkeeps.users]
    exact hdisabled
  cases h with
  | userCreated h => exact .inl ((Database.createUser_eq_ok h).2 userId ▸ hdisabled)
  | @userUpdateFailed id update e herror =>
      rcases (Database.updateUser_standing ..).2 userId hdisabled with hold | ⟨rfl, hupdate⟩
      · exact .inl hold
      · obtain ⟨failed, hfailed, hlt⟩ := Fault.runStatements_error herror
        by_cases hzero : failed = 0
        · subst hzero
          rw [hfailed, Database.updateUser_fault_zero] at hdisabled
          exact .inl hdisabled
        · exact .inr (.inr ⟨update, failed, rfl, hupdate, hfailed, hzero, hlt⟩)
  | userUpdated =>
      rcases (Database.updateUser_standing ..).2 userId hdisabled with hold | ⟨rfl, hupdate⟩
      · exact .inl hold
      · exact .inr (.inl (by simp [hupdate, Request.willList]))
  | signedOut h => exact .inl (hkeeps (Database.keeps_deleteSessionsOfUser h))
  | rowRevoked h =>
      rw [Database.isDisabled, (Database.revokeDevice_eq_ok h).1] at hdisabled
      exact .inl hdisabled
  | disowned h =>
      rw [Database.isDisabled, (Database.disownDevicesOf_eq_ok h).1] at hdisabled
      exact .inl hdisabled
  | forgotten h => exact .inl (hkeeps (Database.keeps_deleteSessionsOfUser h))
  | userDeleted h => exact .inl ((Database.deleteUser_eq_ok h).2 userId hdisabled)
  | deviceUpdated => exact .inl (hkeeps (Database.keeps_updateDevice ..))
  | codeCreated h => exact .inl (hkeeps h)
  | codeCancelled h => exact .inl (hkeeps h)
  | issued _ h _ =>
      rw [Database.isDisabled, (Database.createDevice_eq_ok h).2.1] at hdisabled
      exact .inl hdisabled
  | burned h _ => exact .inl (hkeeps h)
  | discarded h =>
      rw [Database.isDisabled, (Database.revokeDevice_eq_ok h).1] at hdisabled
      exact .inl hdisabled
  | _ => exact .inl hdisabled

theorem Request.listsOwn_revokeNext (tail : RevokeTail) (remaining : List String) :
    (Request.revokeNext tail remaining).ListsOwn := by
  intro userId tail' h
  cases remaining with
  | cons id rest => cases h
  | nil => cases tail <;> cases h

theorem RequestStep.listsOwn (h : RequestStep config choice relay request relay' request') :
    request'.ListsOwn := by
  cases h with
  | listed _ => exact Request.listsOwn_revokeNext _ _
  | unrouted _ => exact Request.listsOwn_revokeNext _ _
  | closed => exact Request.listsOwn_revokeNext _ _
  | deletionStarted =>
      intro userId tail h
      cases h
      exact .inr rfl
  | signedOut _ =>
      intro userId tail h
      split at h <;> cases h
      exact .inl rfl
  | userUpdated =>
      intro userId tail h
      split at h <;> cases h
  | issued _ _ hrequest =>
      intro userId tail h
      rcases hrequest with rfl | ⟨_, rfl⟩ <;> cases h
  | burned _ hrequest =>
      intro userId tail h
      rcases hrequest with rfl | rfl <;> cases h
  | _ => exact fun _ _ h => nomatch h

/-- A request that is about to revoke a device of the account it disables is stopped by a failing
statement only. -/
theorem Request.Covers.disabling (h : request.Covers userId deviceId)
    (hstop : request.canStop = true) :
    request.disabling = some userId ∧ request.stopsOnlyByFault = true := by
  rcases h with hlist | ⟨htail, hmem⟩
  · cases request with
    | signingOut id update =>
        obtain ⟨rfl, hupdate⟩ := of_decide_eq_true hlist
        exact ⟨if_pos hupdate, rfl⟩
    | listing id tail =>
        cases tail with
        | disable id' =>
            obtain rfl := of_decide_eq_true hlist
            exact ⟨rfl, rfl⟩
        | reply => cases hlist
        | delete id' => cases hlist
    | _ => cases hlist
  · cases request with
    | revoking id remaining tail stage =>
        cases htail
        cases stage with
        | row => exact ⟨rfl, rfl⟩
        | _ => cases hstop
    | _ => cases htail

theorem Database.not_ownsLive_of_revokeDevice {db db' : Database} {fault : Fault} {now : Int}
    {changed : Bool} (h : db.revokeDevice fault deviceId now = .ok (db', changed)) :
    ¬db'.OwnsLive userId deviceId := by
  rintro ⟨row, hrow, -, hlive⟩
  rw [(Database.revokeDevice_eq_ok h).2, if_pos rfl] at hrow
  obtain ⟨old, -, rfl⟩ := Option.map_eq_some_iff.mp hrow
  cases hlive

theorem Database.OwnsLive.mem_ownedBy {db : Database} (h : db.OwnsLive userId deviceId) :
    deviceId ∈ db.ownedBy userId := by
  obtain ⟨row, hrow, howner, -⟩ := h
  exact Database.mem_ownedBy.mpr ⟨row, hrow, howner⟩

/-- A request that covers a device goes on covering it while the device is live. -/
theorem RequestStep.covers (h : RequestStep config choice relay request relay' request')
    (hlists : request.ListsOwn) (hcovers : request.Covers userId deviceId)
    (hlive : relay'.database.OwnsLive userId deviceId) :
    request'.Covers userId deviceId ∨
      choice.fault.isSome = true ∧ request.disabling = some userId := by
  cases h with
  | failed hstop hfault =>
      obtain ⟨hdisabling, honly⟩ := hcovers.disabling hstop
      exact .inr ⟨hfault honly, hdisabling⟩
  | signedOut _ =>
      rcases hcovers with hlist | ⟨htail, -⟩
      · obtain ⟨rfl, hupdate⟩ := of_decide_eq_true hlist
        exact .inl (.inl (by simp [hupdate, Request.willList]))
      · cases htail
  | @listed id tail hperm =>
      rcases hcovers with hlist | ⟨htail, -⟩
      · cases tail with
        | disable id' =>
            obtain rfl : id' = userId := of_decide_eq_true hlist
            rcases hlists id _ rfl with hown | hown
            · cases hown
              have hmem := hperm.mem_iff.mpr hlive.mem_ownedBy
              exact .inl (.inr ⟨Request.tail_revokeNext hmem,
                (Request.toRevoke_revokeNext _ _).symm ▸ hmem⟩)
            · cases hown
        | reply => cases hlist
        | delete id' => cases hlist
      · cases htail
  | rowRevoked hrevoked =>
      rcases hcovers with hlist | ⟨htail, hmem⟩
      · cases hlist
      · rcases List.mem_cons.mp hmem with rfl | hmem
        · exact absurd hlive (Database.not_ownsLive_of_revokeDevice hrevoked)
        · exact .inl (.inr ⟨htail, hmem⟩)
  | routed _ => exact .inl hcovers
  | framed => exact .inl hcovers
  | unrouted _ =>
      rcases hcovers with hlist | ⟨htail, hmem⟩
      · cases hlist
      · exact .inl (.inr ⟨(Request.tail_revokeNext hmem).trans htail,
          (Request.toRevoke_revokeNext _ _).symm ▸ hmem⟩)
  | closed =>
      rcases hcovers with hlist | ⟨htail, hmem⟩
      · cases hlist
      · exact .inl (.inr ⟨(Request.tail_revokeNext hmem).trans htail,
          (Request.toRevoke_revokeNext _ _).symm ▸ hmem⟩)
  | _ => rcases hcovers with hlist | ⟨htail, -⟩ <;> first | cases hlist | cases htail

theorem RequestStep.deletes (h : RequestStep config choice relay request relay' request')
    (htail : request'.tail = some (.delete userId))
    (hlive : relay'.database.OwnsLive userId deviceId) :
    (request.tail = some (.delete userId) ∧
      (deviceId ∈ request.toRevoke → deviceId ∈ request'.toRevoke)) ∨
    ∃ id, request = .listing id (.delete userId) ∧ relay' = relay ∧
      ∀ id', id' ∈ request'.toRevoke ↔ id' ∈ relay.database.ownedBy id := by
  cases h with
  | listed hperm =>
      obtain rfl := Request.tail_of_revokeNext htail
      refine .inr ⟨_, rfl, rfl, fun id' => ?_⟩
      rw [Request.toRevoke_revokeNext, hperm.mem_iff]
  | rowRevoked hrevoked =>
      refine .inl ⟨htail, fun hmem => ?_⟩
      rcases List.mem_cons.mp hmem with rfl | hmem
      · exact absurd hlive (Database.not_ownsLive_of_revokeDevice hrevoked)
      · exact hmem
  | routed _ => exact .inl ⟨htail, id⟩
  | framed => exact .inl ⟨htail, id⟩
  | unrouted _ =>
      obtain rfl := Request.tail_of_revokeNext htail
      exact .inl ⟨rfl, fun hmem => (Request.toRevoke_revokeNext _ _).symm ▸ hmem⟩
  | closed =>
      obtain rfl := Request.tail_of_revokeNext htail
      exact .inl ⟨rfl, fun hmem => (Request.toRevoke_revokeNext _ _).symm ▸ hmem⟩
  | revocationStarted => cases htail
  | userUpdated => split at htail <;> cases htail
  | signedOut _ => split at htail <;> cases htail
  | issued _ _ hrequest => rcases hrequest with rfl | ⟨_, rfl⟩ <;> cases htail
  | burned _ hrequest => rcases hrequest with rfl | rfl <;> cases htail
  | _ => cases htail

end Steps

/-- What is live of a disabled or a deleted account is still to be revoked. -/
structure AccountsInv (s : System) : Prop where
  lists : ∀ request, .request request ∈ s.tasks → request.ListsOwn
  disabled : ∀ userId deviceId, s.shared.database.isDisabled userId = true →
    s.shared.database.OwnsLive userId deviceId →
    ∃ request, .request request ∈ s.tasks ∧ request.Covers userId deviceId
  deleted : ∀ request userId deviceId, .request request ∈ s.tasks →
    request.tail = some (.delete userId) → s.shared.database.OwnsLive userId deviceId →
    deviceId ∈ request.toRevoke

section Inv

variable {config : RelayConfig} {s s' : System} {label : SystemLabel}

theorem AccountsInv.keep (hs : AccountsInv s) (hkeeps : s.shared.database.Keeps s'.shared.database)
    (htasks : ∀ request, .request request ∈ s'.tasks ↔ .request request ∈ s.tasks) :
    AccountsInv s' where
  lists request hrequest := hs.lists request ((htasks request).mp hrequest)
  disabled userId deviceId hdisabled hlive := by
    rw [Database.isDisabled, hkeeps.users] at hdisabled
    obtain ⟨request, hrequest, hcovers⟩ :=
      hs.disabled userId deviceId hdisabled (hlive.of_standing hkeeps.standing)
    exact ⟨request, (htasks request).mpr hrequest, hcovers⟩
  deleted request userId deviceId hrequest htail hlive :=
    hs.deleted request userId deviceId ((htasks request).mp hrequest) htail
      (hlive.of_standing hkeeps.standing)

theorem accountsInv_spawn {task : Task} (hs : AccountsInv s) (hstarts : task.starts = true) :
    AccountsInv ⟨s.shared, s.tasks ++ [task]⟩ where
  lists request hrequest := by
    rcases List.mem_append.mp hrequest with hold | hnew
    · exact hs.lists request hold
    · rw [← List.mem_singleton.mp hnew] at hstarts
      rintro userId tail rfl
      cases hstarts
  disabled userId deviceId hdisabled hlive := by
    obtain ⟨request, hrequest, hcovers⟩ := hs.disabled userId deviceId hdisabled hlive
    exact ⟨request, List.mem_append_left _ hrequest, hcovers⟩
  deleted request userId deviceId hrequest htail hlive := by
    rcases List.mem_append.mp hrequest with hold | hnew
    · exact hs.deleted request userId deviceId hold htail hlive
    · rw [← List.mem_singleton.mp hnew] at hstarts
      cases request <;> cases hstarts <;> cases htail

section Request

variable {index : Nat} {choice : TaskChoice} {request request' : Request} {relay : Relay}
  {userId deviceId : String}

theorem not_fault_of_disabling (hok : accountsCovered s (.advance index choice) = true)
    (htask : s.tasks[index]? = some (.request request)) (hfault : choice.fault.isSome = true)
    (hdisabling : request.disabling = some userId)
    (hdisabled : s.shared.database.isDisabled userId = true)
    (hlive : s.shared.database.ownsLive userId = true) : False := by
  have hfault : choice.fault.isNone = false := by simpa using hfault
  cases request with
  | signingOut id update =>
      simp [accountsCovered, htask, hfault, hdisabling, hdisabled, hlive] at hok
  | listing id tail =>
      simp [accountsCovered, htask, hfault, hdisabling, hdisabled, hlive] at hok
  | revoking id remaining tail stage =>
      simp [accountsCovered, htask, hfault, hdisabling, hdisabled, hlive] at hok
  | _ => cases hdisabling

/-- A row inserted for an account finds it enabled or about to be listed, and no deletion of it past
its listing. -/
theorem issuing_covered {kind : DeviceKind} {name : String} {enrollment : Option String}
    (hok : accountsCovered s (.advance index choice) = true)
    (htask : s.tasks[index]? = some (.request (.issuing kind (some userId) name enrollment)))
    (hfault : choice.fault = none) (hcredential : choice.credential.isSome = true) :
    (s.shared.database.isDisabled userId = true →
      ∃ request, .request request ∈ s.tasks ∧ request.willList userId = true) ∧
    ∀ request, .request request ∈ s.tasks → request.tail ≠ some (.delete userId) := by
  have hcredential : choice.credential.isNone = false := by simpa using hcredential
  simp only [accountsCovered, htask, hfault, hcredential, Option.isSome_none, Bool.false_or,
    Bool.and_eq_true, Bool.or_eq_true, Bool.not_eq_true', System.anyRequest_iff] at hok
  constructor
  · intro hdisabled
    rcases hok.1 with henabled | hlists
    · rw [hdisabled] at henabled
      cases henabled
    · exact hlists
  · intro request hrequest htail
    have hnone :
        s.anyRequest (fun request => decide (request.tail = some (.delete userId))) = true :=
      System.anyRequest_iff.mpr ⟨request, hrequest, decide_eq_true htail⟩
    rw [hok.2] at hnone
    cases hnone

theorem disabled_covered_request (hs : AccountsInv s)
    (hok : accountsCovered s (.advance index choice) = true)
    (htask : s.tasks[index]? = some (.request request))
    (h : RequestStep config choice s.shared request relay request')
    (hdisabled : relay.database.isDisabled userId = true)
    (hlive : relay.database.OwnsLive userId deviceId) :
    ∃ r, .request r ∈ s.tasks.set index (.request request') ∧ r.Covers userId deviceId := by
  -- A request that covers the device stays, unless it is the one that acts.
  have hstay : ∀ r, .request r ∈ s.tasks → r.Covers userId deviceId →
      (request.Covers userId deviceId → request'.Covers userId deviceId) →
      ∃ r, .request r ∈ s.tasks.set index (.request request') ∧ r.Covers userId deviceId := by
    intro r hr hcovers hmoved
    have hex : ∃ t ∈ s.tasks, ∃ r, t = .request r ∧ r.Covers userId deviceId :=
      ⟨_, hr, r, rfl, hcovers⟩
    obtain ⟨t, ht, r', rfl, hcovers'⟩ := exists_mem_set (.request request') htask hex (by
      rintro ⟨r, hr, hcovers⟩
      cases hr
      exact ⟨request', rfl, hmoved hcovers⟩)
    exact ⟨r', ht, hcovers'⟩
  rcases h.isDisabled hdisabled with
    hold | hlists | ⟨update, failed, rfl, hupdate, hfault, hne, hlt⟩
  · rcases h.ownsLive hlive with hlive' | ⟨⟨kind, name, enrollment, rfl⟩, hfault, hcredential⟩
    · obtain ⟨r, hr, hcovers⟩ := hs.disabled userId deviceId hold hlive'
      refine hstay r hr hcovers fun hcovers => ?_
      rcases h.covers (hs.lists request (List.mem_of_getElem? htask)) hcovers hlive with
        hcovers' | ⟨hfault, hdisabling⟩
      · exact hcovers'
      · exact (not_fault_of_disabling hok htask hfault hdisabling hold hlive'.ownsLive).elim
    · obtain ⟨r, hr, hlists⟩ := (issuing_covered hok htask hfault hcredential).1 hold
      refine hstay r hr (.inl hlists) fun hcovers => ?_
      rcases hcovers with hlist | ⟨htail, -⟩
      · cases hlist
      · cases htail
  · exact ⟨request', mem_set_self htask, .inl hlists⟩
  · rcases h.ownsLive hlive with hlive' | ⟨⟨_, _, _, heq⟩, -⟩
    · simp [accountsCovered, htask, hupdate, hfault, hne, Nat.not_le.mpr hlt, hlive'.ownsLive]
        at hok
    · cases heq

theorem deleted_covered_request (hs : AccountsInv s)
    (hok : accountsCovered s (.advance index choice) = true)
    (htask : s.tasks[index]? = some (.request request))
    (h : RequestStep config choice s.shared request relay request') {other : Request}
    (hother : .request other ∈ s.tasks.set index (.request request'))
    (htail : other.tail = some (.delete userId))
    (hlive : relay.database.OwnsLive userId deviceId) : deviceId ∈ other.toRevoke := by
  have hrequest := List.mem_of_getElem? htask
  rcases mem_set_cases hother with heq | ⟨i, -, hi⟩
  · cases heq
    rcases h.deletes htail hlive with ⟨htail', hmem⟩ | ⟨id, rfl, rfl, hlisted⟩
    · rcases h.ownsLive hlive with hlive' | ⟨⟨_, _, _, rfl⟩, -⟩
      · exact hmem (hs.deleted request userId deviceId hrequest htail' hlive')
      · cases htail'
    · rcases hs.lists _ hrequest id _ rfl with hown | hown <;> cases hown
      exact (hlisted deviceId).mpr hlive.mem_ownedBy
  · have hother := List.mem_of_getElem? hi
    rcases h.ownsLive hlive with hlive' | ⟨⟨_, _, _, rfl⟩, hfault, hcredential⟩
    · exact hs.deleted other userId deviceId hother htail hlive'
    · exact absurd htail ((issuing_covered hok htask hfault hcredential).2 other hother)

end Request

theorem accountsInv_step (hs : AccountsInv s) (hok : accountsCovered s label = true)
    (h : System.StepCases config s label s') : AccountsInv s' := by
  cases h with
  | spawn hstarts => exact accountsInv_spawn hs hstarts
  | channel h =>
      refine hs.keep ?_ fun _ => Iff.rfl
      rw [(Relay.channelStep_eq_some h).1]
      exact Database.Keeps.refl _
  | session htask h =>
      refine hs.keep h.keeps fun request => ⟨fun hrequest => ?_, fun hrequest => ?_⟩
      · rcases mem_set_cases hrequest with heq | ⟨i, -, hi⟩
        · cases heq
        · exact List.mem_of_getElem? hi
      · obtain ⟨t, ht, rfl⟩ := exists_mem_set (P := fun t => t = .request request) _ htask
          ⟨_, hrequest, rfl⟩ fun heq => nomatch heq
        exact ht
  | request htask h =>
      refine ⟨fun other hother => ?_, fun userId deviceId hdisabled hlive =>
        disabled_covered_request hs hok htask h hdisabled hlive,
        fun other userId deviceId hother htail hlive =>
          deleted_covered_request hs hok htask h hother htail hlive⟩
      rcases mem_set_cases hother with heq | ⟨i, -, hi⟩
      · cases heq
        exact h.listsOwn
      · exact hs.lists other (List.mem_of_getElem? hi)

theorem accountsInv_init {database : Database} (h : database.DisabledRevoked) :
    AccountsInv (System.init database) where
  lists _ h := nomatch h
  disabled userId deviceId hdisabled hlive :=
    (Database.disabledRevoked_iff.mp h userId deviceId hdisabled hlive).elim
  deleted _ _ _ h := nomatch h

end Inv

/-- In every run that respects `accountsCovered` from a database in which it is so: whenever no
request is in progress, every device of a disabled account is revoked; and the devices an account
owns when its deletion comes to disown them are revoked from then on. -/
theorem accounts_leave_no_device (config : RelayConfig) (database : Database)
    (labels : List SystemLabel) (s : System) (hdatabase : database.DisabledRevoked)
    (hrun : run (System.step config) (System.init database) labels = some s)
    (hok : Meets (System.step config) (fun s label => accountsCovered s label = true)
      (System.init database) labels) :
    ((∀ request, .request request ∈ s.tasks → request.isFinished = true) →
      s.shared.database.DisabledRevoked) ∧
    ∀ userId labels' s', .request (.disowning userId) ∈ s.tasks →
      run (System.step config) s labels' = some s' →
      ∀ deviceId device, s.shared.database.devices.find deviceId = some device →
        device.ownerUserId = some userId →
        ∃ device', s'.shared.database.devices.find deviceId = some device' ∧
          device'.isRevoked = true := by
  have hinv : AccountsInv s :=
    run_invariant (fun _ _ _ hs hok hstep => accountsInv_step hs hok (System.step_eq_some hstep))
      (accountsInv_init hdatabase) hok hrun
  constructor
  · intro hfinished
    rw [Database.disabledRevoked_iff]
    intro userId deviceId hdisabled hlive
    obtain ⟨request, hrequest, hcovers⟩ := hinv.disabled userId deviceId hdisabled hlive
    have hdone := hfinished request hrequest
    rcases hcovers with hlist | ⟨htail, -⟩
    · cases request <;> cases hdone
      cases hlist
    · cases request <;> cases hdone
      cases htail
  · intro userId labels' s' hdisowning hrun' deviceId device hfind howner
    have hrevoked : device.standing.revoked = true := by
      by_contra hlive
      exact List.not_mem_nil (hinv.deleted _ userId deviceId hdisowning rfl
        ⟨_, Database.standing_of_find hfind, howner, Bool.eq_false_iff.mpr hlive⟩)
    obtain ⟨row, hrow, hdone⟩ : ∃ row, s'.shared.database.standing deviceId = some row ∧
        row.revoked = true := by
      refine Reachable.invariant (P := fun t => ∃ row,
        t.shared.database.standing deviceId = some row ∧ row.revoked = true) ⟨labels', hrun'⟩
        ⟨_, Database.standing_of_find hfind, hrevoked⟩ ?_
      rintro t label t' ⟨row, hrow, hdone⟩ hstep
      obtain ⟨row', hrow', -, hkept⟩ := (System.step_eq_some hstep).precedes.standing _ row hrow
      exact ⟨row', hrow', hkept hdone⟩
    obtain ⟨device', hfind', rfl⟩ := Database.find_of_standing hrow
    exact ⟨device', hfind', hdone⟩

/-! ## Concrete runs of one account -/

def createAlice : List SystemLabel :=
  [.spawn (.request (.createUser "alice" "correct horse" .user)),
    .advance 0 { identifier := some "alice-id" }]

def disableAlice (index : Nat) (owned : List String) : List SystemLabel :=
  [.spawn (.request (.updateUser "alice-id" ⟨some true, none, none⟩)), .advance index {},
    .advance index {}, .advance index {}, .advance index { order := owned }] ++
    owned.flatMap fun _ => [.advance index {}, .advance index {}]

def deleteAlice (index : Nat) (owned : List String) : List SystemLabel :=
  [.spawn (.request (.deleteUser "admin" "alice-id")), .advance index {},
    .advance index { order := owned }] ++
    owned.flatMap fun _ => [.advance index {}, .advance index {}]

def issueCode (index : Nat) : List SystemLabel :=
  [.spawn (.request (.createEnrollment "admin" ⟨.desktop, some "alice-id", none, none⟩)),
    .advance index {},
    .advance index { identifier := some "code-a", code := .ok "ABCD-EFGH-JKLM" }]

def redeemCode (index : Nat) : List SystemLabel :=
  [.spawn (.request (.enrollWithCode "ABCD-EFGH-JKLM" "desk")), .advance index {},
    .advance index { credential := some ⟨"device-a", "secret"⟩ }, .advance index {}]

def aliceOwnsLive (db : Database) : Bool :=
  (db.devices.find "device-a").any fun device =>
    decide (device.ownerUserId = some "alice-id") && !device.isRevoked

def aliceDisowning (s : System) : Bool :=
  s.anyRequest (fun request => decide (request = .disowning "alice-id")) &&
    (s.shared.database.devices.find "device-a").any fun device =>
      decide (device.ownerUserId = some "alice-id")

theorem disowning_of_aliceDisowning {s : System} (h : aliceDisowning s = true) :
    .request (.disowning "alice-id") ∈ s.tasks ∧ ∃ device,
      s.shared.database.devices.find "device-a" = some device ∧
      device.ownerUserId = some "alice-id" := by
  simp only [aliceDisowning, Bool.and_eq_true, System.anyRequest_iff, Option.any_eq_true,
    decide_eq_true_eq] at h
  obtain ⟨⟨request, hrequest, rfl⟩, hdevice⟩ := h
  exact ⟨hrequest, hdevice⟩

theorem Database.disabledRevoked_empty : Database.empty.DisabledRevoked := by
  intro userId deviceId device hdisabled
  cases hdisabled

/-- Disabling the account revokes its device, and so does deleting it. -/
theorem accounts_leave_no_device_alice :
    (∃ s, run (System.step System.plainConfig) (System.init .empty)
        (createAlice ++ issueCode 1 ++ redeemCode 2 ++ disableAlice 3 ["device-a"]) = some s ∧
      s.shared.database.DisabledRevoked) ∧
    ∃ s s', run (System.step System.plainConfig) (System.init .empty)
        (createAlice ++ issueCode 1 ++ redeemCode 2 ++ deleteAlice 3 ["device-a"]) = some s ∧
      run (System.step System.plainConfig) s [.advance 3 {}, .advance 3 {}, .advance 3 {}] =
        some s' ∧
      ∃ device, s'.shared.database.devices.find "device-a" = some device ∧
        device.isRevoked = true := by
  constructor
  · obtain ⟨s, hrun, hfinished⟩ := exists_run (System.step System.plainConfig) (System.init .empty)
      (createAlice ++ issueCode 1 ++ redeemCode 2 ++ disableAlice 3 ["device-a"])
      (fun s => s.anyRequest (fun request => !request.isFinished) = false) (by decide)
    refine ⟨s, hrun, (accounts_leave_no_device System.plainConfig .empty _ s
      Database.disabledRevoked_empty hrun (by decide)).1 fun request hrequest => ?_⟩
    by_contra hprogress
    rw [System.anyRequest_iff.mpr ⟨request, hrequest, by simp [hprogress]⟩] at hfinished
    cases hfinished
  · obtain ⟨s, hrun, hdisowning, hnext⟩ := exists_run (System.step System.plainConfig)
      (System.init .empty)
      (createAlice ++ issueCode 1 ++ redeemCode 2 ++ deleteAlice 3 ["device-a"])
      (fun s => aliceDisowning s = true ∧
        (run (System.step System.plainConfig) s
          [.advance 3 {}, .advance 3 {}, .advance 3 {}]).isSome = true) (by decide)
    obtain ⟨s', hrun'⟩ := Option.isSome_iff_exists.mp hnext
    obtain ⟨hrequest, device, hfind, howner⟩ := disowning_of_aliceDisowning hdisowning
    exact ⟨s, s', hrun, hrun', (accounts_leave_no_device System.plainConfig .empty _ s
      Database.disabledRevoked_empty hrun (by decide)).2 "alice-id" _ s' hrequest hrun'
      "device-a" device hfind howner⟩

/-- A code issued before the account is disabled gives it a live device afterwards, and one redeemed
past the listing of a deletion leaves its device live. -/
theorem accounts_leave_device :
    (¬ ∀ (config : RelayConfig) (labels : List SystemLabel) (s : System),
      run (System.step config) (System.init .empty) labels = some s →
      (∀ request, .request request ∈ s.tasks → request.isFinished = true) →
      s.shared.database.DisabledRevoked) ∧
    ¬ ∀ (config : RelayConfig) (labels : List SystemLabel) (s : System),
      run (System.step config) (System.init .empty) labels = some s →
      ∀ userId labels' s', .request (.disowning userId) ∈ s.tasks →
        run (System.step config) s labels' = some s' →
        ∀ deviceId device, s.shared.database.devices.find deviceId = some device →
          device.ownerUserId = some userId →
          ∃ device', s'.shared.database.devices.find deviceId = some device' ∧
            device'.isRevoked = true := by
  constructor
  · intro h
    obtain ⟨s, hrun, hfinished, hdisabled, hlive⟩ := exists_run (System.step System.plainConfig)
      (System.init .empty) (createAlice ++ issueCode 1 ++ disableAlice 2 [] ++ redeemCode 3)
      (fun s => s.anyRequest (fun request => !request.isFinished) = false ∧
        s.shared.database.isDisabled "alice-id" = true ∧ aliceOwnsLive s.shared.database = true)
      (by decide)
    obtain ⟨device, hfind, hdevice⟩ := (Option.any_eq_true _ _).mp hlive
    simp only [Bool.and_eq_true, decide_eq_true_eq, Bool.not_eq_true'] at hdevice
    have hrevoked := h System.plainConfig _ s hrun (fun request hrequest => by
      by_contra hprogress
      rw [System.anyRequest_iff.mpr ⟨request, hrequest, by simp [hprogress]⟩] at hfinished
      cases hfinished) "alice-id" "device-a" device hdisabled hfind hdevice.1
    rw [hdevice.2] at hrevoked
    cases hrevoked
  · intro h
    obtain ⟨s, hrun, hdisowning, hnext⟩ := exists_run (System.step System.plainConfig)
      (System.init .empty) (createAlice ++ issueCode 1 ++ deleteAlice 2 [] ++ redeemCode 3)
      (fun s => aliceDisowning s = true ∧
        (run (System.step System.plainConfig) s [.advance 2 {}, .advance 2 {}, .advance 2 {}]).any
          (fun s' => decide ((s'.shared.database.users.find "alice-id").isNone = true ∧
            (s'.shared.database.devices.find "device-a").any (fun device => !device.isRevoked) =
              true)) = true) (by decide)
    obtain ⟨s', hrun', hdone⟩ := (Option.any_eq_true _ _).mp hnext
    obtain ⟨-, hlive⟩ := of_decide_eq_true hdone
    obtain ⟨hrequest, device, hfind, howner⟩ := disowning_of_aliceDisowning hdisowning
    obtain ⟨device', hfind', hrevoked⟩ := h System.plainConfig _ s hrun "alice-id" _ s' hrequest
      hrun' "device-a" device hfind howner
    rw [hfind', Option.any_some, hrevoked] at hlive
    cases hlive

end TermexoRelay
