import TermexoRelay.Auth.Lockout
import TermexoRelay.Relay.Passwords
import TermexoRelay.Tunnel.Session

/-!
# Presenting a credential

Signing in, enrolling and opening a tunnel read the lockout table, compare what was presented, and
then record the failure or clear the table; a change of one's own password only compares. Between
two of these actions any other task may act. What follows an accepted credential is left to the
modules that are about it.
-/

namespace TermexoRelay

open Tally

/-- The same sentence whether the credential was malformed, unknown or revoked. -/
def INVALID_CREDENTIAL_MESSAGE : String := "设备凭据无效或已被撤销。"

inductive EnrollRequest where
  | code (code name : String)
  | password (username password name : String)
deriving DecidableEq, Repr

def EnrollRequest.request : EnrollRequest → Request
  | .code typed name => .enrollWithCode typed name
  | .password username typed name => .enrollWithPassword username typed name

/-- What a caller presents, and where. -/
inductive Presented where
  | login (username password : String)
  | enroll (request : EnrollRequest)
  | tunnel (credential : Option DeviceCredential)
  /-- `change_password`, by the account its session resolved to. -/
  | changePassword (user : UserRecord) (request : PasswordChangeRequest)
deriving DecidableEq

/-- Whether the endpoint uses the lockout table. -/
def Presented.throttled : Presented → Bool
  | changePassword _ _ => false
  | _ => true

def Presented.current (config : RelayConfig) : Presented → Bool
  | changePassword user request =>
      config.verifyPassword request.currentPassword user.passwordHash
  | _ => true

inductive Accepted where
  | signedIn (user : UserRecord)
  | enrolled (reply : Reply)
  | authenticated (credential : Option DeviceCredential) (device : DeviceRecord)
  | confirmed (user : UserRecord)
deriving DecidableEq

/-- A request with a credential between two of its actions. -/
inductive CredentialCheck where
  /-- `is_locked` is next, where the endpoint asks for it. -/
  | arriving (source : String) (presented : Presented)
  | comparing (source : String) (presented : Presented)
  | enrolling (source : String) (request : Request)
  | recording (source : String) (error : ApiError)
  | clearing (source : String) (accepted : Accepted)
  | answered (outcome : Except ApiError Accepted)
deriving DecidableEq

/-- A comparison as it was made. -/
structure Comparison where
  source : String
  time : Nat
  accepted : Bool
deriving DecidableEq, Repr

def Comparison.note (comparison : Comparison) : Note String :=
  if comparison.accepted then .wipe comparison.source
  else .mark comparison.source comparison.time

/-- The state the endpoints share. `comparisons`, newest first, decides nothing. -/
structure Doors where
  relay : Relay
  calls : ThrottleCalls
  comparisons : List Comparison
  now : Nat
deriving DecidableEq

namespace Doors

def compared (doors : Doors) (source : String) (accepted : Bool) : Doors :=
  { doors with comparisons := ⟨source, doors.now, accepted⟩ :: doors.comparisons }

def recordFailure (doors : Doors) (source : String) : Doors :=
  { doors with calls := .mark source doors.now :: doors.calls }

def clear (doors : Doors) (source : String) : Doors :=
  { doors with calls := .wipe source :: doors.calls }

end Doors

inductive Verdict where
  /-- Nothing was compared: a field was malformed or a query failed. -/
  | unread (error : ApiError)
  | refused (error : ApiError)
  | accepted (next : CredentialCheck)
deriving DecidableEq

/-- Only a refused credential counts; anything else is not an attempt to guess. -/
def ApiError.verdict (error : ApiError) : Verdict :=
  if error.status = .unauthorized then .refused error else .unread error

namespace CredentialCheck

/-- What follows the refusal or the end of an enrollment. -/
def ofOutcome (source : String) : Except ApiError Reply → CredentialCheck
  | .ok reply => .clearing source (.enrolled reply)
  | .error error =>
      if error.status = .unauthorized then .recording source error else .answered (.error error)

def compare (config : RelayConfig) (relay : Relay) (choice : TaskChoice) (source : String) :
    Presented → Option (Relay × Verdict)
  | .login username password =>
      match Request.passwordOwner config relay.database choice.fault username password with
      | .error error => some (relay, error.verdict)
      | .ok user => some (relay, .accepted (.clearing source (.signedIn user)))
  | .enroll request =>
      match request.request.step config relay choice with
      | none => none
      | some (relay, .finished (.error error)) => some (relay, error.verdict)
      | some (relay, request) => some (relay, .accepted (.enrolling source request))
  | .tunnel credential =>
      match authenticate config relay.database choice.fault credential with
      | .error _ => some (relay, .refused (.unauthorized INVALID_CREDENTIAL_MESSAGE))
      | .ok device =>
          some (relay, .accepted (.clearing source (.authenticated credential device)))
  | .changePassword user request =>
      if config.verifyPassword request.currentPassword user.passwordHash then
        some (relay, .accepted (.answered (.ok (.confirmed user))))
      else some (relay, .refused (.unauthorized WRONG_CURRENT_PASSWORD))

def step (config : RelayConfig) (throttle : FailureThrottle) (doors : Doors) (choice : TaskChoice) :
    CredentialCheck → Option (Doors × CredentialCheck)
  | .arriving source presented =>
      if presented.throttled && throttle.isLocked doors.calls source doors.now then
        some (doors, .answered (.error (.unauthorized LOCKED_OUT_MESSAGE)))
      else some (doors, .comparing source presented)
  | .comparing source presented =>
      match compare config doors.relay choice source presented with
      | none => none
      | some (relay, .unread error) => some ({ doors with relay }, .answered (.error error))
      | some (relay, .refused error) =>
          some (({ doors with relay } : Doors).compared source false,
            if presented.throttled then .recording source error else .answered (.error error))
      | some (relay, .accepted next) =>
          some (({ doors with relay } : Doors).compared source true, next)
  | .enrolling source request =>
      match request.step config doors.relay choice with
      | none => none
      | some (relay, .finished outcome) => some ({ doors with relay }, ofOutcome source outcome)
      | some (relay, request) => some ({ doors with relay }, .enrolling source request)
  | .recording source error => some (doors.recordFailure source, .answered (.error error))
  | .clearing source accepted => some (doors.clear source, .answered (.ok accepted))
  | .answered _ => none

def starts : CredentialCheck → Bool
  | .arriving _ _ => true
  | _ => false

def waits (source : String) : CredentialCheck → Bool
  | .comparing source' presented => presented.throttled && decide (source' = source)
  | _ => false

def records (source : String) : CredentialCheck → Bool
  | .recording source' _ => decide (source' = source)
  | _ => false

end CredentialCheck

/-- The actions of a request with a credential, one rule for each, as far as the table and the
comparisons go. -/
inductive CredentialStep (config : RelayConfig) (throttle : FailureThrottle) (doors : Doors) :
    CredentialCheck → Doors → CredentialCheck → Prop
  | lockedOut {source : String} {presented : Presented} {outcome : Except ApiError Accepted} :
      CredentialStep config throttle doors (.arriving source presented) doors (.answered outcome)
  | letIn {source : String} {presented : Presented}
      (h : presented.throttled = true →
        throttle.isLocked doors.calls source doors.now = false) :
      CredentialStep config throttle doors (.arriving source presented) doors
        (.comparing source presented)
  | unread {source : String} {presented : Presented} {relay : Relay}
      {outcome : Except ApiError Accepted} :
      CredentialStep config throttle doors (.comparing source presented) { doors with relay }
        (.answered outcome)
  | refused {source : String} {presented : Presented} {relay : Relay} {error : ApiError}
      (h : presented.throttled = true ∨ presented.current config = false) :
      CredentialStep config throttle doors (.comparing source presented)
        (({ doors with relay } : Doors).compared source false)
        (if presented.throttled then .recording source error else .answered (.error error))
  | accepted {source : String} {presented : Presented} {relay : Relay} {next : CredentialCheck}
      (hwaits : ∀ other, next.waits other = false)
      (hrecords : ∀ other, next.records other = false) :
      CredentialStep config throttle doors (.comparing source presented)
        (({ doors with relay } : Doors).compared source true) next
  | enrolled {source : String} {request : Request} {relay : Relay} {next : CredentialCheck}
      (hwaits : ∀ other, next.waits other = false) :
      CredentialStep config throttle doors (.enrolling source request) { doors with relay } next
  | recorded {source : String} {error : ApiError} :
      CredentialStep config throttle doors (.recording source error) (doors.recordFailure source)
        (.answered (.error error))
  | cleared {source : String} {accepted : Accepted} :
      CredentialStep config throttle doors (.clearing source accepted) (doors.clear source)
        (.answered (.ok accepted))

namespace CredentialCheck

variable {config : RelayConfig} {throttle : FailureThrottle} {doors doors' : Doors}
  {choice : TaskChoice} {check check' : CredentialCheck}

theorem compare_accepted {relay relay' : Relay} {source : String} {presented : Presented}
    (h : compare config relay choice source presented = some (relay', .accepted check)) :
    ∀ other, check.waits other = false ∧ check.records other = false := by
  have hverdict : ∀ error : ApiError, error.verdict ≠ .accepted check := by
    intro error
    unfold ApiError.verdict
    split <;> exact Verdict.noConfusion
  intro other
  cases presented with
  | login username password =>
      simp only [compare] at h
      split at h
      · exact absurd (Prod.mk.inj (Option.some.inj h)).2 (hverdict _)
      · cases h
        exact ⟨rfl, rfl⟩
  | enroll request =>
      simp only [compare] at h
      split at h
      · cases h
      · exact absurd (Prod.mk.inj (Option.some.inj h)).2 (hverdict _)
      · cases h
        exact ⟨rfl, rfl⟩
  | tunnel credential =>
      simp only [compare] at h
      split at h
      · cases h
      · cases h
        exact ⟨rfl, rfl⟩
  | changePassword user request =>
      simp only [compare] at h
      split at h
      · cases h
        exact ⟨rfl, rfl⟩
      · cases h

theorem compare_refused {relay relay' : Relay} {source : String} {presented : Presented}
    {error : ApiError}
    (h : compare config relay choice source presented = some (relay', .refused error)) :
    presented.throttled = true ∨ presented.current config = false := by
  cases presented with
  | changePassword user request =>
      right
      simp only [compare] at h
      split at h
      · cases h
      · next hcurrent => exact Bool.eq_false_iff.mpr hcurrent
  | _ => exact .inl rfl

theorem step_eq_some (h : check.step config throttle doors choice = some (doors', check')) :
    CredentialStep config throttle doors check doors' check' := by
  cases check with
  | arriving source presented =>
      simp only [step] at h
      split at h
      · cases h
        exact .lockedOut
      · next hunlocked =>
          cases h
          refine .letIn fun hthrottled => ?_
          simpa [hthrottled] using hunlocked
  | comparing source presented =>
      simp only [step] at h
      split at h
      · cases h
      · cases h
        exact .unread
      · next hcompare =>
          cases h
          exact .refused (compare_refused hcompare)
      · next hcompare =>
          cases h
          have hnext := compare_accepted hcompare
          exact .accepted (fun other => (hnext other).1) fun other => (hnext other).2
  | enrolling source request =>
      simp only [step] at h
      split at h
      · cases h
      · next outcome _ =>
          cases h
          refine .enrolled fun other => ?_
          cases outcome with
          | ok reply => rfl
          | error error =>
              simp only [ofOutcome]
              split <;> rfl
      · cases h
        exact .enrolled fun _ => rfl
  | recording source error =>
      cases h
      exact .recorded
  | clearing source accepted =>
      cases h
      exact .cleared
  | answered outcome => cases h

end CredentialCheck

end TermexoRelay
