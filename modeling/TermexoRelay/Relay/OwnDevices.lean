import TermexoRelay.Proxy.Forwarded
import TermexoRelay.Relay.System

/-!
# What an owner learns of other people's devices

The two endpoints for owners look the device up by its id and compare the owner afterwards. What
comes before the lookup does not depend on the device, and everything after it is for the owner
only, so what remains are the two answers of the lookup.
-/

namespace TermexoRelay

open Transition

def MALFORMED_JSON : String := "请求内容不是合法的 JSON。"
def INCOMPLETE_JSON : String := "请求内容缺少必要字段，或字段类型不正确。"
def MISSING_JSON_TYPE : String := "请求缺少 Content-Type: application/json。"
def UNREADABLE_BODY : String := "无法读取请求内容。"
def CSRF_REQUIRED : String := "缺少控制台请求标识，已拒绝。"

def CSRF_HEADER : HeaderName := ⟨utf8 "x-requested-with", by decide +kernel⟩
def CSRF_HEADER_VALUE : String := "termexo-console"

/-- Whether a modifying request carries the console's marker, in upper or lower case. -/
def hasCsrfMarker (header : Option Bytes) : Bool :=
  header.any fun value => value.map toLower = (utf8 CSRF_HEADER_VALUE).map toLower

/-- Why a body is not the JSON that was asked for. -/
inductive JsonRejection where
  | dataError
  | syntaxError
  | missingContentType
  | other
deriving DecidableEq, Repr

def describeJsonRejection : JsonRejection → String
  | .dataError => INCOMPLETE_JSON
  | .syntaxError => MALFORMED_JSON
  | .missingContentType => MISSING_JSON_TYPE
  | .other => UNREADABLE_BODY

/-- `PATCH /api/devices/{id}` and `POST /api/devices/{id}/revoke`. -/
inductive OwnDeviceRoute where
  | update
  | revoke
deriving DecidableEq, Repr

/-- A call of one of the two routes by a session user: what the extractors read of it. -/
structure OwnDeviceCall where
  route : OwnDeviceRoute
  headers : HeaderMap
  /-- The server knows the address of the peer. -/
  connected : Bool
  id : String
  body : Except JsonRejection DeviceUpdateRequest

namespace OwnDeviceCall

/-- The middleware and the extractors in their order, up to the handler. -/
def handler (call : OwnDeviceCall) (userId : String) : Except ApiError Request :=
  if !hasCsrfMarker (headerValue call.headers CSRF_HEADER) then
    .error (.forbidden CSRF_REQUIRED)
  else if !call.connected then .error .internal
  else match call.route with
    | .revoke => .ok (.revokeDevice (some userId) call.id)
    | .update => match call.body with
        | .error rejection => .error (.badRequest (describeJsonRejection rejection))
        | .ok request => .ok (.updateDevice (some userId) call.id request)

/-- What the caller is answered; `none` while the handler has not finished. -/
def answer (config : RelayConfig) (userId : String) (relay : Relay) (choices : List TaskChoice)
    (call : OwnDeviceCall) : Option (Except ApiError Reply) :=
  match call.handler userId with
  | .error e => some (.error e)
  | .ok request =>
      match run (fun state choice => Request.step config state.1 choice state.2)
          (relay, request) choices with
      | some (_, .finished outcome) => some outcome
      | _ => none

/-- The call is refused before the device is looked up. -/
def Refused (call : OwnDeviceCall) : Prop :=
  hasCsrfMarker (headerValue call.headers CSRF_HEADER) = false ∨ call.connected = false ∨
    call.route = .update ∧ ∃ rejection, call.body = .error rejection

section Answers

variable {config : RelayConfig} {userId : String} {relay : Relay} {call : OwnDeviceCall}

theorem handler_of_refused (h : call.Refused) (userId : String) :
    ∃ e, call.handler userId = .error e := by
  unfold handler
  by_cases hmarker : hasCsrfMarker (headerValue call.headers CSRF_HEADER) = true
  · by_cases hconnected : call.connected = true
    · obtain ⟨hroute, rejection, hbody⟩ : call.route = .update ∧
          ∃ rejection, call.body = .error rejection := by
        simpa [Refused, hmarker, hconnected] using h
      simp only [hmarker, hconnected, hroute, hbody]
      exact ⟨_, rfl⟩
    · simp only [hmarker, hconnected]
      exact ⟨_, rfl⟩
  · simp only [hmarker]
    exact ⟨_, rfl⟩

theorem handler_of_not_refused (h : ¬ call.Refused) (userId : String) :
    call.handler userId = .ok (.revokeDevice (some userId) call.id) ∨
      ∃ request, call.handler userId = .ok (.updateDevice (some userId) call.id request) := by
  simp only [Refused, not_or, Bool.not_eq_false, not_and, not_exists] at h
  obtain ⟨hmarker, hconnected, hbody⟩ := h
  simp only [handler, hmarker, hconnected]
  cases hroute : call.route with
  | revoke => exact .inl rfl
  | update =>
      cases hrequest : call.body with
      | error rejection => exact absurd hrequest (hbody hroute rejection)
      | ok request => exact .inr ⟨request, rfl⟩

theorem answer_of_not_found {choice : TaskChoice} {e : ApiError} (h : ¬ call.Refused)
    (hfind : Request.findOwnDevice relay.database choice.fault (some userId) call.id =
      .error e) :
    call.answer config userId relay [choice] = some (.error e) := by
  rcases handler_of_not_refused h userId with hhandler | ⟨request, hhandler⟩
  · simp only [answer, hhandler, run, Request.step, hfind]
    rfl
  · simp only [answer, hhandler, run, Request.step, hfind]
    rfl

end Answers

end OwnDeviceCall

/-- A device of somebody else and one that does not exist are told apart, unless the call is refused
before the lookup or the lookup fails. -/
theorem ownDevice_answers_agree_iff (config : RelayConfig) (userId : String)
    (call : OwnDeviceCall) (present absent : Relay) {device : DeviceRecord}
    (hpresent : present.database.devices.find call.id = some device)
    (hforeign : device.ownerUserId ≠ some userId)
    (habsent : absent.database.devices.find call.id = none) (choice : TaskChoice) :
    ∃ answer answer', call.answer config userId present [choice] = some answer ∧
      call.answer config userId absent [choice] = some answer' ∧
      (answer = answer' ↔ call.Refused ∨ choice.fault.isSome = true) := by
  by_cases hrefused : call.Refused
  · obtain ⟨e, hhandler⟩ := OwnDeviceCall.handler_of_refused hrefused userId
    refine ⟨.error e, .error e, ?_, ?_, iff_of_true rfl (.inl hrefused)⟩
    · rw [OwnDeviceCall.answer, hhandler]
    · rw [OwnDeviceCall.answer, hhandler]
  · by_cases hfault : choice.fault.isSome = true
    · have hlookup : ∀ db : Database, Request.findOwnDevice db choice.fault (some userId) call.id =
          .error .internal := by
        intro db
        simp only [Request.findOwnDevice, Database.findDevice, Fault.guard, hfault, if_true]
        rfl
      exact ⟨_, _, OwnDeviceCall.answer_of_not_found hrefused (hlookup _),
        OwnDeviceCall.answer_of_not_found hrefused (hlookup _), iff_of_true rfl (.inr hfault)⟩
    · have hother : Request.findOwnDevice present.database choice.fault (some userId) call.id =
          .error (.forbidden NOT_YOUR_DEVICE) := by
        simp only [Request.findOwnDevice, Database.findDevice, Fault.guard, hfault, hpresent,
          Bool.false_eq_true, if_false, Option.all_some, hforeign, decide_false]
      have hnone : Request.findOwnDevice absent.database choice.fault (some userId) call.id =
          .error (.notFound UNKNOWN_DEVICE) := by
        simp only [Request.findOwnDevice, Database.findDevice, Fault.guard, hfault, habsent,
          Bool.false_eq_true, if_false]
      refine ⟨_, _, OwnDeviceCall.answer_of_not_found hrefused hother,
        OwnDeviceCall.answer_of_not_found hrefused hnone, iff_of_false ?_ ?_⟩
      · intro hsame
        cases hsame
      · rintro (h | h)
        · exact hrefused h
        · exact hfault h

def foreignDevice : Relay where
  database := { Database.empty with
    devices := (Rows.empty.insert ⟨"device-a", .desktop, "desk", some "user-2", "hash", none, 0,
      none, none, none, none, .publicAccess⟩).getD .empty }
  registry := .new
  channels := []

def renameCall : OwnDeviceCall where
  route := .update
  headers := HeaderMap.empty.insert CSRF_HEADER
    ⟨utf8 CSRF_HEADER_VALUE, by decide +kernel⟩
  connected := true
  id := "device-a"
  body := .ok ⟨some "office", none, none⟩

theorem ownDevice_answers_agree_iff_failing :
    ∃ answer, renameCall.answer System.plainConfig "user-1" foreignDevice [{ fault := some 0 }] =
        some answer ∧
      renameCall.answer System.plainConfig "user-1" .new [{ fault := some 0 }] = some answer := by
  obtain ⟨answer, answer', hpresent, habsent, hagree⟩ :=
    ownDevice_answers_agree_iff System.plainConfig "user-1" renameCall foreignDevice .new rfl
      (by decide) rfl { fault := some 0 }
  obtain rfl := hagree.mpr (.inr rfl)
  exact ⟨answer, hpresent, habsent⟩

/-- Renaming somebody else's device is forbidden, and renaming none is answered as not found. -/
theorem ownDevice_answers_differ :
    ¬ ∀ (config : RelayConfig) (userId : String) (call : OwnDeviceCall) (present absent : Relay)
      (device : DeviceRecord), present.database.devices.find call.id = some device →
      device.ownerUserId ≠ some userId → absent.database.devices.find call.id = none →
      ∀ choices, call.answer config userId present choices =
        call.answer config userId absent choices := by
  intro hagree
  have hsame := hagree System.plainConfig "user-1" renameCall foreignDevice .new _ rfl
    (by decide) rfl [{}]
  have hlooked : ¬ renameCall.Refused := by
    rintro (hmarker | hconnected | ⟨-, rejection, hbody⟩)
    · exact absurd hmarker (by decide)
    · cases hconnected
    · cases hbody
  have hforbidden : renameCall.answer System.plainConfig "user-1" foreignDevice [{}] =
      some (.error (.forbidden NOT_YOUR_DEVICE)) :=
    OwnDeviceCall.answer_of_not_found hlooked rfl
  have hmissing : renameCall.answer System.plainConfig "user-1" .new [{}] =
      some (.error (.notFound UNKNOWN_DEVICE)) :=
    OwnDeviceCall.answer_of_not_found hlooked rfl
  rw [hforbidden, hmissing] at hsame
  cases hsame

end TermexoRelay
