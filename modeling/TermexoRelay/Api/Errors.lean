import TermexoRelay.Relay.State

/-!
# Request errors and field checks

The one error shape every endpoint answers with, and the checks a request's fields go through before
any row is touched.
-/

namespace TermexoRelay

inductive StatusCode where
  | badRequest
  | unauthorized
  | forbidden
  | notFound
  | conflict
  | internalServerError
deriving DecidableEq, Repr

structure ApiError where
  status : StatusCode
  message : String
deriving DecidableEq, Repr

namespace ApiError

def INTERNAL_MESSAGE : String := "中继内部错误，请查看服务日志。"
def USERNAME_TAKEN_MESSAGE : String := "用户名已被占用。"

def badRequest (message : String) : ApiError := ⟨.badRequest, message⟩
def unauthorized (message : String) : ApiError := ⟨.unauthorized, message⟩
def forbidden (message : String) : ApiError := ⟨.forbidden, message⟩
def notFound (message : String) : ApiError := ⟨.notFound, message⟩
def conflict (message : String) : ApiError := ⟨.conflict, message⟩

/-- The real cause is logged; the caller gets a generic sentence. -/
def internal : ApiError := ⟨.internalServerError, INTERNAL_MESSAGE⟩

def ofDatabase : DatabaseError → ApiError
  | .usernameTaken => conflict USERNAME_TAKEN_MESSAGE
  | .sqlite => internal
  | .random => internal

end ApiError

def requireText (value field : String) (maxLength : Nat) : Except ApiError String :=
  let trimmed := Text.trimString value
  if trimmed = "" then .error (.badRequest (field ++ "不能为空。"))
  else if maxLength < trimmed.length then
    .error (.badRequest (field ++ "不能超过 " ++ toString maxLength ++ " 个字符。"))
  else .ok trimmed

def MAX_USERNAME_LENGTH : Nat := 64
def MAX_DEVICE_NAME_LENGTH : Nat := 64
def MAX_NOTE_LENGTH : Nat := 200
def MIN_PASSWORD_LENGTH : Nat := 12

def validatedUsername (username : String) : Except ApiError String :=
  match requireText username "用户名" MAX_USERNAME_LENGTH with
  | .error e => .error e
  | .ok username =>
      if username.toList.any Text.isWhitespace then .error (.badRequest "用户名不能包含空格。")
      else .ok username

def validatedPassword (password : String) : Except ApiError String :=
  if password.length < MIN_PASSWORD_LENGTH then
    .error (.badRequest ("密码至少需要 " ++ toString MIN_PASSWORD_LENGTH ++ " 个字符。"))
  else .ok password

def newPasswordHash (config : RelayConfig) (password : String) : Except ApiError String :=
  match validatedPassword password with
  | .error e => .error e
  | .ok password => (config.hashPassword password).mapError .badRequest

def boundedNote (note : String) : Except ApiError String :=
  let trimmed := Text.trimString note
  if MAX_NOTE_LENGTH < trimmed.length then
    .error (.badRequest ("备注不能超过 " ++ toString MAX_NOTE_LENGTH ++ " 个字符。"))
  else .ok trimmed

def boundedEnrollmentNote (note : Option String) : Except ApiError (Option String) :=
  match (note.map Text.trimString).filter fun note => note ≠ "" with
  | none => .ok none
  | some note =>
      if MAX_NOTE_LENGTH < note.length then .error (.badRequest "备注不能超过 200 个字符。")
      else .ok (some note)

def UNKNOWN_ACCESS_MESSAGE : String := "设备访问策略只能是 public 或 relay-login。"

def DeviceAccess.fromStr (value : String) : Except String DeviceAccess :=
  match Text.trimString value with
  | "public" => .ok .publicAccess
  | "relay-login" => .ok .relayLogin
  | _ => .error UNKNOWN_ACCESS_MESSAGE

def requestedAccess (value : String) : Except ApiError DeviceAccess :=
  (DeviceAccess.fromStr value).mapError .badRequest

def GROUP_LENGTH : Nat := 4
def GROUP_COUNT : Nat := 3

/-- The canonical spelling of a typed code: upper case, in groups joined by a dash. -/
def normalizeCode (code : String) : Option String :=
  let characters := (code.toList.filter Char.isAlphanum).map Char.toUpper
  if characters.length = GROUP_LENGTH * GROUP_COUNT then
    some (String.ofList (['-'].intercalate
      [characters.take 4, (characters.drop 4).take 4, characters.drop 8]))
  else none

def DEFAULT_TTL_MINUTES : Nat := 15
def MAX_TTL_MINUTES : Nat := 24 * 60

def clampTtlMinutes (requested : Option Nat) : Nat :=
  min (max (requested.getD DEFAULT_TTL_MINUTES) 1) MAX_TTL_MINUTES

end TermexoRelay
