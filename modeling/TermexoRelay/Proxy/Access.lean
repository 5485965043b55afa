import TermexoRelay.Auth.Session
import TermexoRelay.Library.Encoding
import TermexoRelay.Proxy.Headers
import TermexoRelay.Relay.Addressing
import TermexoRelay.Relay.State

/-!
# The second gate in front of a device

A device marked `relay-login` is only forwarded to for a browser whose console session belongs to
the device's owner or to an administrator. The session cookies of a request are resolved one after
the other until one resolves, and each of them takes several queries.
-/

namespace TermexoRelay

/-- Where a browser without a session is sent. -/
def LOGIN_PATH : String := "/console/login"

/-- The parameter that carries it back afterwards. -/
def NEXT_PARAMETER : String := "next"

def FORBIDDEN_TITLE : String := "无权访问该设备"

def FORBIDDEN_BODY : String :=
  "<p>这台设备只允许它的所有者或中继管理员访问。</p>" ++
    "<p>如果你认为这是配置问题，请联系中继管理员。</p>"

/-- The base a device is told about when the whole host belongs to it. -/
def SUBDOMAIN_BASE_PATH : String := "/"

inductive DeviceEntry where
  | path
  | subdomain
deriving DecidableEq, Repr

/-- One browser request resolved to the device it is for. -/
structure DeviceTarget where
  deviceId : String
  rest : String
  entry : DeviceEntry
deriving DecidableEq, Repr

def DeviceTarget.basePath (target : DeviceTarget) : String :=
  match target.entry with
  | .path => pathBase target.deviceId
  | .subdomain => SUBDOMAIN_BASE_PATH

/-- A browser request, its target and what the relay believes about the browser. -/
structure BrowserRequest where
  target : DeviceTarget
  headers : HeaderMap
  query : Option String
  client : ClientContext

def queryText : Option String → String
  | some query => "?" ++ query
  | none => ""

/-- The path-form address of one request, absolute because it names a different host. -/
def DeviceAddressing.pathFormUrl (addressing : DeviceAddressing) (deviceId rest : String)
    (query : Option String) : String :=
  addressing.publicUrl.origin ++ pathBase deviceId ++ rest ++ queryText query

/-! ## What a refused browser is answered with -/

def isUnreserved (b : UInt8) : Bool :=
  (65 ≤ b && b ≤ 90) || (97 ≤ b && b ≤ 122) || (48 ≤ b && b ≤ 57) || b ∈ utf8 "-._~"

def hexDigit (digit : UInt8) : UInt8 := if digit < 10 then 48 + digit else 55 + digit

def percentEncode (value : Bytes) : Bytes :=
  value.flatMap fun b =>
    if isUnreserved b then [b] else [37, hexDigit (b / 16), hexDigit (b % 16)]

/-- `/console/login?next=<this request>`. -/
def loginUrl (base rest : String) (query : Option String) : Bytes :=
  utf8 (LOGIN_PATH ++ "?" ++ NEXT_PARAMETER ++ "=") ++
    percentEncode (utf8 (base ++ rest ++ queryText query))

inductive Refusal where
  | redirect (location : HeaderValue)
  | page (status : Nat) (title body : String)
deriving DecidableEq

def forbiddenPage : Refusal := .page 403 FORBIDDEN_TITLE FORBIDDEN_BODY

def redirect (location : Bytes) : Refusal :=
  match HeaderValue.fromStr location with
  | some value => .redirect value
  | none => forbiddenPage

theorem percentEncode_eq (value : Bytes) :
    percentEncode value = Encoding.percentEncode isUnreserved value := rfl

theorem isUnreserved_eq (b : UInt8) :
    isUnreserved b = ((65 ≤ b && b ≤ 90) || (97 ≤ b && b ≤ 122) || (48 ≤ b && b ≤ 57) ||
      b ∈ ([45, 46, 95, 126] : Bytes)) := by
  have hmarks : utf8 "-._~" = [45, 46, 95, 126] := by decide
  rw [isUnreserved, hmarks]

theorem isFieldByte_of_isUnreserved {b : UInt8} (h : isUnreserved b = true) :
    isFieldByte b = true := by
  simp only [isUnreserved_eq, isFieldByte, List.mem_cons, List.not_mem_nil, Bool.or_eq_true,
    Bool.and_eq_true, decide_eq_true_eq, UInt8.le_iff_toNat_le, ← UInt8.toNat_inj, ne_eq, or_false,
    UInt8.reduceToNat] at h ⊢
  omega

theorem isFieldByte_percentEncode {value : Bytes} {b : UInt8} (h : b ∈ percentEncode value) :
    isFieldByte b = true := by
  rcases Encoding.mem_percentEncode_cases h with hb | rfl | ⟨digit, hdigit, rfl⟩
  · exact isFieldByte_of_isUnreserved hb
  · decide
  · have hdigits : ∀ n < 16, isFieldByte (Encoding.hexDigit (UInt8.ofNat n)) = true := by decide
    exact Encoding.forall_hexDigit (P := fun b => isFieldByte b = true) hdigits hdigit

theorem redirect_loginUrl (base rest : String) (query : Option String) :
    ∃ location, redirect (loginUrl base rest query) = .redirect location := by
  have hlegal : ∀ b ∈ loginUrl base rest query, isFieldByte b = true := by
    intro b hb
    rcases List.mem_append.mp hb with hb | hb
    · exact (by decide +kernel :
        ∀ b ∈ utf8 (LOGIN_PATH ++ "?" ++ NEXT_PARAMETER ++ "="), isFieldByte b = true) b hb
    · exact isFieldByte_percentEncode hb
  refine ⟨⟨loginUrl base rest query, hlegal⟩, ?_⟩
  rw [redirect, HeaderValue.fromStr, dif_pos hlegal]

/-! ## The check -/

/-- Every session token carried by the `Cookie` fields of one request. -/
def readSessionCookies (fields : List Bytes) : List Bytes :=
  fields.flatMap fun field =>
    (field.splitOn SEMICOLON).filterMap fun entry =>
      (Text.splitOnce EQUALS (Text.trim isSpace entry)).bind fun (name, value) =>
        if name = SESSION_COOKIE_NAME ∧ value ≠ [] then some value else none

/-- Visible ASCII as text. -/
def asciiText (bytes : Bytes) : String := String.ofList (bytes.map fun b => Char.ofNat b.toNat)

def BrowserRequest.sessionTokens (request : BrowserRequest) : List String :=
  (readSessionCookies ((request.headers.getAll .cookie).filterMap HeaderValue.toStr)).map asciiText

/-- What let a request through: the row it was made for, when, and the account a token of the
request resolved to, which may reach the device. -/
structure SessionCheck where
  device : DeviceRecord
  now : Int
  token : String
  user : UserRecord
  reachable : device.isReachableBy user.id user.role.isAdmin = true

/-- `guard` between two of its queries. -/
inductive Guard where
  | resolving (device : DeviceRecord) (now : Int) (token : String) (stage : Resolve)
      (remaining : List String)
  | passed (check : Option SessionCheck)
  | refused (refusal : Refusal)

namespace Guard

def loginRedirect (request : BrowserRequest) : Guard :=
  .refused (redirect (loginUrl request.target.basePath request.target.rest request.query))

/-- More than one cookie can carry the name, so each is tried until one resolves. -/
def next (request : BrowserRequest) (device : DeviceRecord) (now : Int) : List String → Guard
  | [] => loginRedirect request
  | token :: remaining => .resolving device now token (.presented token now) remaining

def start (addressing : DeviceAddressing) (request : BrowserRequest)
    (device : Option DeviceRecord) (now : Int) : Guard :=
  match device with
  | none => .passed none
  | some device =>
      if device.access.requiresConsoleSession then
        match request.target.entry with
        | .subdomain =>
            .refused (redirect (utf8 (addressing.pathFormUrl request.target.deviceId
              request.target.rest request.query)))
        | .path => next request device now request.sessionTokens
      else .passed none

def step (config : RelayConfig) (request : BrowserRequest) (db : Database) (fault : Fault) :
    Guard → Option (Database × Guard)
  | .resolving device now token (.resolved (some user)) _ =>
      some (db,
        if h : device.isReachableBy user.id user.role.isAdmin = true then
          .passed (some ⟨device, now, token, user, h⟩)
        else .refused forbiddenPage)
  | .resolving device now _ (.resolved none) remaining =>
      some (db, next request device now remaining)
  | .resolving _ _ _ (.failed _) _ => some (db, loginRedirect request)
  | .resolving device now token stage remaining =>
      (stage.step config db fault).map fun (database, stage) =>
        (database, .resolving device now token stage remaining)
  | .passed _ => none
  | .refused _ => none

end Guard

section Soundness

variable (config : RelayConfig) (V : Database → Prop) (request : BrowserRequest)

/-- At moments among `V`, the token's session was there and in force, and so was its account. -/
structure ResolvedTo (now : Int) (token : String) (user : UserRecord) : Prop where
  session : ∃ db session, V db ∧
    db.consoleSessions.find (config.hashSecret token) = some session ∧
    session.isExpired now = false ∧ session.userId = user.id
  account : ∃ db, V db ∧ db.users.find user.id = some user
  enabled : user.disabled = false

/-- The check was made for the row the request's device had, with a token of the request. -/
structure SessionCheck.Holds (check : SessionCheck) : Prop where
  device : ∃ db, V db ∧ db.devices.find request.target.deviceId = some check.device
  restricted : check.device.access = .relayLogin
  presented : check.token ∈ request.sessionTokens
  resolved : ResolvedTo config V check.now check.token check.user

def Resolve.Sound (now : Int) (token : String) : Resolve → Prop
  | .presented token' now' => token' = token ∧ now' = now
  | .account session now' => now' = now ∧ session.isExpired now = false ∧ ∃ db, V db ∧
      db.consoleSessions.find (config.hashSecret token) = some session
  | .extending _ _ user => ResolvedTo config V now token user
  | .resolved (some user) => ResolvedTo config V now token user
  | _ => True

def Guard.Sound (device : Option DeviceRecord) : Guard → Prop
  | .resolving row now token stage remaining =>
      device = some row ∧ row.access = .relayLogin ∧ token ∈ request.sessionTokens ∧
        (∀ other ∈ remaining, other ∈ request.sessionTokens) ∧ stage.Sound config V now token
  | .passed none => ∀ row, device = some row → row.access ≠ .relayLogin
  | .passed (some check) => device = some check.device ∧ check.Holds config V request
  | .refused _ => True

end Soundness

section Steps

variable {config : RelayConfig} {V : Database → Prop} {request : BrowserRequest}
  {device : Option DeviceRecord} {db db' : Database} {fault : Fault}

theorem Resolve.sound_step {now : Int} {token : String} {stage stage' : Resolve}
    (hsound : stage.Sound config V now token) (hdb : V db)
    (h : stage.step config db fault = some (db', stage')) : stage'.Sound config V now token := by
  cases stage with
  | presented token' now' =>
      obtain ⟨rfl, rfl⟩ := hsound
      simp only [Resolve.step] at h
      split at h
      · cases h
        trivial
      · cases h
        trivial
      · next session hfind =>
          cases h
          obtain ⟨-, hfind⟩ := Fault.guard_eq_ok.mp hfind
          split
          · trivial
          · next hlive =>
              exact ⟨rfl, Bool.eq_false_iff.mpr hlive, db, hdb, Except.ok.inj hfind⟩
  | dropping idHash =>
      simp only [Resolve.step] at h
      split at h <;> cases h <;> trivial
  | account session now' =>
      obtain ⟨rfl, hlive, earlier, hearlier, hsession⟩ := hsound
      simp only [Resolve.step] at h
      split at h
      · cases h
        trivial
      · cases h
        trivial
      · next user hfind =>
          cases h
          obtain ⟨-, hfind⟩ := Fault.guard_eq_ok.mp hfind
          have hfind : db.users.find session.userId = some user := Except.ok.inj hfind
          have hid : user.id = session.userId := Rows.key_of_find hfind
          split
          · trivial
          · next henabled =>
              have hresolved : ResolvedTo config V now' token user :=
                ⟨⟨earlier, session, hearlier, hsession, hlive, hid.symm⟩,
                  ⟨db, hdb, hid ▸ hfind⟩, Bool.eq_false_iff.mpr henabled⟩
              split <;> exact hresolved
  | extending idHash expiresAt user =>
      simp only [Resolve.step] at h
      split at h <;> cases h
      · trivial
      · exact hsound
  | resolved user => cases h
  | failed e => cases h

namespace Guard

theorem sound_next {row : DeviceRecord} {now : Int} {remaining : List String}
    (hdevice : device = some row) (hrow : row.access = .relayLogin)
    (htokens : ∀ token ∈ remaining, token ∈ request.sessionTokens) :
    (next request row now remaining).Sound config V request device := by
  cases remaining with
  | nil => trivial
  | cons token remaining =>
      obtain ⟨htoken, hremaining⟩ := List.forall_mem_cons.mp htokens
      exact ⟨hdevice, hrow, htoken, hremaining, rfl, rfl⟩

theorem sound_start (config : RelayConfig) (V : Database → Prop) (addressing : DeviceAddressing)
    (request : BrowserRequest) (device : Option DeviceRecord) (now : Int) :
    (start addressing request device now).Sound config V request device := by
  unfold start
  split
  · exact fun row hrow => nomatch hrow
  · next row =>
      split
      · next hrequires =>
          split
          · trivial
          · exact sound_next rfl (of_decide_eq_true hrequires) fun _ h => h
      · next hpublic =>
          intro other hother hrequires
          cases hother
          exact hpublic (decide_eq_true hrequires)

theorem sound_step {guard guard' : Guard} (hsound : guard.Sound config V request device)
    (hfound : ∀ row, device = some row →
      ∃ db, V db ∧ db.devices.find request.target.deviceId = some row)
    (hdb : V db) (h : guard.step config request db fault = some (db', guard')) :
    guard'.Sound config V request device := by
  cases guard with
  | passed check => cases h
  | refused refusal => cases h
  | resolving row now token stage remaining =>
      obtain ⟨hdevice, hrow, htoken, hremaining, hstage⟩ := hsound
      unfold step at h
      split at h
      · next row now token user remaining' heq =>
          cases heq
          cases h
          split
          · next hreachable =>
              exact ⟨hdevice, hfound row hdevice, hrow, htoken, hstage⟩
          · trivial
      · next heq =>
          cases heq
          cases h
          exact sound_next hdevice hrow hremaining
      · next heq =>
          cases heq
          cases h
          trivial
      · next heq =>
          cases heq
          obtain ⟨⟨database, stage'⟩, hstep, hnext⟩ := Option.map_eq_some_iff.mp h
          cases hnext
          exact ⟨hdevice, hrow, htoken, hremaining, Resolve.sound_step hstage hdb hstep⟩
      · next heq => cases heq
      · next heq => cases heq

end Guard

end Steps

end TermexoRelay
