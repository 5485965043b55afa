import TermexoRelay.Proxy.Forwarded

/-!
# Which requests are for a device

On `<deviceId>.<base>` the whole host belongs to the device; on the relay's own host the device
stands in the path. The host is read out of the `Host` field, whichever version of HTTP the request
came over.
-/

namespace TermexoRelay

/-- `str::rsplit_once`: what stands before the last separator. -/
def beforeLast (separator : Char) (text : List Char) : Option (List Char) :=
  if separator ∈ text then some (text.rdropWhile (· ≠ separator)).dropLast else none

/-- A `Host` header reduced to the name the base is compared against. -/
def normalizeHost (lowercase : Text.Lowercase) (host : List Char) : List Char :=
  let host := Text.trim Text.isWhitespace host
  -- An IPv6 literal keeps its brackets, so only a colon outside one is a port separator.
  let name :=
    match beforeLast ':' host with
    | some name => if host.getLast? = some ']' then host else name
    | none => host
  lowercase.apply (name.rdropWhile (· = '.'))

/-- The one label in front of the base. -/
def SubdomainBase.labelOf (base : SubdomainBase) (host : List Char) : Option (List Char) :=
  ((Text.stripSuffix base.host.toList host).bind (Text.stripSuffix ['.'])).filter fun label =>
    label ≠ [] ∧ '.' ∉ label

/-- The relay's addresses, `str::to_lowercase`, and how the protocol crate reads a device id. -/
structure HostRouting where
  addressing : DeviceAddressing
  lowercase : Text.Lowercase
  parseDeviceId : List Char → Option String

/-- The device a `Host` header names, or `none` when the request is for the relay itself. -/
def HostRouting.deviceFromHost (routing : HostRouting) (host : List Char) : Option String :=
  routing.addressing.subdomainBase.bind fun base =>
    (base.labelOf (normalizeHost routing.lowercase host)).bind routing.parseDeviceId

/-- What the server is given; `authority` is that of the URI. -/
structure IncomingRequest where
  headers : HeaderMap
  authority : Option Bytes
  path : String
  query : Option String

inductive Dispatched where
  | device (target : DeviceTarget)
  /-- `/d/<deviceId>` is answered with a redirect to `/d/<deviceId>/`. -/
  | directory (deviceId : String)
  | own
deriving DecidableEq

namespace IncomingRequest

def hostHeader (request : IncomingRequest) : Option (List Char) :=
  (headerValue request.headers .host).map asciiChars

/-- Sends a request that arrived on a device subdomain to that device. -/
def routeDeviceHost (routing : HostRouting) (request : IncomingRequest) : Option DeviceTarget :=
  (request.hostHeader.bind routing.deviceFromHost).map fun deviceId =>
    { deviceId
      rest := String.ofList (request.path.toList.dropWhile (· = '/'))
      entry := .subdomain }

/-- The subdomain layer, and `dispatch` for the paths no other route has; none of them starts with
`/d/`. -/
def dispatch (routing : HostRouting) (request : IncomingRequest) : Dispatched :=
  match request.routeDeviceHost routing with
  | some target => .device target
  | none =>
      match parseDevicePath request.path with
      | some (.needsSlash deviceId) => .directory deviceId
      | some (.resource deviceId rest) => .device ⟨deviceId, rest, .path⟩
      | none => .own

def deviceId (routing : HostRouting) (request : IncomingRequest) : Option String :=
  match request.dispatch routing with
  | .device target => some target.deviceId
  | .directory deviceId => some deviceId
  | .own => none

/-- The one place a browser request turns into a proxied one. -/
def forwardToDevice (settings : ForwardingSettings) (request : IncomingRequest) (peer : IpAddr)
    (target : DeviceTarget) : BrowserRequest where
  target := target
  headers := request.headers
  query := request.query
  client := settings.resolve request.headers peer

end IncomingRequest

/-! ## The two ways a request carries its authority -/

structure Authority where
  bytes : Bytes
  ascii : ∀ b ∈ bytes, isVisibleAscii b = true

theorem isFieldByte_of_isVisibleAscii {b : UInt8} (h : isVisibleAscii b = true) :
    isFieldByte b = true := by
  simp only [isVisibleAscii, isFieldByte, Bool.or_eq_true, Bool.and_eq_true, decide_eq_true_eq,
    UInt8.le_iff_toNat_le, UInt8.lt_iff_toNat_lt, ← UInt8.toNat_inj, ne_eq, UInt8.reduceToNat]
    at h ⊢
  omega

namespace Authority

def headerValue (authority : Authority) : HeaderValue :=
  ⟨authority.bytes, fun b hb => isFieldByte_of_isVisibleAscii (authority.ascii b hb)⟩

def chars (authority : Authority) : List Char := asciiChars authority.bytes

/-- HTTP/1.1 carries it in the `Host` field. -/
def overHttp1 (authority : Authority) (request : IncomingRequest) : IncomingRequest :=
  { request with
    headers := request.headers.insert .host authority.headerValue
    authority := none }

/-- HTTP/2 carries it in the URI, and the request gains no `Host` field. -/
def overHttp2 (authority : Authority) (request : IncomingRequest) : IncomingRequest :=
  { request with headers := request.headers.remove .host, authority := some authority.bytes }

end Authority

section Authorities

variable {authority : Authority} {request : IncomingRequest}

theorem headerValue_overHttp1 :
    headerValue (authority.overHttp1 request).headers .host = some authority.bytes := by
  have hget : (authority.overHttp1 request).headers.get .host = some authority.headerValue := by
    rw [HeaderMap.get_eq_head?, Authority.overHttp1, HeaderMap.getAll_insert_self]
    rfl
  rw [headerValue, hget, Option.bind_some]
  exact HeaderValue.toStr_eq_some.mpr ⟨authority.ascii, rfl⟩

theorem headerValue_overHttp2 :
    headerValue (authority.overHttp2 request).headers .host = none := by
  have hget : (authority.overHttp2 request).headers.get .host = none := by
    rw [HeaderMap.get_eq_head?, Authority.overHttp2, HeaderMap.getAll_remove_self]
    rfl
  rw [headerValue, hget, Option.bind_none]

theorem headerValue_over_of_ne {name : HeaderName} (h : name ≠ .host) :
    headerValue (authority.overHttp2 request).headers name =
      headerValue (authority.overHttp1 request).headers name := by
  have hget : (authority.overHttp2 request).headers.get name =
      (authority.overHttp1 request).headers.get name := by
    rw [HeaderMap.get_eq_head?, HeaderMap.get_eq_head?, Authority.overHttp1, Authority.overHttp2,
      HeaderMap.getAll_remove_of_ne h, HeaderMap.getAll_insert_of_ne h]
  rw [headerValue, headerValue, hget]

theorem routeDeviceHost_overHttp2 (routing : HostRouting) :
    (authority.overHttp2 request).routeDeviceHost routing = none := by
  rw [IncomingRequest.routeDeviceHost, IncomingRequest.hostHeader, headerValue_overHttp2]
  rfl

theorem routeDeviceHost_overHttp1_eq_none (routing : HostRouting) :
    (authority.overHttp1 request).routeDeviceHost routing = none ↔
      routing.deviceFromHost authority.chars = none := by
  rw [IncomingRequest.routeDeviceHost, IncomingRequest.hostHeader, headerValue_overHttp1,
    Option.map_eq_none_iff]
  rfl

/-- The host of the forwarding header of a trusted peer, if it sent one. -/
def ForwardingSettings.forwardedHost (settings : ForwardingSettings) (headers : HeaderMap)
    (peer : IpAddr) : Option Bytes :=
  if settings.trusts peer then headerValue headers HEADER_FORWARDED_HOST else none

theorem resolve_host (settings : ForwardingSettings) (headers : HeaderMap) (peer : IpAddr) :
    (settings.resolve headers peer).host =
      ((settings.forwardedHost headers peer).map asciiText).getD
        (((headerValue headers .host).map asciiText).getD settings.publicUrl.host) := by
  rw [ForwardingSettings.resolve, ForwardingSettings.forwardedHost]
  cases settings.trusts peer with
  | true => rfl
  | false => rfl

end Authorities

/-- Both encodings of a request are treated alike exactly when its authority names no device, and is
the relay's public host or goes unread because a trusted peer forwarded another one. -/
theorem dispatch_authority_iff (settings : ForwardingSettings) (routing : HostRouting)
    (peer : IpAddr) (authority : Authority) (request : IncomingRequest) :
    ((authority.overHttp2 request).routeDeviceHost routing =
        (authority.overHttp1 request).routeDeviceHost routing ∧
      (settings.resolve (authority.overHttp2 request).headers peer).host =
        (settings.resolve (authority.overHttp1 request).headers peer).host) ↔
      routing.deviceFromHost authority.chars = none ∧
        ((settings.forwardedHost request.headers peer).isSome = true ∨
          asciiText authority.bytes = settings.publicUrl.host) := by
  have hne : HEADER_FORWARDED_HOST ≠ .host := by decide
  have hsame : settings.forwardedHost (authority.overHttp2 request).headers peer =
      settings.forwardedHost request.headers peer := by
    rw [ForwardingSettings.forwardedHost, ForwardingSettings.forwardedHost, headerValue,
      headerValue, HeaderMap.get_eq_head?, HeaderMap.get_eq_head?, Authority.overHttp2,
      HeaderMap.getAll_remove_of_ne hne]
  have hsame' : settings.forwardedHost (authority.overHttp1 request).headers peer =
      settings.forwardedHost request.headers peer := by
    rw [← hsame, ForwardingSettings.forwardedHost, ForwardingSettings.forwardedHost,
      headerValue_over_of_ne hne]
  rw [routeDeviceHost_overHttp2, resolve_host, resolve_host, hsame, hsame', headerValue_overHttp1,
    headerValue_overHttp2]
  refine and_congr ?_ ?_
  · exact eq_comm.trans (routeDeviceHost_overHttp1_eq_none routing)
  · cases settings.forwardedHost request.headers peer with
    | none => exact eq_comm.trans (by simp)
    | some host => simp

namespace HostRouting

/-- Lower case for texts in ASCII; everything else is left alone. -/
def asciiLowercase : Text.Lowercase where
  apply := List.map Char.toLower
  ascii _ _ := rfl
  lower text c hc := by
    obtain ⟨d, -, rfl⟩ := List.mem_map.mp hc
    exact Text.isUpper_toLower d

def wildcard : HostRouting where
  addressing :=
    { publicUrl := ForwardingSettings.behindProxy.publicUrl
      subdomainBase := some ⟨"relay.example.com", ForwardingSettings.exampleHost_plain⟩ }
  lowercase := asciiLowercase
  parseDeviceId label :=
    if label = "abcdefghijklmnopqrstuvwxyz".toList then some (String.ofList label) else none

end HostRouting

/-- A browser on HTTP/2 that asks for a device subdomain is given the relay's own routes. -/
theorem dispatch_misses_http2 :
    ¬ ∀ (settings : ForwardingSettings) (routing : HostRouting) (peer : IpAddr)
      (authority : Authority) (request : IncomingRequest),
      (authority.overHttp2 request).routeDeviceHost routing =
          (authority.overHttp1 request).routeDeviceHost routing ∧
        (settings.resolve (authority.overHttp2 request).headers peer).host =
          (settings.resolve (authority.overHttp1 request).headers peer).host := by
  intro h
  have hsame := (h .behindProxy .wildcard (.v4 0xCB007105)
    ⟨utf8 "abcdefghijklmnopqrstuvwxyz.relay.example.com",
      List.all_eq_true.mp (by decide)⟩
    ⟨.empty, none, "/", none⟩).1
  rw [routeDeviceHost_overHttp2] at hsame
  exact absurd ((routeDeviceHost_overHttp1_eq_none _).mp hsame.symm) (by decide)

end TermexoRelay
