import TermexoRelay.Library.Text
import TermexoRelay.Registry.State
import Mathlib.Data.List.DropRight

/-!
# From a device id to a tunnel and back

The proxy addresses a device by a URI whose authority is the device id and a fixed suffix; the
connector reads the id back out of that authority and opens the stream there. The URI grammar of
the `http` crate decides which ids survive the way.
-/

namespace TermexoRelay

def DEVICE_PATH_PREFIX : String := "/d/"

def TUNNEL_AUTHORITY_SUFFIX : String := ".termexo-tunnel"

/-- A path under `/d/`, split. -/
inductive DevicePath where
  | needsSlash (deviceId : String)
  /-- `/d/<deviceId>/<rest>`, with `rest` never starting with a slash. -/
  | resource (deviceId rest : String)
deriving DecidableEq, Repr

def parseDevicePath (path : String) : Option DevicePath :=
  (Text.stripPrefix DEVICE_PATH_PREFIX.toList path.toList).bind fun remainder =>
    match Text.splitOnce '/' remainder with
    | some (deviceId, rest) =>
        if deviceId ≠ [] then some (.resource (String.ofList deviceId) (String.ofList rest))
        else none
    | none => if remainder = [] then none else some (.needsSlash (String.ofList remainder))

/-- The parts of a URI the proxy sets. -/
structure Uri where
  scheme : String
  authority : String
  pathAndQuery : String
deriving DecidableEq, Repr

/-- `Authority::host`: the part after the last `@` and before the port. A bracketed host ends
with its bracket, which the parser has found. -/
def Uri.host (uri : Uri) : List Char :=
  let hostPort := uri.authority.toList.rtakeWhile (· ≠ '@')
  if hostPort.head? = some '[' then hostPort.takeWhile (· ≠ ']') ++ [']']
  else hostPort.takeWhile (· ≠ ':')

/-- What the URI parser of the `http` crate accepts. -/
structure UriParser where
  authority : String → Bool
  pathAndQuery : String → Bool

/-- What follows the authority: the device's own path, and the query as it came. -/
def tunnelPath (rest : String) : Option String → String
  | some query => "/" ++ rest ++ "?" ++ query
  | none => "/" ++ rest

/-- Rewrites the request URI into the tunnel's addressing scheme. -/
def tunnelUri (parser : UriParser) (deviceId rest : String) (query : Option String) : Option Uri :=
  let uri : Uri := ⟨"http", deviceId ++ TUNNEL_AUTHORITY_SUFFIX, tunnelPath rest query⟩
  if parser.authority uri.authority && parser.pathAndQuery uri.pathAndQuery then some uri else none

def authorityDeviceId (uri : Uri) : Option String :=
  (Text.stripSuffix TUNNEL_AUTHORITY_SUFFIX.toList uri.host).map String.ofList

/-- Builds the preface for one stream: a device behind a downstream relay gets this relay's id
as its first hop. -/
def streamPreface (version : Nat) (route : Route) (deviceId relayId : String) : StreamPreface :=
  match route with
  | .direct _ => .new version deviceId
  | .via _ _ => (StreamPreface.new version deviceId).withHop relayId

/-- `TunnelConnector::call` up to the stream it opens: on which tunnel, and with which preface. -/
def TunnelConnector.call (version : Nat) (relayId : String) (registry : RegistryState) (uri : Uri) :
    Option (TunnelHandle × StreamPreface) :=
  (authorityDeviceId uri).bind fun deviceId =>
    (registry.route deviceId).map fun route =>
      (route.link, streamPreface version route deviceId relayId)

/-- The ids the authority grammar reads back as they were written: no userinfo, no port and no
bracket of their own. -/
def Addressable (deviceId : String) : Prop :=
  '@' ∉ deviceId.toList ∧ ':' ∉ deviceId.toList ∧ deviceId.toList.head? ≠ some '['

instance (deviceId : String) : Decidable (Addressable deviceId) :=
  inferInstanceAs (Decidable (_ ∧ _ ∧ _))

section Authority

variable {uri : Uri}

theorem authorityDeviceId_eq_some {deviceId : String} :
    authorityDeviceId uri = some deviceId ↔
      uri.host = (deviceId ++ TUNNEL_AUTHORITY_SUFFIX).toList := by
  rw [authorityDeviceId, Option.map_eq_some_iff, String.toList_append]
  constructor
  · rintro ⟨text, htext, rfl⟩
    rw [String.toList_ofList]
    exact Text.stripSuffix_eq_some.mp htext
  · intro hhost
    exact ⟨deviceId.toList, Text.stripSuffix_eq_some.mpr hhost, String.ofList_toList⟩

private theorem rtakeWhile_ne_eq_self_iff {c : Char} {text : List Char} :
    text.rtakeWhile (· ≠ c) = text ↔ c ∉ text := by
  rw [List.rtakeWhile_eq_self_iff]
  simp only [ne_eq, decide_not, Bool.not_eq_true', decide_eq_false_iff_not]
  exact ⟨fun h hmem => h c hmem rfl, fun h x hx heq => h (heq ▸ hx)⟩

private theorem takeWhile_ne_eq_self_iff {c : Char} {text : List Char} :
    text.takeWhile (· ≠ c) = text ↔ c ∉ text := by
  rw [List.takeWhile_eq_self_iff]
  simp only [ne_eq, decide_not, Bool.not_eq_true', decide_eq_false_iff_not]
  exact ⟨fun h hmem => h c hmem rfl, fun h x hx heq => h (heq ▸ hx)⟩

theorem Uri.host_eq_authority_iff (hlast : uri.authority.toList.getLast? ≠ some ']') :
    uri.host = uri.authority.toList ↔ '@' ∉ uri.authority.toList ∧
      ':' ∉ uri.authority.toList ∧ uri.authority.toList.head? ≠ some '[' := by
  generalize htext : uri.authority.toList = text at hlast ⊢
  unfold Uri.host
  rw [htext]
  constructor
  · intro hhost
    have hbracket : (text.rtakeWhile (· ≠ '@')).head? ≠ some '[' := by
      intro hbracket
      rw [if_pos hbracket] at hhost
      rw [← hhost, List.getLast?_concat] at hlast
      exact hlast rfl
    rw [if_neg hbracket] at hhost
    have hport : text <+: text.rtakeWhile (· ≠ '@') := by
      have hprefix : (text.rtakeWhile (· ≠ '@')).takeWhile (· ≠ ':') <+:
          text.rtakeWhile (· ≠ '@') := List.takeWhile_prefix _
      rwa [hhost] at hprefix
    have huser := List.rtakeWhile_suffix (fun c => decide (c ≠ '@')) text
    have hself : text.rtakeWhile (· ≠ '@') = text :=
      huser.eq_of_length (le_antisymm huser.length_le hport.length_le)
    rw [hself] at hhost hbracket
    exact ⟨rtakeWhile_ne_eq_self_iff.mp hself, takeWhile_ne_eq_self_iff.mp hhost, hbracket⟩
  · rintro ⟨huser, hport, hbracket⟩
    rw [rtakeWhile_ne_eq_self_iff.mpr huser, if_neg hbracket, takeWhile_ne_eq_self_iff.mpr hport]

theorem Uri.host_tunnel_iff {deviceId : String}
    (h : uri.authority = deviceId ++ TUNNEL_AUTHORITY_SUFFIX) :
    uri.host = uri.authority.toList ↔ Addressable deviceId := by
  have hsuffix : TUNNEL_AUTHORITY_SUFFIX.toList =
      ['.', 't', 'e', 'r', 'm', 'e', 'x', 'o', '-', 't', 'u', 'n', 'n', 'e', 'l'] := by decide
  have htext : uri.authority.toList = deviceId.toList ++ TUNNEL_AUTHORITY_SUFFIX.toList := by
    rw [h, String.toList_append]
  have hlast : uri.authority.toList.getLast? ≠ some ']' := by
    rw [htext, hsuffix]
    simp
  rw [Uri.host_eq_authority_iff hlast, htext, hsuffix, Addressable]
  cases deviceId.toList with
  | nil => simp
  | cons c rest => simp

end Authority

/-- The connector opens a stream for the id the proxy was asked for exactly when the id is
addressable. -/
theorem authorityDeviceId_tunnelUri (parser : UriParser) (version : Nat) (relayId : String)
    (deviceId rest : String) (query : Option String) (uri : Uri)
    (h : tunnelUri parser deviceId rest query = some uri) :
    (authorityDeviceId uri = some deviceId ↔ Addressable deviceId) ∧
    (Addressable deviceId → ∀ registry : RegistryState,
      TunnelConnector.call version relayId registry uri =
        (registry.route deviceId).map fun route =>
          (route.link, streamPreface version route deviceId relayId)) := by
  have hauthority : uri.authority = deviceId ++ TUNNEL_AUTHORITY_SUFFIX := by
    simp only [tunnelUri, Option.ite_none_right_eq_some, Option.some.injEq] at h
    rw [← h.2]
  have hdecoded : authorityDeviceId uri = some deviceId ↔ Addressable deviceId := by
    rw [authorityDeviceId_eq_some, ← hauthority, Uri.host_tunnel_iff hauthority]
  refine ⟨hdecoded, fun hd registry => ?_⟩
  rw [TunnelConnector.call, hdecoded.mpr hd, Option.bind_some]

def plainParser : UriParser where
  authority text := text.toList.all fun c => c.isAlphanum || c ∈ "-._~!$&'()*+,;=@:%".toList
  pathAndQuery text := text.toList.all fun c =>
    c.isAlphanum || c ∈ "-._~!$&'()*+,;=@:%/?".toList

theorem authorityDeviceId_tunnelUri_abc :
    authorityDeviceId ⟨"http", "abc.termexo-tunnel", "/ws?token=1"⟩ = some "abc" :=
  (authorityDeviceId_tunnelUri plainParser 1 "relay-a" "abc" "ws" (some "token=1") _
    (by decide)).1.mpr (by decide)

/-- An id with an `@` is guarded as one device and opened as another. -/
theorem authorityDeviceId_userinfo :
    ¬ ∀ (parser : UriParser) (deviceId rest : String) (query : Option String) (uri : Uri),
      tunnelUri parser deviceId rest query = some uri → authorityDeviceId uri = some deviceId :=
  fun h => absurd (h plainParser "guest@restricted" "" none _ rfl) (by decide)

end TermexoRelay
