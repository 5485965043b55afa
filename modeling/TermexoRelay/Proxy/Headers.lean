import TermexoRelay.Http.Headers

/-!
# The headers a device sees

`prepareRequestHeaders` is what the proxy does to the header map of a browser request before it
crosses a tunnel: the entries of one hop go, the relay's own session cookie goes, and the
forwarding entries are set.
-/

namespace TermexoRelay

def SESSION_COOKIE_NAME : Bytes := utf8 "termexo_relay_session"

def HEADER_FORWARDED_FOR : HeaderName := ⟨utf8 "x-forwarded-for", by decide +kernel⟩
def HEADER_FORWARDED_PROTO : HeaderName := ⟨utf8 "x-forwarded-proto", by decide +kernel⟩
def HEADER_FORWARDED_HOST : HeaderName := ⟨utf8 "x-forwarded-host", by decide +kernel⟩
def HEADER_TERMEXO_BASE : HeaderName := ⟨utf8 "x-termexo-base", by decide +kernel⟩

/-- Headers that describe one hop of a connection. -/
def HOP_BY_HOP_HEADERS : List Bytes :=
  ["connection", "keep-alive", "proxy-authenticate", "proxy-authorization", "te", "trailer",
    "transfer-encoding", "upgrade"].map utf8

def WEBSOCKET_UPGRADE : Bytes := utf8 "websocket"

def COMMA : UInt8 := 44
def SEMICOLON : UInt8 := 59
def EQUALS : UInt8 := 61

/-- What the relay believes about the browser at the other end of a request; `ip` is the address
as it is printed. -/
structure ClientContext where
  ip : String
  proto : String
  host : String
deriving DecidableEq, Repr

/-- The names the first `Connection` field lists as belonging to this hop. -/
def connectionListed (headers : HeaderMap) : List HeaderName :=
  match (headers.get .connection).bind HeaderValue.toStr with
  | some value =>
      (value.splitOn COMMA).filterMap fun name => HeaderName.tryFrom (Text.trim isSpace name)
  | none => []

def stripHopByHop (headers : HeaderMap) (keepUpgrade : Bool) : HeaderMap :=
  let listed := connectionListed headers
  let names := (HOP_BY_HOP_HEADERS.filterMap HeaderName.tryFrom ++ listed).filter fun name =>
    !(keepUpgrade && (decide (name = .connection) || decide (name = .upgrade)))
  names.foldl (fun headers name => headers.remove name) headers

def isWebsocketUpgrade (headers : HeaderMap) : Bool :=
  match (headers.get .upgrade).bind HeaderValue.toStr with
  | some value => value.map toLower = WEBSOCKET_UPGRADE.map toLower
  | none => false

/-- A value that cannot be a header removes the entry instead. -/
def setHeader (headers : HeaderMap) (name : HeaderName) (value : Bytes) : HeaderMap :=
  match HeaderValue.fromStr value with
  | some value => headers.insert name value
  | none => headers.remove name

def cookieName (entry : Bytes) : Option Bytes :=
  (entry.splitOn SEMICOLON).head?.bind fun first =>
    (Text.splitOnce EQUALS first).map fun parts => Text.trim isSpace parts.1

/-- The entries of a `Cookie` field other than the one named, without the empty ones. -/
def otherCookies (header name : Bytes) : List Bytes :=
  ((header.splitOn SEMICOLON).map (Text.trim isSpace)).filter fun entry =>
    decide (entry ≠ []) && decide (cookieName entry ≠ some name)

/-- A `Cookie` header with one entry taken out, the rest in their original order. -/
def withoutCookie (header name : Bytes) : Bytes :=
  (utf8 "; ").intercalate (otherCookies header name)

/-- Removes the relay's own session cookie from a request before it crosses a tunnel. -/
def takeConsoleSession (headers : HeaderMap) : HeaderMap :=
  match (headers.get .cookie).bind HeaderValue.toStr with
  | none => headers
  | some value =>
      let remaining := withoutCookie value SESSION_COOKIE_NAME
      if remaining = [] then headers.remove .cookie else setHeader headers .cookie remaining

def prepareRequestHeaders (headers : HeaderMap) (client : ClientContext) (base : String)
    (websocket : Bool) : HeaderMap :=
  let headers := stripHopByHop headers websocket
  let headers := headers.remove .host
  let headers := takeConsoleSession headers
  let headers := setHeader headers HEADER_FORWARDED_FOR (utf8 client.ip)
  let headers := setHeader headers HEADER_FORWARDED_PROTO (utf8 client.proto)
  let headers := setHeader headers HEADER_FORWARDED_HOST (utf8 client.host)
  setHeader headers HEADER_TERMEXO_BASE (utf8 base)

section Maps

variable {headers headers' : HeaderMap} {name other : HeaderName}

theorem getAll_setHeader_of_ne (h : other ≠ name) (value : Bytes) :
    (setHeader headers name value).getAll other = headers.getAll other := by
  unfold setHeader
  split
  · exact HeaderMap.getAll_insert_of_ne h
  · exact HeaderMap.getAll_remove_of_ne h

theorem getAll_setHeader_self (value : Bytes) :
    (setHeader headers name value).getAll name = (HeaderValue.fromStr value).toList := by
  unfold setHeader
  split
  · next hv => rw [HeaderMap.getAll_insert_self, hv]; rfl
  · next hv => rw [HeaderMap.getAll_remove_self, hv]; rfl

private theorem cookie_kept_on_upgrade (keepUpgrade : Bool) :
    (!(keepUpgrade && (decide (HeaderName.cookie = .connection) ||
      decide (HeaderName.cookie = .upgrade)))) = true := by
  cases keepUpgrade <;> decide

theorem mem_hopByHop_iff {name : HeaderName} :
    name ∈ HOP_BY_HOP_HEADERS.filterMap HeaderName.tryFrom ↔ name.bytes ∈ HOP_BY_HOP_HEADERS := by
  have hlower : HOP_BY_HOP_HEADERS.all (fun name => name.map toLower = name) = true := by
    decide
  have hvalid : HOP_BY_HOP_HEADERS.all (fun name =>
      name ≠ [] && name.length ≤ 65535 && name.all isTokenByte) = true := by
    decide
  simp only [List.all_eq_true, Bool.and_eq_true, decide_eq_true_eq, and_assoc] at hlower hvalid
  have hbytes := HeaderName.map_bytes_filterMap_tryFrom hlower hvalid
  rw [← List.mem_map_of_injective HeaderName.bytes_injective, hbytes]

private theorem cookie_not_hopByHop :
    HeaderName.cookie ∉ HOP_BY_HOP_HEADERS.filterMap HeaderName.tryFrom :=
  mt mem_hopByHop_iff.mp (by decide)

theorem getAll_cookie_stripHopByHop (headers : HeaderMap) (keepUpgrade : Bool) :
    (stripHopByHop headers keepUpgrade).getAll .cookie =
      if HeaderName.cookie ∈ connectionListed headers then [] else headers.getAll .cookie := by
  rw [stripHopByHop, HeaderMap.getAll_foldl_remove]
  simp only [List.mem_filter, List.mem_append, cookie_not_hopByHop, cookie_kept_on_upgrade,
    false_or, and_true]

end Maps

section Cookies

def cookieEntries (field : Bytes) : List Bytes :=
  (field.splitOn SEMICOLON).map (Text.trim isSpace)

def NamesCookie (name field : Bytes) : Prop :=
  ∃ entry ∈ cookieEntries field, cookieName entry = some name

instance (name field : Bytes) : Decidable (NamesCookie name field) :=
  inferInstanceAs (Decidable (∃ entry ∈ cookieEntries field, _))

/-- Some `Cookie` field of the map still has an entry with the console session's name. -/
def CarriesSession (headers : HeaderMap) : Prop :=
  ∃ field ∈ headers.getAll .cookie, NamesCookie SESSION_COOKIE_NAME field.bytes

instance (headers : HeaderMap) : Decidable (CarriesSession headers) :=
  inferInstanceAs (Decidable (∃ field ∈ headers.getAll .cookie, _))

variable {header name : Bytes}

theorem semicolon_not_mem_of_mem_cookieEntries {entry : Bytes} (h : entry ∈ cookieEntries header) :
    SEMICOLON ∉ entry := by
  obtain ⟨piece, hpiece, rfl⟩ := List.mem_map.mp h
  exact fun hmem => Text.not_mem_of_mem_splitOn hpiece (Text.mem_of_mem_trim hmem)

theorem trim_of_mem_cookieEntries {entry : Bytes} (h : entry ∈ cookieEntries header) :
    Text.trim isSpace entry = entry := by
  obtain ⟨piece, _, rfl⟩ := List.mem_map.mp h
  exact Text.trim_trim piece

theorem mem_otherCookies {entry : Bytes} :
    entry ∈ otherCookies header name ↔
      entry ∈ cookieEntries header ∧ entry ≠ [] ∧ cookieName entry ≠ some name := by
  simp [otherCookies, cookieEntries]

theorem cookieEntries_withoutCookie (h : otherCookies header name ≠ []) :
    cookieEntries (withoutCookie header name) = otherCookies header name := by
  have hentry : ∀ entry ∈ otherCookies header name, entry ∈ cookieEntries header :=
    fun entry hmem => (mem_otherCookies.mp hmem).1
  have hsep : utf8 "; " = SEMICOLON :: [32] := by decide
  have hsplit : (((SEMICOLON :: [32]).intercalate (otherCookies header name)).splitOn
      SEMICOLON).map (Text.trim isSpace) = (otherCookies header name).map (Text.trim isSpace) :=
    Text.map_trim_splitOn_intercalate (by decide +kernel) (by decide +kernel) h fun entry hmem =>
      semicolon_not_mem_of_mem_cookieEntries (hentry entry hmem)
  rw [cookieEntries, withoutCookie, hsep, hsplit]
  exact (List.map_congr_left fun entry hmem => trim_of_mem_cookieEntries (hentry entry hmem)).trans
    (List.map_id _)

theorem withoutCookie_eq_nil_iff : withoutCookie header name = [] ↔ otherCookies header name = [] :=
  Text.intercalate_eq_nil_iff fun _ hmem => (mem_otherCookies.mp hmem).2.1

theorem not_namesCookie_withoutCookie (h : otherCookies header name ≠ []) :
    ¬ NamesCookie name (withoutCookie header name) := by
  rintro ⟨entry, hmem, hname⟩
  rw [cookieEntries_withoutCookie h] at hmem
  exact (mem_otherCookies.mp hmem).2.2 hname

end Cookies

end TermexoRelay
