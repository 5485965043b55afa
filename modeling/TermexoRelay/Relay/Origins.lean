import TermexoRelay.Library.Addresses
import TermexoRelay.Relay.Addressing

/-!
# The configured origin

The public URL is given by the operator, or made up from the address the relay listens on; the base
of the device subdomains is given by the operator. What both readers let through decides which
addresses can be read back.
-/

namespace TermexoRelay

def MAX_HOST_LABEL_LENGTH : Nat := 63

inductive ConfigError where
  | unsupportedScheme
  | unexpectedPath (path : String)
  | missingHost
  | invalidSubdomainBase (value : String)
deriving DecidableEq, Repr

def ConfigError.message : ConfigError → String
  | .unsupportedScheme => "公开地址必须以 http:// 或 https:// 开头。"
  | .unexpectedPath path => "公开地址不能带路径、查询串或片段：" ++ path
  | .missingHost => "公开地址缺少主机名。"
  | .invalidSubdomainBase value =>
      "子域名基础域名只能是主机名，例如 relay.example.com，不能带协议、端口或路径：" ++ value

def endsHost (c : Char) : Bool := c = '/' || c = '?' || c = '#'

theorem endsHost_of_any {host : List Char} (h : ¬ host.any endsHost = true) :
    ∀ c ∈ host, endsHost c = false := by
  rw [Bool.not_eq_true, List.any_eq_false] at h
  exact fun c hc => Bool.eq_false_iff.mpr (h c hc)

theorem endsHost_of_pred {P : Char → Prop} (hslash : ¬ P '/') (hquery : ¬ P '?')
    (hfragment : ¬ P '#') {c : Char} (h : P c) : endsHost c = false := by
  by_contra hends
  simp only [endsHost, Bool.not_eq_false, Bool.or_eq_true, decide_eq_true_eq] at hends
  rcases hends with (rfl | rfl) | rfl
  · exact hslash h
  · exact hquery h
  · exact hfragment h

theorem slash_not_mem {host : List Char} (h : ∀ c ∈ host, endsHost c = false) : '/' ∉ host :=
  fun hmem => absurd (h '/' hmem) (by decide)

namespace PublicUrl

/-- `from_str` behind the scheme. -/
def ofRest (secure : Bool) (rest : List Char) : Except ConfigError PublicUrl :=
  let rest := rest.rdropWhile (· = '/')
  if h : rest.any endsHost = true then
    .error (.unexpectedPath (String.ofList (rest.dropWhile fun c => !endsHost c)))
  else if rest = [] then .error .missingHost
  else .ok
    { origin := (if secure then HTTPS_SCHEME else HTTP_SCHEME) ++ String.ofList rest
      host := String.ofList rest
      secure
      origin_eq := rfl
      host_plain := by
        rw [String.toList_ofList]
        exact slash_not_mem (endsHost_of_any h) }

def fromStr (value : String) : Except ConfigError PublicUrl :=
  let trimmed := Text.trim Text.isWhitespace value.toList
  match Text.stripPrefix HTTPS_SCHEME.toList trimmed,
    Text.stripPrefix HTTP_SCHEME.toList trimmed with
  | some rest, _ => ofRest true rest
  | none, some rest => ofRest false rest
  | none, none => .error .unsupportedScheme

end PublicUrl

/-- The address of a listener; `scopeId` belongs to an IPv6 address and is 0 for most of them. -/
structure SocketAddr where
  ip : IpAddr
  scopeId : Nat
  port : Nat
deriving DecidableEq

namespace SocketAddr

def isUnspecified (address : SocketAddr) : Bool :=
  address.ip = .v4 0 || address.ip = .v6 0

def print (address : SocketAddr) : List Char :=
  let port := ':' :: Nat.toDigits 10 address.port
  match address.ip with
  | .v4 _ => address.ip.print ++ port
  | .v6 _ =>
      let scope := if address.scopeId = 0 then [] else '%' :: Nat.toDigits 10 address.scopeId
      '[' :: (address.ip.print ++ scope ++ ']' :: port)

/-- The host of a relay without a public URL: 0.0.0.0 is not reachable as an address. -/
def publicHost (address : SocketAddr) : List Char :=
  if address.isUnspecified then "localhost:".toList ++ Nat.toDigits 10 address.port
  else address.print

theorem endsHost_of_isTextChar {c : Char} (h : IpAddr.isTextChar c = true) :
    endsHost c = false :=
  endsHost_of_pred (P := fun c => IpAddr.isTextChar c = true) (by decide) (by decide) (by decide) h

theorem isTextChar_of_mem_publicHost {address : SocketAddr} {c : Char}
    (h : c ∈ address.publicHost) :
    IpAddr.isTextChar c = true ∨ c ∈ "localhost:[]%".toList := by
  have hdigits : ∀ {n : Nat}, c ∈ Nat.toDigits 10 n → IpAddr.isTextChar c = true := fun hc =>
    IpAddr.isTextChar_of_mem_toDigits (by decide) (by decide) hc
  have hport : ∀ {n : Nat}, c ∈ ':' :: Nat.toDigits 10 n → IpAddr.isTextChar c = true := by
    intro n hc
    rcases List.mem_cons.mp hc with rfl | hc
    · decide
    · exact hdigits hc
  rw [publicHost] at h
  split at h
  · refine (List.mem_append.mp h).elim (fun hc => .inr ?_) fun hc => .inl (hdigits hc)
    exact List.mem_append_left "[]%".toList hc
  · simp only [print] at h
    split at h
    · exact .inl ((List.mem_append.mp h).elim IpAddr.isTextChar_of_mem_print hport)
    · rw [List.mem_cons, List.mem_append, List.mem_append, List.mem_cons] at h
      rcases h with rfl | (hc | hc) | rfl | hc
      · exact .inr (by decide)
      · exact .inl (IpAddr.isTextChar_of_mem_print hc)
      · split at hc
        · cases hc
        · rcases List.mem_cons.mp hc with rfl | hc
          · exact .inr (by decide)
          · exact .inl (hdigits hc)
      · exact .inr (by decide)
      · exact .inl (hport hc)

theorem endsHost_of_mem_publicHost {address : SocketAddr} {c : Char}
    (h : c ∈ address.publicHost) : endsHost c = false := by
  rcases isTextChar_of_mem_publicHost h with hc | hc
  · exact endsHost_of_isTextChar hc
  · have hall : "localhost:[]%".toList.all (fun c => !endsHost c) = true := by decide
    have hplain := List.all_eq_true.mp hall c hc
    rwa [Bool.not_eq_true'] at hplain

end SocketAddr

namespace PublicUrl

def fromListenAddress (listen : SocketAddr) (secure : Bool) : PublicUrl where
  origin := (if secure then HTTPS_SCHEME else HTTP_SCHEME) ++ String.ofList listen.publicHost
  host := String.ofList listen.publicHost
  secure := secure
  origin_eq := rfl
  host_plain := by
    rw [String.toList_ofList]
    exact slash_not_mem fun _ hc => SocketAddr.endsHost_of_mem_publicHost hc

/-- The public URLs a relay can have. -/
inductive Configured : PublicUrl → Prop
  | given {value : String} {url : PublicUrl} (h : fromStr value = .ok url) : Configured url
  | listening (listen : SocketAddr) (secure : Bool) : Configured (fromListenAddress listen secure)

theorem ofRest_eq_ok {secure : Bool} {rest : List Char} {url : PublicUrl}
    (h : ofRest secure rest = .ok url) : ∀ c ∈ url.host.toList, endsHost c = false := by
  simp only [ofRest] at h
  split at h
  · cases h
  · next hplain =>
      split at h
      · cases h
      · cases h
        rw [String.toList_ofList]
        exact endsHost_of_any hplain

theorem Configured.plain {url : PublicUrl} (h : url.Configured) :
    ∀ c ∈ url.host.toList, endsHost c = false := by
  cases h with
  | given h =>
      simp only [fromStr] at h
      split at h
      · exact ofRest_eq_ok h
      · exact ofRest_eq_ok h
      · cases h
  | listening listen secure =>
      intro c hc
      rw [fromListenAddress, String.toList_ofList] at hc
      exact SocketAddr.endsHost_of_mem_publicHost hc

theorem portSuffix_cases (url : PublicUrl) :
    url.portSuffix.toList = [] ∨ ∃ port, ':' ∉ port ∧ (∀ c ∈ port, c ∈ url.host.toList) ∧
      url.portSuffix.toList = ':' :: port := by
  rw [portSuffix, String.toList_ofList, hostName]
  split
  · next hcolon =>
      obtain ⟨before, after, hhost, hafter⟩ := Text.exists_eq_append_cons hcolon.1
      refine .inr ⟨after, hafter, fun c hc => ?_, ?_⟩
      · rw [hhost]
        exact List.mem_append_right _ (List.mem_cons_of_mem _ hc)
      · rw [hhost, Text.dropLast_rdropWhile_ne hafter, List.drop_left]
  · exact .inl List.drop_length

end PublicUrl

/-! ## The base of the subdomains -/

/-- One DNS label: letters, digits and inner hyphens, within the length DNS allows. -/
def isHostLabel (label : List Char) : Bool :=
  label ≠ [] && label.length ≤ MAX_HOST_LABEL_LENGTH && label.head? ≠ some '-' &&
    label.getLast? ≠ some '-' && label.all fun c => c.isAlphanum || c = '-'

/-- What labels in lower case are written with. -/
def isLabelChar (c : Char) : Bool := c.isLower || c.isDigit || c = '-'

namespace SubdomainBase

theorem isLabelChar_of_isHostLabel {label : List Char} {c : Char} (h : isHostLabel label = true)
    (hc : c ∈ label) (hlower : c.isUpper = false) : isLabelChar c = true := by
  simp only [isHostLabel, Bool.and_eq_true, List.all_eq_true] at h
  have hchar := h.2 c hc
  have halphanum : c.isAlphanum = (c.isUpper || c.isLower || c.isDigit) := rfl
  simpa [isLabelChar, halphanum, hlower] using hchar

theorem isLabelChar_of_mem_base {base : List Char} {c : Char} (hlower : c.isUpper = false)
    (hlabels : ∀ label ∈ base.splitOn '.', isHostLabel label = true) (hc : c ∈ base) :
    isLabelChar c = true ∨ c = '.' := by
  have hjoined : List.intercalate ['.'] (base.splitOn '.') = base := List.intercalate_splitOn '.'
  rw [← hjoined] at hc
  rcases Text.mem_intercalate_cases hc with hc | ⟨label, hlabel, hc⟩
  · exact .inr (List.mem_singleton.mp hc)
  · exact .inl (isLabelChar_of_isHostLabel (hlabels label hlabel) hc hlower)

def fromStr (lowercase : Text.Lowercase) (value : String) : Except ConfigError SubdomainBase :=
  let trimmed := Text.trim Text.isWhitespace value.toList
  let normalized := lowercase.apply (Text.trim (· = '.') trimmed)
  if h : normalized ≠ [] ∧ '.' ∈ normalized ∧
      ∀ label ∈ normalized.splitOn '.', isHostLabel label = true then
    .ok
      { host := String.ofList normalized
        host_plain := by
          rw [String.toList_ofList]
          intro hslash
          have hchar := isLabelChar_of_mem_base (lowercase.lower _ _ hslash) h.2.2 hslash
          exact absurd hchar (by decide) }
  else .error (.invalidSubdomainBase (String.ofList trimmed))

/-- A base as it is stored: labels in lower case, the last one not empty. -/
structure Normal (base : SubdomainBase) : Prop where
  chars : ∀ c ∈ base.host.toList, isLabelChar c = true ∨ c = '.'
  last : ∃ c, base.host.toList.getLast? = some c ∧ isLabelChar c = true

theorem normal_of_fromStr {lowercase : Text.Lowercase} {value : String} {base : SubdomainBase}
    (h : fromStr lowercase value = .ok base) : base.Normal := by
  simp only [fromStr] at h
  split at h
  · next hlabels =>
      cases h
      set normalized := lowercase.apply (Text.trim (· = '.') (Text.trim Text.isWhitespace
        value.toList)) with hnormalized
      have hlower : ∀ c ∈ normalized, c.isUpper = false := lowercase.lower _
      have hne : ∀ label ∈ normalized.splitOn '.', label ≠ [] := by
        rintro label hlabel rfl
        exact absurd (hlabels.2.2 [] hlabel) (by decide)
      constructor
      · intro c hc
        rw [String.toList_ofList] at hc
        exact isLabelChar_of_mem_base (hlower c hc) hlabels.2.2 hc
      · obtain ⟨label, hlabel, hlast⟩ := Text.exists_getLast?_intercalate ['.']
          (List.splitOn_ne_nil '.' normalized) hne
        rw [List.intercalate_splitOn] at hlast
        obtain ⟨c, hc⟩ := Option.isSome_iff_exists.mp
          (List.getLast?_isSome.mpr (hne label hlabel))
        have hmem : c ∈ label := List.mem_of_getLast? hc
        rw [String.toList_ofList, hlast]
        exact ⟨c, hc, isLabelChar_of_isHostLabel (hlabels.2.2 label hlabel) hmem
          (hlower c (Text.mem_of_mem_splitOn hlabel hmem))⟩
  · cases h

end SubdomainBase

end TermexoRelay
