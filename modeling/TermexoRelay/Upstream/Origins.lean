import TermexoRelay.Upstream.Link

/-!
# The address of an upstream

Joining an upstream parses its address twice: for the request that redeems the code and, from the
origin the first parse has left, for the settings that are stored. Both name one relay when the
origin is a fixed point of parsing.
-/

namespace TermexoRelay

/-- Where a code is redeemed, below the origin. -/
def ENROLL_PATH : String := "/api/enroll"

/-- The address `join` redeems a code at. -/
def joinUrl (url : String) : Except ConfigError String :=
  (PublicUrl.fromStr url).map fun origin => origin.origin ++ ENROLL_PATH

def UpstreamSettings.enrollUrl (settings : UpstreamSettings) : String :=
  settings.url ++ ENROLL_PATH

/-- What the parsed address of an upstream is for: its host is one, parsing its origin gives it
back, and what is stored for it is dialled where the code was redeemed. -/
structure PublicUrl.Normalized (config : LinkConfig) (url : PublicUrl) : Prop where
  host_ne : url.host.toList ≠ []
  plain : ∀ c ∈ url.host.toList, Text.isWhitespace c = false ∧ endsHost c = false
  parsed_again : fromStr url.origin = .ok url
  host_parts : url.hostName ++ url.portSuffix.toList = url.host.toList
  stored : ∀ credential fingerprint,
    (config.parseCredential (Text.trimString credential)).isSome = true →
    ∃ settings, UpstreamSettings.build config url.origin credential fingerprint = .ok settings ∧
      settings.url = url.origin ∧ joinUrl url.origin = .ok settings.enrollUrl

namespace PublicUrl

variable {value : String} {url url' : PublicUrl}

theorem ext_host (hsecure : url.secure = url'.secure) (hhost : url.host = url'.host) :
    url = url' := by
  obtain ⟨origin, host, secure, horigin, hplain⟩ := url
  obtain ⟨origin', host', secure', horigin', hplain'⟩ := url'
  cases hsecure
  cases hhost
  cases horigin
  cases horigin'
  rfl

theorem toList_origin (url : PublicUrl) :
    url.origin.toList =
      (if url.secure then HTTPS_SCHEME else HTTP_SCHEME).toList ++ url.host.toList := by
  rw [url.origin_eq, String.toList_append]

structure OfRest (secure : Bool) (rest : List Char) (url : PublicUrl) : Prop where
  secure : url.secure = secure
  host : url.host.toList = rest.rdropWhile (· = '/')
  host_ne : url.host.toList ≠ []
  plain : ∀ c ∈ url.host.toList, endsHost c = false

theorem ofRest_iff {secure : Bool} {rest : List Char} :
    ofRest secure rest = .ok url ↔ OfRest secure rest url := by
  constructor
  · intro h
    have hplain := ofRest_eq_ok h
    simp only [ofRest] at h
    split at h
    · cases h
    · split at h
      · cases h
      · next hne =>
          cases h
          exact ⟨rfl, String.toList_ofList, by rwa [String.toList_ofList], hplain⟩
  · rintro ⟨rfl, hhost, hne, hplain⟩
    have hany : ¬ (rest.rdropWhile (· = '/')).any endsHost = true := by
      rw [← hhost, List.any_eq_true]
      rintro ⟨c, hc, hends⟩
      rw [hplain c hc] at hends
      cases hends
    rw [hhost] at hne
    simp only [ofRest, dif_neg hany, if_neg hne]
    congr 1
    refine ext_host rfl ?_
    change String.ofList (rest.rdropWhile (· = '/')) = url.host
    rw [← hhost, String.ofList_toList]

def schemeOf (secure : Bool) : List Char := (if secure then HTTPS_SCHEME else HTTP_SCHEME).toList

theorem https_not_begins_http (rest : List Char) :
    ¬ HTTPS_SCHEME.toList <+: HTTP_SCHEME.toList ++ rest := by
  rintro ⟨tail, htail⟩
  have hfifth := congrArg (fun text => text[4]?) htail
  simp [HTTPS_SCHEME, HTTP_SCHEME] at hfifth

theorem fromStr_of_trim {secure : Bool} {rest : List Char}
    (h : Text.trim Text.isWhitespace value.toList = schemeOf secure ++ rest) :
    fromStr value = ofRest secure rest := by
  simp only [fromStr, h]
  cases secure with
  | true =>
      have hstrip : Text.stripPrefix HTTPS_SCHEME.toList (schemeOf true ++ rest) = some rest :=
        Text.stripPrefix_eq_some.mpr rfl
      rw [hstrip]
  | false =>
      have hnone : Text.stripPrefix HTTPS_SCHEME.toList (schemeOf false ++ rest) = none :=
        Text.stripPrefix_eq_none.mpr (https_not_begins_http rest)
      have hstrip : Text.stripPrefix HTTP_SCHEME.toList (schemeOf false ++ rest) = some rest :=
        Text.stripPrefix_eq_some.mpr rfl
      rw [hnone, hstrip]

theorem fromStr_eq_ok (h : fromStr value = .ok url) :
    ∃ rest, Text.trim Text.isWhitespace value.toList = schemeOf url.secure ++ rest ∧
      OfRest url.secure rest url := by
  simp only [fromStr] at h
  split at h
  · next rest hstrip =>
      have hrest := ofRest_iff.mp h
      exact ⟨rest, by rw [hrest.secure]; exact Text.stripPrefix_eq_some.mp hstrip,
        by rwa [hrest.secure]⟩
  · next rest hnone hstrip =>
      have hrest := ofRest_iff.mp h
      exact ⟨rest, by rw [hrest.secure]; exact Text.stripPrefix_eq_some.mp hstrip,
        by rwa [hrest.secure]⟩
  · cases h

theorem scheme_plain (secure : Bool) : ∀ c ∈ schemeOf secure, Text.isWhitespace c = false := by
  intro c hc
  have hall : (schemeOf secure).all (fun c => !Text.isWhitespace c) = true := by
    cases secure <;> decide
  have hplain := List.all_eq_true.mp hall c hc
  rwa [Bool.not_eq_true'] at hplain

theorem whitespace_iff (h : fromStr value = .ok url) :
    (∀ c ∈ url.host.toList, Text.isWhitespace c = false) ↔
      ∀ c ∈ Text.trim Text.isWhitespace value.toList, Text.isWhitespace c = false := by
  obtain ⟨rest, htrim, hrest⟩ := fromStr_eq_ok h
  have hslashes : ∀ c ∈ rest.rtakeWhile (· = '/'), Text.isWhitespace c = false := by
    intro c hc
    have hslash : c = '/' := of_decide_eq_true (List.mem_rtakeWhile_imp (p := (· = '/')) hc)
    rw [hslash]
    decide
  have hparts : Text.trim Text.isWhitespace value.toList =
      schemeOf url.secure ++ (url.host.toList ++ rest.rtakeWhile (· = '/')) := by
    rw [htrim, hrest.host, List.rdropWhile_append_rtakeWhile]
  rw [hparts]
  constructor
  · intro hhost c hc
    rcases List.mem_append.mp hc with hc | hc
    · exact scheme_plain url.secure c hc
    · exact (List.mem_append.mp hc).elim (hhost c) (hslashes c)
  · intro htext c hc
    exact htext c (List.mem_append_right _ (List.mem_append_left _ hc))

theorem fromStr_origin (h : fromStr value = .ok url)
    (hplain : ∀ c ∈ url.host.toList, Text.isWhitespace c = false) :
    fromStr url.origin = .ok url := by
  obtain ⟨rest, -, hrest⟩ := fromStr_eq_ok h
  have htrim : Text.trim Text.isWhitespace url.origin.toList =
      schemeOf url.secure ++ url.host.toList := by
    rw [toList_origin]
    exact Text.trim_eq_self fun c hc => (List.mem_append.mp hc).elim
      (scheme_plain url.secure c) (hplain c)
  have hslash : url.host.toList.rdropWhile (· = '/') = url.host.toList := by
    rw [hrest.host]
    exact List.rdropWhile_idempotent _ rest
  rw [fromStr_of_trim htrim, ofRest_iff]
  exact ⟨rfl, hslash.symm, hrest.host_ne, hrest.plain⟩

theorem hostName_append_portSuffix (url : PublicUrl) :
    url.hostName ++ url.portSuffix.toList = url.host.toList := by
  have hprefix : url.hostName <+: url.host.toList := by
    rw [hostName]
    split
    · exact (List.dropLast_prefix _).trans (List.rdropWhile_prefix _ _)
    · exact List.prefix_rfl
  rw [portSuffix, String.toList_ofList]
  exact List.prefix_iff_eq_append.mp hprefix

theorem stored_of_fromStr (config : LinkConfig) (h : fromStr url.origin = .ok url)
    {credential : String} (fingerprint : Option String)
    (hcredential : (config.parseCredential (Text.trimString credential)).isSome = true) :
    ∃ settings, UpstreamSettings.build config url.origin credential fingerprint = .ok settings ∧
      settings.url = url.origin ∧ joinUrl url.origin = .ok settings.enrollUrl := by
  obtain ⟨parsed, hparsed⟩ := Option.isSome_iff_exists.mp hcredential
  refine ⟨⟨url.origin, Text.trimString credential, fingerprint⟩, ?_, rfl, ?_⟩
  · simp only [UpstreamSettings.build, h, hparsed]
  · rw [joinUrl, h]
    rfl

end PublicUrl

open PublicUrl in
/-- A URL that parses is normalized exactly when it holds no white space but around it. -/
theorem fromStr_normalized_iff (config : LinkConfig) (value : String) (url : PublicUrl)
    (h : fromStr value = .ok url) :
    url.Normalized config ↔
      ∀ c ∈ Text.trim Text.isWhitespace value.toList, Text.isWhitespace c = false := by
  rw [← whitespace_iff h]
  constructor
  · intro hnormalized c hc
    exact (hnormalized.plain c hc).1
  · intro hplain
    obtain ⟨rest, -, hrest⟩ := fromStr_eq_ok h
    have hagain := fromStr_origin h hplain
    exact ⟨hrest.host_ne, fun c hc => ⟨hplain c hc, hrest.plain c hc⟩, hagain,
      hostName_append_portSuffix url,
      fun _ fingerprint => stored_of_fromStr config hagain fingerprint⟩

def enrolledLink : LinkConfig where
  relayId := "relay-b"
  parseCredential text :=
    if text = "tdc1.abcdefghijklmnopqrstuvwxyz.c2VjcmV0LXZhbHVlLWZvci10ZXN0aW5n" then
      some ⟨"abcdefghijklmnopqrstuvwxyz", "c2VjcmV0LXZhbHVlLWZvci10ZXN0aW5n"⟩
    else none

open PublicUrl in
theorem fromStr_normalized_padded : ∃ url, fromStr " https://relay-a.example.com/ " = .ok url ∧
    url.Normalized enrolledLink := by
  have hparses : (fromStr " https://relay-a.example.com/ ").isOk = true := by decide
  cases h : fromStr " https://relay-a.example.com/ " with
  | error error =>
      rw [h] at hparses
      cases hparses
  | ok url =>
      refine ⟨url, rfl, (fromStr_normalized_iff enrolledLink _ url h).mpr fun c hc => ?_⟩
      have hall : (Text.trim Text.isWhitespace " https://relay-a.example.com/ ".toList).all
          (fun c => !Text.isWhitespace c) = true := by decide
      have hplain := List.all_eq_true.mp hall c hc
      rwa [Bool.not_eq_true'] at hplain

open PublicUrl in
/-- White space in front of a trailing slash stays in the host, and the origin is not read back. -/
theorem fromStr_keeps_space :
    ¬ ∀ (config : LinkConfig) value url, fromStr value = .ok url → url.Normalized config := by
  intro h
  have hparses : (fromStr "https://relay-a.example.com /").isOk = true := by decide
  cases hvalue : fromStr "https://relay-a.example.com /" with
  | error error =>
      rw [hvalue] at hparses
      cases hparses
  | ok url =>
      have hplain := (h enrolledLink _ url hvalue).plain ' ' ?_
      · exact absurd hplain.1 (by decide)
      · have hhost : (fromStr "https://relay-a.example.com /").toOption.map PublicUrl.host =
            some "relay-a.example.com " := by decide
        rw [hvalue] at hhost
        rw [Option.some.inj hhost]
        decide

end TermexoRelay
