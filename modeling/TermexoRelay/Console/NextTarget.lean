import TermexoRelay.Library.Urls
import TermexoRelay.Proxy.LoginRedirect
import TermexoRelay.Proxy.Target

/-!
# Back from the login page

A browser that was sent to the login page carries the address it asked for in a parameter, which the
page follows once somebody has signed in. The parameter stands in the address bar, so the page only
follows what stays on the relay.
-/

namespace TermexoRelay

/-- What would let a value break out of a path. -/
def isForbiddenCharacter (b : UInt8) : Bool := b ≤ 32 || b = 127 || b = 92

def isSafeNextTarget : Option Bytes → Bool
  | none => false
  | some value =>
      value ≠ [] && [47].isPrefixOf value && !([47, 47].isPrefixOf value) &&
        !value.any isForbiddenCharacter

/-- The target to open after signing in, or `none` when the parameter cannot be trusted. -/
def safeNextTarget (value : Option Bytes) : Option Bytes :=
  if isSafeNextTarget value then value else none

/-- `queryParamMap.get` of the router, on a page opened with an address. -/
abbrev QueryParamMap := Bytes → String → Option Bytes

/-- What is relied on of the router: it reads back a text that stands percent-encoded in the
parameter. -/
def QueryParamMap.ReadsEncoded (queryParamMap : QueryParamMap) : Prop :=
  ∀ text : String, queryParamMap (utf8 (LOGIN_PATH ++ "?" ++ NEXT_PARAMETER ++ "=") ++
    Encoding.percentEncode isUnreserved (utf8 text)) NEXT_PARAMETER = some (utf8 text)

inductive OpenedPage where
  | address (target : Bytes)
  | console
deriving DecidableEq, Repr

/-- What the login page opens once somebody has signed in. -/
def openNextPage (queryParamMap : QueryParamMap) (url : Bytes) : OpenedPage :=
  match safeNextTarget (queryParamMap url NEXT_PARAMETER) with
  | some target => .address target
  | none => .console

/-! ## What the page follows -/

theorem isSafeNextTarget_cons {first : UInt8} {rest : Bytes} :
    isSafeNextTarget (some (first :: rest)) = true ↔
      first = 47 ∧ rest.head? ≠ some 47 ∧ ∀ b ∈ first :: rest, isForbiddenCharacter b = false := by
  have hfirst : ∀ b : UInt8, (47 == b) = decide (b = 47) := by
    intro b
    rw [Bool.eq_iff_iff, beq_iff_eq, decide_eq_true_eq, eq_comm]
  cases rest with
  | nil => simp [isSafeNextTarget, List.isPrefixOf, hfirst]
  | cons second rest =>
      have hparts : isSafeNextTarget (some (first :: second :: rest)) = true ↔
          (first = 47 ∧ (first ≠ 47 ∨ second ≠ 47)) ∧
            ∀ b ∈ first :: second :: rest, isForbiddenCharacter b = false := by
        simp [isSafeNextTarget, List.isPrefixOf, hfirst]
      have hsome : some second ≠ some 47 ↔ second ≠ 47 := Option.some_inj.not
      rw [hparts, List.head?_cons, hsome]
      constructor
      · rintro ⟨⟨rfl, hsecond⟩, hplain⟩
        exact ⟨rfl, hsecond.resolve_left fun hne => hne rfl, hplain⟩
      · rintro ⟨rfl, hsecond, hplain⟩
        exact ⟨⟨rfl, .inr hsecond⟩, hplain⟩

theorem isControlOrSpace_of_not_forbidden {b : UInt8} (h : isForbiddenCharacter b = false) :
    Url.isControlOrSpace b = false := by
  simp only [isForbiddenCharacter, Bool.or_eq_false_iff] at h
  exact h.1.1

/-- What is accepted is what a browser keeps on the host of the page, among the paths without
spaces, control characters and backslashes. -/
theorem isSafeNextTarget_iff (scheme value : Bytes) :
    isSafeNextTarget (some value) = true ↔
      value.head? = some 47 ∧ (∀ b ∈ value, isForbiddenCharacter b = false) ∧
        Url.keepsHost scheme value = true := by
  cases value with
  | nil => simp [isSafeNextTarget]
  | cons first rest =>
      rw [isSafeNextTarget_cons, List.head?_cons, Option.some.injEq]
      refine and_congr_right fun hfirst => ?_
      subst hfirst
      rw [and_comm]
      refine and_congr_right fun hplain => ?_
      rw [Url.keepsHost_slash fun b hb => isControlOrSpace_of_not_forbidden (hplain b hb),
        Bool.not_eq_true', ← Bool.not_eq_true, Url.beginsHost_slash]
      constructor
      · rintro hsecond ⟨b, hb, hslash⟩
        have hmem : b ∈ 47 :: rest := List.mem_cons_of_mem _ (List.mem_of_mem_head? hb)
        simp only [Url.isSlash, Bool.or_eq_true, decide_eq_true_eq] at hslash
        rcases hslash with rfl | rfl
        · exact hsecond hb
        · exact absurd (hplain 92 hmem) (by decide)
      · intro hno hsecond
        exact hno ⟨47, hsecond, by decide⟩

/-- Whatever stands in the address bar, the page opens nothing but a path of the relay it belongs
to: the parameter as it was given, without spaces, control characters and backslashes. All of those
it opens. -/
theorem openNextPage_eq_address (queryParamMap : QueryParamMap) (scheme url target : Bytes) :
    openNextPage queryParamMap url = .address target ↔
      queryParamMap url NEXT_PARAMETER = some target ∧ target.head? = some 47 ∧
        (∀ b ∈ target, isForbiddenCharacter b = false) ∧ Url.keepsHost scheme target = true := by
  rw [openNextPage, safeNextTarget, ← isSafeNextTarget_iff]
  cases hvalue : queryParamMap url NEXT_PARAMETER with
  | none => simp [isSafeNextTarget]
  | some value =>
      by_cases hsafe : isSafeNextTarget (some value) = true
      · rw [if_pos hsafe]
        constructor
        · intro h
          cases h
          exact ⟨rfl, hsafe⟩
        · rintro ⟨heq, -⟩
          cases heq
          rfl
      · rw [if_neg hsafe]
        constructor
        · intro h
          cases h
        · rintro ⟨heq, htarget⟩
          cases heq
          exact absurd htarget hsafe

/-! ## The way back -/

theorem path_of_parseDevicePath {path deviceId rest : String}
    (h : parseDevicePath path = some (.resource deviceId rest)) :
    path = pathBase deviceId ++ rest := by
  obtain ⟨remainder, hremainder, h⟩ := Option.bind_eq_some_iff.mp h
  rw [Text.stripPrefix_eq_some] at hremainder
  split at h
  · next before after hsplit =>
      split at h
      · cases h
        obtain ⟨rfl, -⟩ := Text.splitOnce_eq_some.mp hsplit
        rw [← String.toList_inj, hremainder]
        simp [pathBase]
      · cases h
  · split at h <;> cases h

theorem QueryParamMap.ReadsEncoded.loginUrl {queryParamMap : QueryParamMap}
    (hreads : queryParamMap.ReadsEncoded) (base rest : String) (query : Option String) :
    queryParamMap (loginUrl base rest query) NEXT_PARAMETER =
      some (requestTarget base rest query) := by
  rw [TermexoRelay.loginUrl, percentEncode_eq, hreads, utf8_target]

theorem isForbidden_of_isPathByte {b : UInt8} (h : Url.isPathByte b = true) :
    isForbiddenCharacter b = false := by
  simp only [Url.isPathByte, isForbiddenCharacter, Bool.and_eq_true, Bool.or_eq_false_iff,
    decide_eq_true_eq, decide_eq_false_iff_not, List.mem_cons, not_or, UInt8.le_iff_toNat_le,
    ← UInt8.toNat_inj, UInt8.reduceToNat] at h ⊢
  omega

theorem isForbidden_of_isQueryByte {b : UInt8} (h : Url.isQueryByte b = true) :
    isForbiddenCharacter b = true ↔ b = 92 := by
  simp only [Url.isQueryByte, isForbiddenCharacter, Bool.and_eq_true, Bool.or_eq_true,
    decide_eq_true_eq, List.mem_cons, not_or, UInt8.le_iff_toNat_le, ← UInt8.toNat_inj,
    UInt8.reduceToNat] at h ⊢
  omega

theorem forbidden_iff (address : Url.Address) :
    (∀ b ∈ address.text, isForbiddenCharacter b = false) ↔ ∀ query ∈ address.query, 92 ∉ query := by
  constructor
  · intro h query hquery hbackslash
    have hmem : 92 ∈ address.text := by
      rw [Url.Address.text, hquery]
      exact List.mem_append_right _ (List.mem_cons_of_mem _ hbackslash)
    exact absurd (h 92 hmem) (by decide)
  · intro h b hb
    rcases List.mem_append.mp hb with hb | hb
    · exact isForbidden_of_isPathByte (address.path_bytes b hb)
    · cases hquery : address.query with
      | none => simp [hquery] at hb
      | some query =>
          rw [hquery, Option.elim_some] at hb
          rcases List.mem_cons.mp hb with rfl | hb
          · decide
          · rw [← Bool.not_eq_true, isForbidden_of_isQueryByte
              (address.query_bytes query hquery b hb)]
            rintro rfl
            exact h query hquery hb

theorem isSafeNextTarget_text (address : Url.Address) {path deviceId rest : String}
    (hpath : utf8 path = address.path)
    (hdevice : parseDevicePath path = some (.resource deviceId rest)) :
    isSafeNextTarget (some address.text) = true ↔ ∀ query ∈ address.query, 92 ∉ query := by
  obtain ⟨after, htext⟩ : ∃ after, address.text = 47 :: 100 :: after := by
    have hprefix : utf8 DEVICE_PATH_PREFIX = [47, 100, 47] := by decide
    rw [Url.Address.text, ← hpath, path_of_parseDevicePath hdevice, pathBase, utf8_append,
      utf8_append, utf8_append, hprefix]
    exact ⟨_, rfl⟩
  rw [← forbidden_iff, htext, isSafeNextTarget_cons, List.head?_cons]
  simp

/-- A browser that asks for a device and is sent to the login page is brought back to exactly the
address it asked for, or to the console's first page if the query of that address holds a
backslash. -/
theorem openNextPage_loginRedirect (queryParamMap : QueryParamMap)
    (hreads : queryParamMap.ReadsEncoded) (address : Url.Address) (path : String)
    (query : Option String) (hpath : utf8 path = address.path)
    (hquery : query.map utf8 = address.query)
    (request : BrowserRequest) (deviceId rest : String)
    (hdevice : parseDevicePath path = some (.resource deviceId rest))
    (htarget : request.target = ⟨deviceId, rest, .path⟩) (hasked : request.query = query) :
    ∃ location, Guard.loginRedirect request = .refused (.redirect location) ∧
      openNextPage queryParamMap location.bytes =
        (if ∀ text ∈ address.query, 92 ∉ text then .address address.text else .console) ∧
      Url.request address.text = (utf8 path, query.map utf8) := by
  obtain ⟨location, hlocation⟩ := redirect_loginUrl (pathBase deviceId) rest query
  have htext : requestTarget (pathBase deviceId) rest query = address.text := by
    rw [requestTarget, ← utf8_append, ← path_of_parseDevicePath hdevice, hpath, Url.Address.text,
      ← hquery]
    cases query <;> rfl
  refine ⟨location, ?_, ?_, ?_⟩
  · rw [Guard.loginRedirect, htarget, hasked, DeviceTarget.basePath, hlocation]
  · rw [openNextPage, bytes_of_redirect hlocation, hreads.loginUrl, htext, safeNextTarget]
    simp only [isSafeNextTarget_text address hpath hdevice]
    by_cases hplain : ∀ text ∈ address.query, 92 ∉ text
    · rw [if_pos hplain, if_pos hplain]
    · rw [if_neg hplain, if_neg hplain]
  · rw [Url.Address.request_text, hpath, hquery]

def firstParameter : QueryParamMap := fun url name =>
  (Encoding.pathAndQuery url).2.bind fun query =>
    (Encoding.queryParameters query).findSome? fun (parameter, value) =>
      if parameter = utf8 name then some value else none

theorem firstParameter_readsEncoded : firstParameter.ReadsEncoded := by
  intro text
  obtain ⟨parameters, hsplit, hparameters⟩ := pathAndQuery_loginUrl text "" none
  have hurl : loginUrl text "" none = utf8 (LOGIN_PATH ++ "?" ++ NEXT_PARAMETER ++ "=") ++
      Encoding.percentEncode isUnreserved (utf8 text) := by
    rw [loginUrl, percentEncode_eq]
    simp [queryText]
  have htarget : requestTarget text "" none = utf8 text := by
    rw [← utf8_target]
    simp [queryText]
  rw [firstParameter, ← hurl, hsplit, Option.bind_some, hparameters, htarget]
  simp

def searchAddress (text : String) (hbytes : (utf8 text).all Url.isQueryByte = true) :
    Url.Address where
  path := utf8 "/d/desk/search"
  query := some (utf8 text)
  path_bytes := by decide +kernel
  path_slash := by decide
  path_plain := by decide
  query_bytes := by
    intro query hquery
    cases hquery
    exact List.all_eq_true.mp hbytes

def searchRequest (text : String) : BrowserRequest where
  target := ⟨"desk", "search", .path⟩
  headers := .empty
  query := some text
  client := ⟨"198.51.100.7", "https", "relay.example.com"⟩

theorem openNextPage_loginRedirect_search :
    (∃ location, Guard.loginRedirect (searchRequest "q=a+b%25") =
        .refused (.redirect location) ∧
      openNextPage firstParameter location.bytes =
        .address (utf8 "/d/desk/search?q=a+b%25")) ∧
    ∃ location, Guard.loginRedirect (searchRequest "q=C:\\") = .refused (.redirect location) ∧
      openNextPage firstParameter location.bytes = .console := by
  constructor
  · obtain ⟨location, hlocation, hopened, -⟩ := openNextPage_loginRedirect firstParameter
      firstParameter_readsEncoded (searchAddress "q=a+b%25" (by decide))
      "/d/desk/search" (some "q=a+b%25") rfl rfl (searchRequest "q=a+b%25")
      "desk" "search" (by decide) rfl rfl
    refine ⟨location, hlocation, hopened.trans (if_pos ?_)⟩
    intro query hquery
    cases hquery
    decide
  · obtain ⟨location, hlocation, hopened, -⟩ := openNextPage_loginRedirect firstParameter
      firstParameter_readsEncoded (searchAddress "q=C:\\" (by decide)) "/d/desk/search"
      (some "q=C:\\") rfl rfl (searchRequest "q=C:\\") "desk" "search" (by decide) rfl rfl
    refine ⟨location, hlocation, hopened.trans (if_neg fun h => ?_)⟩
    exact h _ rfl (by decide)

end TermexoRelay
