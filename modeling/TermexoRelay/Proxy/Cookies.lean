import TermexoRelay.Proxy.Access
import TermexoRelay.Proxy.ConsoleSession

/-!
# The device's own cookies

Cookies cross the relay twice: in the `Cookie` fields of a request, from which the console session
is taken, and in the `Set-Cookie` values of a response, which may not name it.
-/

namespace TermexoRelay

/-! ## Cookies on the way in -/

/-- The entries of one `Cookie` field without the empty ones. -/
def filledEntries (field : Bytes) : List Bytes :=
  (cookieEntries field).filter fun entry => decide (entry ≠ [])

def requestCookies (headers : HeaderMap) : List Bytes :=
  (headers.getAll .cookie).flatMap fun field => filledEntries field.bytes

/-- No field after the first has an entry that is not the session's. -/
def OthersInFirst (headers : HeaderMap) : Prop :=
  ∀ field ∈ (headers.getAll .cookie).tail, ∀ entry ∈ filledEntries field.bytes,
    cookieName entry = some SESSION_COOKIE_NAME

section Request

theorem filter_filledEntries (header name : Bytes) :
    (filledEntries header).filter (fun entry => decide (cookieName entry ≠ some name)) =
      otherCookies header name := by
  rw [filledEntries, List.filter_filter, otherCookies, cookieEntries]
  exact List.filter_congr fun entry _ => Bool.and_comm _ _

theorem filledEntries_withoutCookie {header name : Bytes} (h : otherCookies header name ≠ []) :
    filledEntries (withoutCookie header name) = otherCookies header name := by
  rw [filledEntries, cookieEntries_withoutCookie h, List.filter_eq_self]
  exact fun entry hentry => decide_eq_true (mem_otherCookies.mp hentry).2.1

theorem filledEntries_sessionTaken {first : HeaderValue} {fields : List HeaderValue}
    (hfirst : fields.head? = some first) (htext : first.toStr.isSome = true) :
    ((sessionTaken fields).flatMap fun field => filledEntries field.bytes) =
      otherCookies first.bytes SESSION_COOKIE_NAME := by
  have hmap : ((sessionTaken fields).flatMap fun field => filledEntries field.bytes) =
      ((sessionTaken fields).map HeaderValue.bytes).flatMap filledEntries := by
    rw [List.flatMap_map]
  rw [hmap, map_bytes_sessionTaken hfirst htext]
  by_cases hempty : otherCookies first.bytes SESSION_COOKIE_NAME = []
  · rw [if_pos hempty, hempty, List.flatMap_nil]
  · rw [if_neg hempty, List.flatMap_singleton, filledEntries_withoutCookie hempty]

end Request

/-- The device's cookies cross the relay whole exactly when none of them stands in a second `Cookie`
field. -/
theorem requestCookies_takeConsoleSession_iff (headers : HeaderMap)
    (htext : ∀ field ∈ headers.getAll .cookie, field.toStr.isSome = true) :
    requestCookies (takeConsoleSession headers) =
        (requestCookies headers).filter
          (fun entry => decide (cookieName entry ≠ some SESSION_COOKIE_NAME)) ↔
      OthersInFirst headers := by
  rw [requestCookies, requestCookies, OthersInFirst, getAll_cookie_takeConsoleSession]
  cases hfields : headers.getAll .cookie with
  | nil => simp [sessionTaken]
  | cons first rest =>
      have hfirst : first.toStr.isSome = true := htext first (by rw [hfields]; simp)
      have hrest : ((rest.flatMap fun field => filledEntries field.bytes).filter fun entry =>
          decide (cookieName entry ≠ some SESSION_COOKIE_NAME)) = [] ↔
          ∀ field ∈ rest, ∀ entry ∈ filledEntries field.bytes,
            cookieName entry = some SESSION_COOKIE_NAME := by
        rw [List.filter_eq_nil_iff]
        simp only [List.mem_flatMap, decide_eq_true_eq, ne_eq, not_not, forall_exists_index,
          and_imp]
        exact ⟨fun h field hfield entry hentry => h entry field hfield hentry,
          fun h entry field hfield hentry => h field hfield entry hentry⟩
      rw [filledEntries_sessionTaken List.head?_cons hfirst, List.flatMap_cons,
        List.filter_append, filter_filledEntries, List.self_eq_append_right, List.tail_cons, hrest]

/-- A browser on HTTP/2 sends one field a cookie. -/
def splitCookies : HeaderMap :=
  (HeaderMap.empty.append .cookie
      ⟨utf8 "theme=dark", List.all_eq_true.mp (by decide +kernel)⟩).append .cookie
    ⟨utf8 "lang=de", List.all_eq_true.mp (by decide +kernel)⟩

theorem requestCookies_takeConsoleSession_single :
    requestCookies (takeConsoleSession
        (cookieRequest ⟨utf8 "a=1; termexo_relay_session=s; b=2", by decide +kernel⟩)) =
      [utf8 "a=1", utf8 "b=2"] := by
  rw [(requestCookies_takeConsoleSession_iff _ (by decide)).mpr (by
    intro field hfield
    exact absurd hfield List.not_mem_nil)]
  decide

/-- The second of two cookies is lost although neither is the session. -/
theorem takeConsoleSession_loses_cookie :
    ¬ ∀ headers : HeaderMap,
      (∀ field ∈ headers.getAll .cookie, field.toStr.isSome = true) →
      requestCookies (takeConsoleSession headers) =
        (requestCookies headers).filter
          (fun entry => decide (cookieName entry ≠ some SESSION_COOKIE_NAME)) := by
  intro h
  have hcookies := h splitCookies (by decide +kernel)
  exact absurd hcookies (by decide +kernel)

/-! ## Cookies on the way out -/

/-- Drops a device's attempt to set the relay's session cookie on the shared origin. -/
def refuseConsoleSessionCookies (headers : HeaderMap) : HeaderMap :=
  let kept := (headers.getAll .setCookie).filter fun value =>
    value.toStr.any fun text => decide (cookieName text ≠ some SESSION_COOKIE_NAME)
  kept.foldl (fun headers value => headers.append .setCookie value) (headers.remove .setCookie)

/-- A cookie as a browser stores it. -/
structure StoredCookie where
  name : Bytes
  value : Bytes
deriving DecidableEq

namespace StoredCookie

def isBlank (b : UInt8) : Bool := b = 32 || b = 9

/-- A browser reads the text up to the first semicolon. Without an equals sign in it the cookie has
no name. -/
def ofSetCookie (setCookie : Bytes) : StoredCookie :=
  let pair := (setCookie.splitOn SEMICOLON).headD []
  match Text.splitOnce EQUALS pair with
  | some (name, value) => ⟨Text.trim isBlank name, Text.trim isBlank value⟩
  | none => ⟨[], Text.trim isBlank pair⟩

/-- What it sends back: a cookie without a name is its bare value. -/
def text (cookie : StoredCookie) : Bytes :=
  if cookie.name = [] then cookie.value else cookie.name ++ EQUALS :: cookie.value

end StoredCookie

/-- The `Cookie` field of a browser that stored cookies from the given `Set-Cookie` values. -/
def cookieField (setCookies : List Bytes) : Bytes :=
  (utf8 "; ").intercalate
    (setCookies.map fun setCookie => (StoredCookie.ofSetCookie setCookie).text)

/-- A browser stores the value without a name, and as a text that is an entry of the session. -/
def SmugglesSession (setCookie : Bytes) : Prop :=
  ∃ token, token ≠ [] ∧
    StoredCookie.ofSetCookie setCookie = ⟨[], SESSION_COOKIE_NAME ++ EQUALS :: token⟩

/-- The token `readSessionCookies` finds in one trimmed entry. -/
def sessionToken (entry : Bytes) : Option Bytes :=
  (Text.splitOnce EQUALS entry).bind fun (name, value) =>
    if name = SESSION_COOKIE_NAME ∧ value ≠ [] then some value else none

section Response

variable {headers : HeaderMap} {value : HeaderValue}

theorem mem_refuseConsoleSessionCookies :
    value ∈ (refuseConsoleSessionCookies headers).getAll .setCookie ↔
      value ∈ headers.getAll .setCookie ∧ value.toStr.isSome = true ∧
        cookieName value.bytes ≠ some SESSION_COOKIE_NAME := by
  rw [refuseConsoleSessionCookies, HeaderMap.getAll_foldl_append, HeaderMap.getAll_remove_self,
    List.nil_append, List.mem_filter]
  refine and_congr_right fun _ => ?_
  cases htext : value.toStr with
  | none => simp
  | some text =>
      obtain ⟨-, rfl⟩ := HeaderValue.toStr_eq_some.mp htext
      simp

theorem sessionToken_eq_some {entry token : Bytes} :
    sessionToken entry = some token ↔
      entry = SESSION_COOKIE_NAME ++ EQUALS :: token ∧ token ≠ [] := by
  have hplain : EQUALS ∉ SESSION_COOKIE_NAME := by decide
  rw [sessionToken, Option.bind_eq_some_iff]
  constructor
  · rintro ⟨⟨name, value⟩, hsplit, hvalue⟩
    obtain ⟨rfl, -⟩ := Text.splitOnce_eq_some.mp hsplit
    obtain ⟨⟨rfl, hne⟩, heq⟩ := Option.ite_none_right_eq_some.mp hvalue
    cases heq
    exact ⟨rfl, hne⟩
  · rintro ⟨rfl, htoken⟩
    exact ⟨_, Text.splitOnce_eq_some.mpr ⟨rfl, hplain⟩, if_pos ⟨rfl, htoken⟩⟩

theorem readSessionCookies_singleton (field : Bytes) :
    readSessionCookies [field] = (cookieEntries field).filterMap sessionToken := by
  rw [readSessionCookies, List.flatMap_singleton, cookieEntries, List.filterMap_map]
  rfl

theorem isSpace_eq_isBlank {b : UInt8} (h : isVisibleAscii b = true) :
    isSpace b = StoredCookie.isBlank b := by
  rw [Bool.eq_iff_iff]
  simp only [isVisibleAscii, isSpace, StoredCookie.isBlank, Bool.or_eq_true, Bool.and_eq_true,
    decide_eq_true_eq, UInt8.le_iff_toNat_le, UInt8.lt_iff_toNat_lt, ← UInt8.toNat_inj,
    UInt8.reduceToNat] at h ⊢
  omega

theorem semicolon_not_mem_text (setCookie : Bytes) :
    SEMICOLON ∉ (StoredCookie.ofSetCookie setCookie).text := by
  obtain ⟨pair, rest, hsplit⟩ :=
    List.exists_cons_of_ne_nil (List.splitOn_ne_nil SEMICOLON setCookie)
  have hpair : SEMICOLON ∉ pair :=
    Text.not_mem_of_mem_splitOn (hsplit ▸ List.mem_cons_self : pair ∈ setCookie.splitOn SEMICOLON)
  simp only [StoredCookie.ofSetCookie, hsplit, List.headD_cons]
  cases hparts : Text.splitOnce EQUALS pair with
  | none => exact mt Text.mem_of_mem_trim hpair
  | some parts =>
      obtain ⟨name, value⟩ := parts
      obtain ⟨rfl, -⟩ := Text.splitOnce_eq_some.mp hparts
      rw [List.mem_append, List.mem_cons, not_or, not_or] at hpair
      obtain ⟨hname, hequals, hvalue⟩ := hpair
      change SEMICOLON ∉ StoredCookie.text ⟨_, _⟩
      unfold StoredCookie.text
      split
      · exact mt Text.mem_of_mem_trim hvalue
      · rw [List.mem_append, List.mem_cons, not_or, not_or]
        exact ⟨mt Text.mem_of_mem_trim hname, hequals, mt Text.mem_of_mem_trim hvalue⟩

theorem readSessionCookies_cookieField (setCookies : List Bytes) :
    readSessionCookies [cookieField setCookies] = setCookies.filterMap fun setCookie =>
      sessionToken (Text.trim isSpace (StoredCookie.ofSetCookie setCookie).text) := by
  have hsep : utf8 "; " = SEMICOLON :: [32] := by decide
  by_cases hnil : setCookies = []
  · rw [hnil, List.filterMap_nil]
    decide
  · have hentries : cookieEntries (cookieField setCookies) =
        (setCookies.map fun setCookie => (StoredCookie.ofSetCookie setCookie).text).map
          (Text.trim isSpace) := by
      rw [cookieEntries, cookieField, hsep]
      refine Text.map_trim_splitOn_intercalate (by decide +kernel) (by decide +kernel)
        (by simpa using hnil) ?_
      intro text htext
      obtain ⟨setCookie, -, rfl⟩ := List.mem_map.mp htext
      exact semicolon_not_mem_text setCookie
    rw [readSessionCookies_singleton, hentries, List.map_map, List.filterMap_map]
    rfl

theorem ofSetCookie_cases {setCookie : Bytes}
    (hvisible : ∀ b ∈ setCookie, isVisibleAscii b = true) :
    (∃ name value, EQUALS ∉ name ∧
        Text.trim isSpace name = name ∧ Text.trim isSpace value = value ∧
        StoredCookie.ofSetCookie setCookie = ⟨name, value⟩ ∧ cookieName setCookie = some name) ∨
      ∃ value, EQUALS ∉ value ∧ Text.trim isSpace value = value ∧
        StoredCookie.ofSetCookie setCookie = ⟨[], value⟩ ∧ cookieName setCookie = none := by
  obtain ⟨pair, rest, hsplit⟩ :=
    List.exists_cons_of_ne_nil (List.splitOn_ne_nil SEMICOLON setCookie)
  have hpair : pair ∈ setCookie.splitOn SEMICOLON := hsplit ▸ List.mem_cons_self
  have htrim : ∀ part : Bytes, (∀ b ∈ part, b ∈ pair) →
      Text.trim StoredCookie.isBlank part = Text.trim isSpace part := fun part hpart =>
    (Text.trim_congr fun b hb =>
      isSpace_eq_isBlank (hvisible b (Text.mem_of_mem_splitOn hpair (hpart b hb)))).symm
  cases hparts : Text.splitOnce EQUALS pair with
  | none =>
      have hequals := Text.splitOnce_eq_none.mp hparts
      refine .inr ⟨Text.trim isSpace pair, mt Text.mem_of_mem_trim hequals, Text.trim_trim pair,
        ?_, ?_⟩
      · simp only [StoredCookie.ofSetCookie, hsplit, List.headD_cons, hparts,
          htrim pair fun _ h => h]
      · simp only [cookieName, hsplit, List.head?_cons, Option.bind_some, hparts, Option.map_none]
  | some parts =>
      obtain ⟨name, value⟩ := parts
      obtain ⟨rfl, hequals⟩ := Text.splitOnce_eq_some.mp hparts
      have hname : ∀ b ∈ name, b ∈ name ++ EQUALS :: value := fun b hb =>
        List.mem_append_left _ hb
      have hvalue : ∀ b ∈ value, b ∈ name ++ EQUALS :: value := fun b hb =>
        List.mem_append_right _ (List.mem_cons_of_mem _ hb)
      refine .inl ⟨Text.trim isSpace name, Text.trim isSpace value, mt Text.mem_of_mem_trim hequals,
        Text.trim_trim name, Text.trim_trim value, ?_, ?_⟩
      · simp only [StoredCookie.ofSetCookie, hsplit, List.headD_cons, hparts, htrim name hname,
          htrim value hvalue]
      · simp only [cookieName, hsplit, List.head?_cons, Option.bind_some, hparts, Option.map_some]

theorem cookieName_of_smugglesSession {setCookie : Bytes}
    (hvisible : ∀ b ∈ setCookie, isVisibleAscii b = true) (h : SmugglesSession setCookie) :
    cookieName setCookie ≠ some SESSION_COOKIE_NAME := by
  obtain ⟨token, -, hstored⟩ := h
  rcases ofSetCookie_cases hvisible with
    ⟨name, value, -, -, -, hcookie, hread⟩ | ⟨-, -, -, -, hread⟩
  · rw [hcookie, StoredCookie.mk.injEq] at hstored
    rw [hread, hstored.1]
    decide
  · rw [hread]
    decide

/-- A kept value comes back as a token only if the browser stores it without a name. -/
theorem sessionToken_ofSetCookie_iff {setCookie : Bytes}
    (hvisible : ∀ b ∈ setCookie, isVisibleAscii b = true)
    (hname : cookieName setCookie ≠ some SESSION_COOKIE_NAME) :
    sessionToken (Text.trim isSpace (StoredCookie.ofSetCookie setCookie).text) = none ↔
      ¬ SmugglesSession setCookie := by
  have hplain : EQUALS ∉ SESSION_COOKIE_NAME := by decide
  rw [Option.eq_none_iff_forall_ne_some, SmugglesSession, not_exists]
  refine forall_congr' fun token => not_congr ?_
  rw [sessionToken_eq_some]
  rcases ofSetCookie_cases hvisible with
    ⟨name, value, hequals, htrim, hvalue, hcookie, hread⟩ | ⟨value, hequals, hvalue, hcookie, -⟩
  · rw [hcookie]
    by_cases hempty : name = []
    · simp only [StoredCookie.text, hempty, if_true, hvalue, StoredCookie.mk.injEq, true_and]
      exact And.comm
    · have htext : Text.trim isSpace (name ++ EQUALS :: value) = name ++ EQUALS :: value :=
        Text.trim_append_cons htrim (by decide) hvalue
      simp only [StoredCookie.text, hempty, if_false, htext, StoredCookie.mk.injEq, false_and,
        and_false, iff_false, not_and]
      intro heq
      have hsame := Text.splitOnce_eq_some.mpr ⟨heq, hplain⟩
      rw [Text.splitOnce_eq_some.mpr ⟨rfl, hequals⟩, Option.some.injEq, Prod.mk.injEq] at hsame
      exact absurd (hsame.1 ▸ hread) hname
  · rw [hcookie]
    simp only [StoredCookie.text, if_true, hvalue, StoredCookie.mk.injEq, true_and]
    exact And.comm

end Response

/-- Nothing a browser stores from the values a device may set reads as a session token, whatever
other cookies it comes back with, exactly when none of them is a session entry without a name. -/
theorem refuseConsoleSessionCookies_iff (headers : HeaderMap) :
    (∀ value ∈ (refuseConsoleSessionCookies headers).getAll .setCookie, ∀ before after,
        readSessionCookies [cookieField (before ++ value.bytes :: after)] =
          readSessionCookies [cookieField (before ++ after)]) ↔
      ∀ value ∈ headers.getAll .setCookie, value.toStr.isSome = true →
        ¬ SmugglesSession value.bytes := by
  have hvisible : ∀ {value : HeaderValue}, value.toStr.isSome = true →
      ∀ b ∈ value.bytes, isVisibleAscii b = true := by
    intro value htext
    obtain ⟨text, htext⟩ := Option.isSome_iff_exists.mp htext
    exact (HeaderValue.toStr_eq_some.mp htext).1
  constructor
  · intro hkept value hvalue htext hsmuggles
    have hname := cookieName_of_smugglesSession (hvisible htext) hsmuggles
    have hnone := hkept value (mem_refuseConsoleSessionCookies.mpr ⟨hvalue, htext, hname⟩) [] []
    rw [readSessionCookies_cookieField, readSessionCookies_cookieField, List.nil_append,
      List.append_nil, List.filterMap_nil, List.filterMap_eq_nil_iff] at hnone
    have htoken := hnone value.bytes List.mem_cons_self
    exact (sessionToken_ofSetCookie_iff (hvisible htext) hname).mp htoken hsmuggles
  · intro hplain value hvalue before after
    obtain ⟨hmem, htext, hname⟩ := mem_refuseConsoleSessionCookies.mp hvalue
    have htoken := (sessionToken_ofSetCookie_iff (hvisible htext) hname).mpr
      (hplain value hmem htext)
    rw [readSessionCookies_cookieField, readSessionCookies_cookieField, List.filterMap_append,
      List.filterMap_append, List.filterMap_cons, htoken]

def namelessCookie : HeaderMap :=
  HeaderMap.empty.append .setCookie
    ⟨utf8 "=termexo_relay_session=attacker; Path=/", List.all_eq_true.mp (by decide +kernel)⟩

/-- The browser sends the bare value back, and it reads as the session. -/
theorem refuseConsoleSessionCookies_keeps_nameless :
    ¬ ∀ headers : HeaderMap, ∀ value ∈ (refuseConsoleSessionCookies headers).getAll .setCookie,
      ∀ before after, readSessionCookies [cookieField (before ++ value.bytes :: after)] =
        readSessionCookies [cookieField (before ++ after)] := by
  intro h
  have hsame := h namelessCookie
    ⟨utf8 "=termexo_relay_session=attacker; Path=/", List.all_eq_true.mp (by decide)⟩
    (by decide)
    [utf8 "theme=dark"] []
  exact absurd hsame (by decide)

end TermexoRelay
