import TermexoRelay.Proxy.Headers
import Mathlib.Data.List.Forall2

/-!
# The console session and the tunnel

The console and the devices share one origin, so a browser attaches the console's session cookie
to device requests. Whether `prepareRequestHeaders` takes it out is decided by the first `Cookie`
field alone: a first field that is no visible ASCII leaves all of them as they came.
-/

namespace TermexoRelay

/-- What the first `Cookie` field has to look like for the session to stay behind: it is text, or
no field is forwarded, or there is no session to take out. -/
def StripsSession (headers : HeaderMap) : Prop :=
  HeaderName.cookie ∈ connectionListed headers ∨
    (headers.get .cookie).all (fun field => field.toStr.isSome) = true ∨ ¬ CarriesSession headers

instance (headers : HeaderMap) : Decidable (StripsSession headers) :=
  inferInstanceAs (Decidable (_ ∨ _ ∨ _))

/-- The `Cookie` fields after `takeConsoleSession`. -/
def sessionTaken (fields : List HeaderValue) : List HeaderValue :=
  match fields.head?.bind HeaderValue.toStr with
  | none => fields
  | some value =>
      let remaining := withoutCookie value SESSION_COOKIE_NAME
      if remaining = [] then [] else (HeaderValue.fromStr remaining).toList

section Fields

variable {headers headers' : HeaderMap}

theorem getAll_cookie_takeConsoleSession (headers : HeaderMap) :
    (takeConsoleSession headers).getAll .cookie = sessionTaken (headers.getAll .cookie) := by
  have hget : (headers.getAll .cookie).head? = headers.get .cookie := rfl
  rw [takeConsoleSession, sessionTaken, hget]
  cases (headers.get .cookie).bind HeaderValue.toStr with
  | none => rfl
  | some value =>
      by_cases hempty : withoutCookie value SESSION_COOKIE_NAME = []
      · simp only [hempty, if_true, HeaderMap.getAll_remove_self]
      · simp only [if_neg hempty, getAll_setHeader_self]

theorem getAll_takeConsoleSession_of_ne {name : HeaderName} (h : name ≠ .cookie) :
    (takeConsoleSession headers).getAll name = headers.getAll name := by
  unfold takeConsoleSession
  split
  · rfl
  · next value _ =>
      by_cases hempty : withoutCookie value SESSION_COOKIE_NAME = []
      · simp only [hempty, if_true, HeaderMap.getAll_remove_of_ne h]
      · simp only [if_neg hempty, getAll_setHeader_of_ne h]

theorem getAll_cookie_prepareRequestHeaders (client : ClientContext) (base : String)
    (websocket : Bool) (headers : HeaderMap) :
    (prepareRequestHeaders headers client base websocket).getAll .cookie =
      if HeaderName.cookie ∈ connectionListed headers then []
      else sessionTaken (headers.getAll .cookie) := by
  have hfor : HeaderName.cookie ≠ HEADER_FORWARDED_FOR := by decide
  have hproto : HeaderName.cookie ≠ HEADER_FORWARDED_PROTO := by decide
  have hhost : HeaderName.cookie ≠ HEADER_FORWARDED_HOST := by decide
  have hbase : HeaderName.cookie ≠ HEADER_TERMEXO_BASE := by decide
  have hown : HeaderName.cookie ≠ HeaderName.host := by decide
  simp only [prepareRequestHeaders, getAll_setHeader_of_ne hbase, getAll_setHeader_of_ne hhost,
    getAll_setHeader_of_ne hproto, getAll_setHeader_of_ne hfor, getAll_cookie_takeConsoleSession,
    HeaderMap.getAll_remove_of_ne hown, getAll_cookie_stripHopByHop]
  split <;> rfl

end Fields

section Taken

variable {fields : List HeaderValue}

private theorem isFieldByte_of_mem_withoutCookie {value : HeaderValue} {b : UInt8}
    (h : b ∈ withoutCookie value.bytes SESSION_COOKIE_NAME) : isFieldByte b = true := by
  rcases Text.mem_intercalate_cases h with h | ⟨entry, hentry, hb⟩
  · have hall : (utf8 "; ").all isFieldByte = true := by decide
    exact List.all_eq_true.mp hall b h
  · obtain ⟨piece, hpiece, rfl⟩ := List.mem_map.mp (mem_otherCookies.mp hentry).1
    exact value.legal b (Text.mem_of_mem_splitOn hpiece (Text.mem_of_mem_trim hb))

theorem map_bytes_sessionTaken {first : HeaderValue} (hfirst : fields.head? = some first)
    (htext : first.toStr.isSome = true) :
    (sessionTaken fields).map HeaderValue.bytes =
      if otherCookies first.bytes SESSION_COOKIE_NAME = [] then []
      else [withoutCookie first.bytes SESSION_COOKIE_NAME] := by
  obtain ⟨text, htext⟩ := Option.isSome_iff_exists.mp htext
  obtain ⟨-, rfl⟩ := HeaderValue.toStr_eq_some.mp htext
  have hlegal : ∀ b ∈ withoutCookie first.bytes SESSION_COOKIE_NAME, isFieldByte b = true :=
    fun b hb => isFieldByte_of_mem_withoutCookie hb
  rw [sessionTaken, hfirst, Option.bind_some, htext]
  by_cases hempty : otherCookies first.bytes SESSION_COOKIE_NAME = []
  · simp only [withoutCookie_eq_nil_iff.mpr hempty, hempty, if_true, List.map_nil]
  · simp only [if_neg (mt withoutCookie_eq_nil_iff.mp hempty), if_neg hempty, HeaderValue.fromStr,
      dif_pos hlegal, Option.toList_some, List.map_cons, List.map_nil]

theorem not_namesCookie_sessionTaken {first : HeaderValue} (hfirst : fields.head? = some first)
    (htext : first.toStr.isSome = true) {field : HeaderValue} (h : field ∈ sessionTaken fields) :
    ¬ NamesCookie SESSION_COOKIE_NAME field.bytes := by
  have hbytes := List.mem_map_of_mem (f := HeaderValue.bytes) h
  rw [map_bytes_sessionTaken hfirst htext] at hbytes
  by_cases hempty : otherCookies first.bytes SESSION_COOKIE_NAME = []
  · simp [hempty] at hbytes
  · rw [if_neg hempty, List.mem_singleton] at hbytes
    rw [hbytes]
    exact not_namesCookie_withoutCookie hempty

theorem sessionTaken_of_not_text {first : HeaderValue} (hfirst : fields.head? = some first)
    (htext : first.toStr = none) : sessionTaken fields = fields := by
  rw [sessionTaken, hfirst, Option.bind_some, htext]

end Taken

section Stripping

variable (client : ClientContext) (base : String) (websocket : Bool)

private theorem not_carriesSession_iff (headers : HeaderMap) :
    ¬ CarriesSession (prepareRequestHeaders headers client base websocket) ↔
      StripsSession headers := by
  simp only [CarriesSession, StripsSession, getAll_cookie_prepareRequestHeaders]
  by_cases hlisted : HeaderName.cookie ∈ connectionListed headers
  · simp [hlisted]
  · simp only [hlisted, if_false, false_or]
    have hget : headers.get .cookie = (headers.getAll .cookie).head? := rfl
    rw [hget]
    cases hfirst : (headers.getAll .cookie).head? with
    | none =>
        rw [List.head?_eq_none_iff] at hfirst
        simp [hfirst, sessionTaken]
    | some first =>
        cases htext : first.toStr with
        | none => simp [sessionTaken_of_not_text hfirst htext, htext]
        | some text =>
            have hsome : first.toStr.isSome = true := by rw [htext]; rfl
            simp only [Option.all_some, hsome, true_or, iff_true]
            rintro ⟨field, hmem, hnames⟩
            exact not_namesCookie_sessionTaken hfirst hsome hmem hnames

end Stripping

section TwoRequests

/-- The piece of a `Cookie` field is an entry with the session's name. -/
def IsSessionPiece (piece : Bytes) : Prop :=
  cookieName (Text.trim isSpace piece) = some SESSION_COOKIE_NAME

instance (piece : Bytes) : Decidable (IsSessionPiece piece) :=
  inferInstanceAs (Decidable (_ = _))

/-- Two `Cookie` fields that differ at most inside their session entries. -/
def SameButSession (field field' : HeaderValue) : Prop :=
  List.Forall₂ (fun piece piece' => piece = piece' ∨ (IsSessionPiece piece ∧ IsSessionPiece piece'))
    (field.bytes.splitOn SEMICOLON) (field'.bytes.splitOn SEMICOLON)

/-- Two requests that differ at most in the value of the session cookie. -/
structure DifferInSession (headers headers' : HeaderMap) : Prop where
  others : ∀ name, name ≠ .cookie → headers.getAll name = headers'.getAll name
  cookies : List.Forall₂ SameButSession (headers.getAll .cookie) (headers'.getAll .cookie)

variable {headers headers' : HeaderMap}

private theorem otherCookies_congr {pieces pieces' : List Bytes}
    (h : List.Forall₂ (fun piece piece' =>
      piece = piece' ∨ (IsSessionPiece piece ∧ IsSessionPiece piece')) pieces pieces') :
    (pieces.map (Text.trim isSpace)).filter (fun entry => decide (entry ≠ []) &&
        decide (cookieName entry ≠ some SESSION_COOKIE_NAME)) =
      (pieces'.map (Text.trim isSpace)).filter (fun entry => decide (entry ≠ []) &&
        decide (cookieName entry ≠ some SESSION_COOKIE_NAME)) := by
  induction h with
  | nil => rfl
  | cons hpiece _ ih =>
      rcases hpiece with rfl | ⟨hpiece, hpiece'⟩
      · simp only [List.map_cons, List.filter_cons, ih]
      · simp only [IsSessionPiece] at hpiece hpiece'
        simp only [List.map_cons, List.filter_cons, hpiece, hpiece', ne_eq, not_true_eq_false,
          decide_false, Bool.and_false, Bool.false_eq_true, if_false]
        exact ih

theorem SameButSession.withoutCookie {field field' : HeaderValue}
    (h : SameButSession field field') :
    withoutCookie field.bytes SESSION_COOKIE_NAME =
      withoutCookie field'.bytes SESSION_COOKIE_NAME := by
  rw [TermexoRelay.withoutCookie, TermexoRelay.withoutCookie]
  exact congrArg _ (otherCookies_congr h)

private theorem namesCookie_iff {name field : Bytes} :
    NamesCookie name field ↔
      ∃ piece ∈ field.splitOn SEMICOLON, cookieName (Text.trim isSpace piece) = some name := by
  simp [NamesCookie, cookieEntries]

private theorem eq_or_exists_of_forall₂ {α : Type*} {P : α → Prop} {l l' : List α}
    (h : List.Forall₂ (fun a b => a = b ∨ (P a ∧ P b)) l l') :
    l = l' ∨ (∃ a ∈ l, P a) ∧ ∃ b ∈ l', P b := by
  induction h with
  | nil => exact .inl rfl
  | cons hhead _ ih =>
      rcases hhead with rfl | ⟨ha, hb⟩
      · rcases ih with rfl | ⟨⟨a, hmem, ha⟩, b, hmem', hb⟩
        · exact .inl rfl
        · exact .inr ⟨⟨a, List.mem_cons_of_mem _ hmem, ha⟩, b, List.mem_cons_of_mem _ hmem', hb⟩
      · exact .inr ⟨⟨_, List.mem_cons_self, ha⟩, _, List.mem_cons_self, hb⟩

theorem SameButSession.eq_or_namesCookie {field field' : HeaderValue}
    (h : SameButSession field field') :
    field = field' ∨ NamesCookie SESSION_COOKIE_NAME field.bytes ∧
      NamesCookie SESSION_COOKIE_NAME field'.bytes := by
  rw [namesCookie_iff, namesCookie_iff]
  refine (eq_or_exists_of_forall₂ h).imp_left fun hpieces => ?_
  have hjoin : ∀ bytes : Bytes, [SEMICOLON].intercalate (bytes.splitOn SEMICOLON) = bytes :=
    fun _ => List.intercalate_splitOn SEMICOLON
  have hbytes : field.bytes = field'.bytes := by
    rw [← hjoin field.bytes, hpieces, hjoin]
  cases field
  cases field'
  simpa using hbytes

theorem DifferInSession.carriesSession (h : DifferInSession headers headers')
    (hne : headers ≠ headers') : CarriesSession headers ∧ CarriesSession headers' := by
  refine (eq_or_exists_of_forall₂
    (h.cookies.imp fun _ _ hfield => hfield.eq_or_namesCookie)).resolve_left fun hcookies => ?_
  refine hne (HeaderMap.ext fun name => ?_)
  by_cases hname : name = .cookie
  · rw [hname, hcookies]
  · exact h.others name hname

theorem DifferInSession.connectionListed (h : DifferInSession headers headers') :
    connectionListed headers = connectionListed headers' := by
  have hconnection : headers.get .connection = headers'.get .connection :=
    congrArg List.head? (h.others .connection (by decide))
  rw [TermexoRelay.connectionListed, TermexoRelay.connectionListed, hconnection]

theorem getAll_prepareRequestHeaders_of_ne (h : DifferInSession headers headers')
    (client : ClientContext) (base : String) (websocket : Bool) {name : HeaderName}
    (hname : name ≠ .cookie) :
    (prepareRequestHeaders headers client base websocket).getAll name =
      (prepareRequestHeaders headers' client base websocket).getAll name := by
  have hset : ∀ (maps maps' : HeaderMap) (key : HeaderName) (value : Bytes),
      maps.getAll name = maps'.getAll name →
      (setHeader maps key value).getAll name = (setHeader maps' key value).getAll name := by
    intro maps maps' key value hmaps
    by_cases hkey : name = key
    · rw [hkey, getAll_setHeader_self, getAll_setHeader_self]
    · rw [getAll_setHeader_of_ne hkey, getAll_setHeader_of_ne hkey, hmaps]
  have hstrip : (stripHopByHop headers websocket).getAll name =
      (stripHopByHop headers' websocket).getAll name := by
    simp only [stripHopByHop, HeaderMap.getAll_foldl_remove, h.connectionListed,
      h.others name hname]
  have htaken : (takeConsoleSession ((stripHopByHop headers websocket).remove .host)).getAll name =
      (takeConsoleSession ((stripHopByHop headers' websocket).remove .host)).getAll name := by
    rw [getAll_takeConsoleSession_of_ne hname, getAll_takeConsoleSession_of_ne hname]
    by_cases hhost : name = .host
    · rw [hhost, HeaderMap.getAll_remove_self, HeaderMap.getAll_remove_self]
    · rw [HeaderMap.getAll_remove_of_ne hhost, HeaderMap.getAll_remove_of_ne hhost, hstrip]
  unfold prepareRequestHeaders
  exact hset _ _ _ _ (hset _ _ _ _ (hset _ _ _ _ (hset _ _ _ _ htaken)))

private theorem sessionTaken_congr {fields fields' : List HeaderValue}
    (h : List.Forall₂ SameButSession fields fields')
    (htext : fields.head?.all (fun field => field.toStr.isSome) = true)
    (htext' : fields'.head?.all (fun field => field.toStr.isSome) = true) :
    sessionTaken fields = sessionTaken fields' := by
  cases h with
  | nil => rfl
  | @cons first first' _ _ hfirst _ =>
      rw [List.head?_cons, Option.all_some, Option.isSome_iff_exists] at htext htext'
      obtain ⟨text, htext⟩ := htext
      obtain ⟨text', htext'⟩ := htext'
      obtain ⟨-, rfl⟩ := HeaderValue.toStr_eq_some.mp htext
      obtain ⟨-, rfl⟩ := HeaderValue.toStr_eq_some.mp htext'
      simp only [sessionTaken, List.head?_cons, Option.bind_some, htext, htext',
        hfirst.withoutCookie]

/-- Requests that differ in the session cookie look alike to the device exactly when the session
is taken out of both. -/
private theorem prepareRequestHeaders_eq_iff (h : DifferInSession headers headers')
    (hne : headers ≠ headers') (client : ClientContext) (base : String) (websocket : Bool) :
    prepareRequestHeaders headers client base websocket =
        prepareRequestHeaders headers' client base websocket ↔
      StripsSession headers ∧ StripsSession headers' := by
  obtain ⟨hcarries, hcarries'⟩ := h.carriesSession hne
  constructor
  · intro heq
    have hboth : StripsSession headers ↔ StripsSession headers' := by
      rw [← not_carriesSession_iff client base websocket,
        ← not_carriesSession_iff client base websocket headers', heq]
    by_contra hnot
    have hkeeps : ¬ StripsSession headers := fun hs => hnot ⟨hs, hboth.mp hs⟩
    have hsent : ∀ {maps : HeaderMap}, ¬ StripsSession maps →
        (prepareRequestHeaders maps client base websocket).getAll .cookie =
          maps.getAll .cookie := by
      intro maps hmaps
      simp only [StripsSession, not_or] at hmaps
      rw [getAll_cookie_prepareRequestHeaders, if_neg hmaps.1]
      have hget : maps.get .cookie = (maps.getAll .cookie).head? := rfl
      cases hfirst : (maps.getAll .cookie).head? with
      | none => simp [hget, hfirst] at hmaps
      | some first =>
          have htext : first.toStr = none := by
            simpa [hget, hfirst] using hmaps.2.1
          exact sessionTaken_of_not_text hfirst htext
    refine hne (HeaderMap.ext fun name => ?_)
    by_cases hname : name = .cookie
    · rw [hname, ← hsent hkeeps, heq, hsent (mt hboth.mpr hkeeps)]
    · exact h.others name hname
  · rintro ⟨hs, hs'⟩
    refine HeaderMap.ext fun name => ?_
    by_cases hname : name = .cookie
    · rw [hname, getAll_cookie_prepareRequestHeaders, getAll_cookie_prepareRequestHeaders,
        h.connectionListed]
      split
      · rfl
      · next hlisted =>
          have htext := (hs.resolve_left (h.connectionListed ▸ hlisted)).resolve_right
            (not_not.mpr hcarries)
          have htext' := (hs'.resolve_left hlisted).resolve_right (not_not.mpr hcarries')
          exact sessionTaken_congr h.cookies htext htext'
    · exact getAll_prepareRequestHeaders_of_ne h client base websocket hname

end TwoRequests

/-- The session stays behind exactly when the first `Cookie` field is text (or there is nothing to
take out), and only then do requests that differ in the session alone look alike. -/
theorem prepareRequestHeaders_session (client : ClientContext) (base : String) (websocket : Bool) :
    (∀ headers, ¬ CarriesSession (prepareRequestHeaders headers client base websocket) ↔
      StripsSession headers) ∧
    ∀ headers headers', DifferInSession headers headers' → headers ≠ headers' →
      (prepareRequestHeaders headers client base websocket =
          prepareRequestHeaders headers' client base websocket ↔
        StripsSession headers ∧ StripsSession headers') :=
  ⟨fun headers => not_carriesSession_iff client base websocket headers,
    fun _ _ h hne => prepareRequestHeaders_eq_iff h hne client base websocket⟩

def originBrowser : ClientContext := ⟨"203.0.113.5", "https", "relay.example.com"⟩

def cookieRequest (field : HeaderValue) : HeaderMap := HeaderMap.empty.insert .cookie field

theorem prepareRequestHeaders_session_two_tokens :
    prepareRequestHeaders (cookieRequest ⟨utf8 "termexo_relay_session=a", by decide +kernel⟩)
        originBrowser "/d/abc/" false =
      prepareRequestHeaders (cookieRequest ⟨utf8 "termexo_relay_session=b", by decide +kernel⟩)
        originBrowser "/d/abc/" false := by
  refine ((prepareRequestHeaders_session originBrowser "/d/abc/" false).2 _ _
    ⟨fun name hname => ?_, ?_⟩ ?_).mpr (by decide)
  · rw [cookieRequest, cookieRequest, HeaderMap.getAll_insert_of_ne hname,
      HeaderMap.getAll_insert_of_ne hname]
  · exact .cons (.cons (.inr (by decide)) .nil) .nil
  · intro heq
    exact absurd (congrArg (HeaderMap.getAll .cookie) heq) (by decide)

/-- A first entry with a Latin-1 letter in it makes the whole field undecodable, and the session
in the second entry goes to the device. -/
theorem prepareRequestHeaders_carriesSession :
    ¬ ∀ (headers : HeaderMap) (client : ClientContext) (base : String) (websocket : Bool),
      ¬ CarriesSession (prepareRequestHeaders headers client base websocket) := by
  intro h
  have hstrips := (not_carriesSession_iff originBrowser "/d/abc/" false _).mp
    (h (cookieRequest ⟨utf8 "lang=" ++ [233] ++ utf8 "; termexo_relay_session=secret",
      List.all_eq_true.mp (by decide)⟩) originBrowser "/d/abc/" false)
  exact absurd hstrips (by decide)

end TermexoRelay
