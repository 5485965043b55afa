import TermexoRelay.Api.Routes
import TermexoRelay.Library.Urls

/-!
# The calls of the console

Every call the console makes, on its way through the browser to the handler it is meant for. An id
is escaped into one segment of the path; the browser resolves the segments that stand for
directories before it sends anything.
-/

namespace TermexoRelay

def API_BASE : String := "/api/"

/-- What JavaScript's `encodeURIComponent` leaves as it is. -/
def isUriComponentByte (b : UInt8) : Bool :=
  (65 ≤ b && b ≤ 90) || (97 ≤ b && b ≤ 122) || (48 ≤ b && b ≤ 57) || b ∈ utf8 "-_.!~*'()"

def encodeURIComponent (text : String) : Bytes :=
  Encoding.percentEncode isUriComponentByte (utf8 text)

/-- The calls of `ConsoleApiService`, without what goes into the body or the query. -/
inductive ConsoleCall where
  | health
  | signIn
  | signOut
  | me
  | changeOwnPassword
  | listUsers
  | createUser
  | updateUser (id : String)
  | deleteUser (id : String)
  | listAllDevices
  | listOwnDevices
  | updateDevice (id : String) (asAdmin : Bool)
  | revokeDevice (id : String) (asAdmin : Bool)
  | disconnectDevice (id : String)
  | listEnrollments
  | createEnrollment
  | cancelEnrollment (id : String)
  | relayTopology
  | connectUpstream
  | disconnectUpstream
  | listAudit
  | relaySettings
deriving DecidableEq, Repr

/-- A method and a path below the base: the text in front of the id, and the id with what follows
it. -/
structure CallSite where
  method : Method
  before : String
  id : Option (String × String)

namespace CallSite

def plain (method : Method) (path : String) : CallSite := ⟨method, path, none⟩

def path (site : CallSite) : Bytes :=
  utf8 (API_BASE ++ site.before) ++
    site.id.elim [] fun (id, after) => encodeURIComponent id ++ utf8 after

end CallSite

namespace ConsoleCall

def site : ConsoleCall → CallSite
  | health => .plain .get "health"
  | signIn => .plain .post "auth/login"
  | signOut => .plain .post "auth/logout"
  | me => .plain .get "me"
  | changeOwnPassword => .plain .post "me/password"
  | listUsers => .plain .get "admin/users"
  | createUser => .plain .post "admin/users"
  | updateUser id => ⟨.patch, "admin/users/", some (id, "")⟩
  | deleteUser id => ⟨.delete, "admin/users/", some (id, "")⟩
  | listAllDevices => .plain .get "admin/devices"
  | listOwnDevices => .plain .get "devices"
  | updateDevice id asAdmin =>
      ⟨.patch, if asAdmin then "admin/devices/" else "devices/", some (id, "")⟩
  | revokeDevice id asAdmin =>
      ⟨.post, if asAdmin then "admin/devices/" else "devices/", some (id, "/revoke")⟩
  | disconnectDevice id => ⟨.post, "admin/devices/", some (id, "/disconnect")⟩
  | listEnrollments => .plain .get "admin/enrollments"
  | createEnrollment => .plain .post "admin/enrollments"
  | cancelEnrollment id => ⟨.delete, "admin/enrollments/", some (id, "")⟩
  | relayTopology => .plain .get "admin/relays"
  | connectUpstream => .plain .post "admin/relays/upstream"
  | disconnectUpstream => .plain .delete "admin/relays/upstream"
  | listAudit => .plain .get "admin/audit"
  | relaySettings => .plain .get "admin/settings"

/-- The handler a call is meant for. -/
def endpoint : ConsoleCall → Endpoint
  | health => .health
  | signIn => .login
  | signOut => .logout
  | me => .me
  | changeOwnPassword => .changePassword
  | listUsers => .listUsers
  | createUser => .createUser
  | updateUser _ => .updateUser
  | deleteUser _ => .deleteUser
  | listAllDevices => .listAll
  | listOwnDevices => .listOwn
  | updateDevice _ asAdmin => if asAdmin then .updateAny else .updateOwn
  | revokeDevice _ asAdmin => if asAdmin then .revokeAny else .revokeOwn
  | disconnectDevice _ => .disconnectAny
  | listEnrollments => .listEnrollments
  | createEnrollment => .createEnrollment
  | cancelEnrollment _ => .cancelEnrollment
  | relayTopology => .listRelays
  | connectUpstream => .setUpstream
  | disconnectUpstream => .clearUpstream
  | listAudit => .listAudit
  | relaySettings => .settings

def ids (call : ConsoleCall) : List String := call.site.id.toList.map Prod.fst

/-- What the relay receives of a call: the interceptor has marked it and the browser has resolved
its path. `headers` are the browser's own, its cookies among them. -/
def sent (headers : HeaderMap) (call : ConsoleCall) : ApiRequest where
  method := call.site.method
  path := Url.resolvePath call.site.path
  headers :=
    if call.site.method = .get ∨ call.site.method = .head ∨ call.site.method = .options then headers
    else headers.insert CSRF_HEADER consoleMarker

end ConsoleCall

/-! ## An id as a segment -/

section Segment

variable {id : String}

theorem isUriComponentByte_eq (b : UInt8) :
    isUriComponentByte b = ((65 ≤ b && b ≤ 90) || (97 ≤ b && b ≤ 122) || (48 ≤ b && b ≤ 57) ||
      b ∈ ([45, 95, 46, 33, 126, 42, 39, 40, 41] : Bytes)) := by
  have hmarks : utf8 "-_.!~*'()" = [45, 95, 46, 33, 126, 42, 39, 40, 41] := by decide
  rw [isUriComponentByte, hmarks]

theorem percentDecode_encodeURIComponent (id : String) :
    Encoding.percentDecode (encodeURIComponent id) = utf8 id :=
  Encoding.percentDecode_percentEncode (by rw [isUriComponentByte_eq]; decide) _

theorem slash_not_mem_encodeURIComponent : 47 ∉ encodeURIComponent id := by
  intro h
  rcases Encoding.mem_percentEncode_cases h with hb | hb | ⟨value, hvalue, hb⟩
  · rw [isUriComponentByte_eq] at hb
    exact absurd hb (by decide)
  · exact absurd hb (by decide)
  · have hdigits : ∀ n < 16, (47 : UInt8) ≠ Encoding.hexDigit (UInt8.ofNat n) := by decide
    exact Encoding.forall_hexDigit (P := fun b => (47 : UInt8) ≠ b) hdigits hvalue hb

theorem utf8_eq_iff {s t : String} : utf8 s = utf8 t ↔ s = t := utf8_injective.eq_iff

theorem eq_utf8_of_fromUtf8 {bytes : Bytes} {text : String} (h : fromUtf8 bytes = some text) :
    bytes = utf8 text := by
  rw [fromUtf8, String.fromUTF8?] at h
  split at h
  · cases h
    rfl
  · cases h

theorem eq_nil_of_percentDecode {bytes : Bytes} (h : Encoding.percentDecode bytes = []) :
    bytes = [] := by
  unfold Encoding.percentDecode at h
  split at h
  · split at h <;> cases h
  · cases h
  · rfl

theorem ne_dots_of_decoded {segment : Bytes} (hplain : Url.isDots segment = false)
    (h : fromUtf8 (Encoding.percentDecode segment) = some id) : id ≠ "." ∧ id ≠ ".." := by
  have hone : ([46] : Bytes) = utf8 "." := by decide
  have htwo : ([46, 46] : Bytes) = utf8 ".." := by decide
  have hbytes := eq_utf8_of_fromUtf8 h
  simp only [Url.isDots, Url.isSingleDot, Url.isDoubleDot, hbytes, Bool.or_eq_false_iff,
    decide_eq_false_iff_not] at hplain
  rwa [htwo, hone, utf8_eq_iff, utf8_eq_iff] at hplain

theorem isDots_encodeURIComponent :
    Url.isDots (encodeURIComponent id) = true ↔ id = "." ∨ id = ".." := by
  have hone : ([46] : Bytes) = utf8 "." := by decide
  have htwo : ([46, 46] : Bytes) = utf8 ".." := by decide
  simp only [Url.isDots, Url.isSingleDot, Url.isDoubleDot, percentDecode_encodeURIComponent,
    Bool.or_eq_true, decide_eq_true_eq]
  rw [htwo, hone, utf8_eq_iff, utf8_eq_iff]

end Segment

/-! ## Where a call is made -/

namespace ApiRoute

variable {bindsEmpty : Bool} {pattern : List (Option Bytes)} {segments ids : List Bytes}

theorem routes_plain : ∀ route ∈ routes, ∀ segment ∈ route.pattern,
    segment.all (fun literal => !Url.isDots literal) = true := by
  decide

theorem routes_handlers : ∀ route ∈ routes, ∀ route' ∈ routes, ∀ handler ∈ route.handlers,
    handler.2 ∈ route'.handlers.map Prod.snd → route = route' := by
  decide

theorem mem_of_bind (h : bind bindsEmpty pattern segments = some ids) :
    ∀ id ∈ ids, id ∈ segments ∧ (id = [] → bindsEmpty = true) := by
  induction pattern generalizing segments ids with
  | nil => cases segments <;> simp_all [bind]
  | cons literal pattern ih =>
      cases segments with
      | nil => cases literal <;> simp [bind] at h
      | cons segment segments =>
          cases literal with
          | some value =>
              simp only [bind] at h
              split at h
              · exact fun id hid => (ih h id hid).imp_left (List.mem_cons_of_mem _)
              · cases h
          | none =>
              simp only [bind] at h
              split at h
              · cases h
              · next hbinds =>
                  obtain ⟨rest, hrest, rfl⟩ := Option.map_eq_some_iff.mp h
                  intro id hid
                  rcases List.mem_cons.mp hid with rfl | hid
                  · refine ⟨List.mem_cons_self, fun hempty => ?_⟩
                    rw [← Bool.not_eq_false]
                    exact fun hno => hbinds ⟨hempty, hno⟩
                  · exact (ih hrest id hid).imp_left (List.mem_cons_of_mem _)

theorem bind_ids (literals : List Bytes) (h : ∀ id ∈ ids, id = [] → bindsEmpty = true) :
    bind bindsEmpty ((ids.map fun _ => none) ++ literals.map some) (ids ++ literals) =
      some ids := by
  induction ids with
  | nil =>
      have hliterals : bind bindsEmpty (literals.map some ++ []) literals = some [] :=
        (bind_literals literals).mpr ⟨[], (List.append_nil _).symm, rfl⟩
      rwa [List.append_nil] at hliterals
  | cons id ids ih =>
      obtain ⟨hid, hids⟩ := List.forall_mem_cons.mp h
      have hbinds : ¬ (id = [] ∧ bindsEmpty = false) := fun hno => by
        rw [hid hno.1] at hno
        cases hno.2
      simp only [List.map_cons, List.cons_append, bind]
      rw [if_neg hbinds, ih hids, Option.map_some]

end ApiRoute

/-- Where a call finds its handler: its path is the pattern of a route with the id filled in. -/
structure ConsoleCall.Placed (call : ConsoleCall) (route : ApiRoute) : Prop where
  mem : route ∈ routes
  handler : route.handler call.site.method = some call.endpoint
  filled : ∃ first last : List Bytes,
    route.pattern = first.map some ++ ((call.ids.map fun _ => none) ++ last.map some) ∧
      call.site.path.splitOn 47 = first ++ (call.ids.map encodeURIComponent ++ last)

namespace ConsoleCall

variable {call : ConsoleCall} {method : Method}

theorem placed_plain {path : String} (hsite : call.site = .plain method path)
    (h : ∃ route ∈ routes, route.handler method = some call.endpoint ∧
      route.pattern = ((utf8 (API_BASE ++ path)).splitOn 47).map some) :
    ∃ route, call.Placed route := by
  obtain ⟨route, hmem, hhandler, hpattern⟩ := h
  refine ⟨route, hmem, by rw [hsite]; exact hhandler, (utf8 (API_BASE ++ path)).splitOn 47, [], ?_⟩
  simp [hpattern, ids, hsite, CallSite.plain, CallSite.path]

theorem placed_id {id before after : String} (endpoint : Endpoint) (first : String)
    (last : List Bytes) (hendpoint : call.endpoint = endpoint)
    (hsite : call.site = ⟨method, before, some (id, after)⟩)
    (hbefore : utf8 (API_BASE ++ before) = utf8 first ++ [47])
    (hafter : (utf8 after).splitOn 47 = [] :: last)
    (h : ∃ route ∈ routes, route.handler method = some endpoint ∧
      route.pattern = ((utf8 first).splitOn 47).map some ++ none :: last.map some) :
    ∃ route, call.Placed route := by
  obtain ⟨route, hmem, hhandler, hpattern⟩ := h
  refine ⟨route, hmem, by rw [hsite, hendpoint]; exact hhandler, (utf8 first).splitOn 47, last,
    ?_, ?_⟩
  · simp [hpattern, ids, hsite]
  · have hpath : call.site.path = utf8 first ++ 47 :: (encodeURIComponent id ++ utf8 after) := by
      simp [hsite, CallSite.path, hbefore]
    rw [hpath, List.splitOn_append_cons_self,
      Text.splitOn_append_left slash_not_mem_encodeURIComponent, hafter]
    simp [ids, hsite]

theorem exists_placed (call : ConsoleCall) : ∃ route, call.Placed route := by
  cases call with
  | updateUser id =>
      exact placed_id .updateUser "/api/admin/users" [] rfl rfl (by decide)
        rfl (by decide)
  | deleteUser id =>
      exact placed_id .deleteUser "/api/admin/users" [] rfl rfl (by decide)
        rfl (by decide)
  | updateDevice id asAdmin =>
      cases asAdmin with
      | true =>
          exact placed_id .updateAny "/api/admin/devices" [] rfl rfl (by decide)
            rfl (by decide)
      | false =>
          exact placed_id .updateOwn "/api/devices" [] rfl rfl (by decide)
            rfl (by decide)
  | revokeDevice id asAdmin =>
      cases asAdmin with
      | true =>
          exact placed_id .revokeAny "/api/admin/devices" [utf8 "revoke"] rfl rfl
            (by decide) (by decide) (by decide)
      | false =>
          exact placed_id .revokeOwn "/api/devices" [utf8 "revoke"] rfl rfl (by decide)
            (by decide) (by decide)
  | disconnectDevice id =>
      exact placed_id .disconnectAny "/api/admin/devices" [utf8 "disconnect"] rfl rfl
        (by decide) (by decide) (by decide)
  | cancelEnrollment id =>
      exact placed_id .cancelEnrollment "/api/admin/enrollments" [] rfl rfl (by decide)
        rfl (by decide)
  | _ => exact placed_plain rfl (by decide)

/-- The browser sends a call where it was made, unless its id is made of dots. -/
theorem resolvePath_site {route : ApiRoute} (hplaced : call.Placed route)
    (h : ∀ id ∈ call.ids, id ≠ "." ∧ id ≠ "..") :
    Url.resolvePath call.site.path = call.site.path := by
  obtain ⟨rest, hpath⟩ : ∃ rest, call.site.path = 47 :: rest := by
    have hbase : utf8 API_BASE = 47 :: utf8 "api/" := by decide
    refine ⟨utf8 "api/" ++ utf8 call.site.before ++
      call.site.id.elim [] fun (id, after) => encodeURIComponent id ++ utf8 after, ?_⟩
    rw [CallSite.path, utf8_append, hbase]
    rfl
  obtain ⟨first, last, hpattern, hsplit⟩ := hplaced.filled
  rw [hpath]
  apply Url.resolvePath_of_plain
  intro segment hsegment
  have hmem : segment ∈ call.site.path.splitOn 47 := by
    rw [hpath, Text.splitOn_cons, if_pos rfl]
    exact List.mem_cons_of_mem _ hsegment
  have hliteral : ∀ literal, some literal ∈ route.pattern → Url.isDots literal = false := by
    intro literal hliteral
    simpa using ApiRoute.routes_plain route hplaced.mem _ hliteral
  rw [hsplit] at hmem
  simp only [List.mem_append, List.mem_map] at hmem
  rcases hmem with hmem | ⟨id, hid, rfl⟩ | hmem
  · apply hliteral
    simp [hpattern, hmem]
  · rw [← Bool.not_eq_true, isDots_encodeURIComponent, not_or]
    exact h id hid
  · apply hliteral
    simp [hpattern, hmem]

theorem mapM_encodeURIComponent (ids : List String) :
    ((ids.map encodeURIComponent).mapM fun id => fromUtf8 (Encoding.percentDecode id)) =
      some ids := by
  induction ids with
  | nil => rfl
  | cons id ids ih =>
      simp [ih, percentDecode_encodeURIComponent, fromUtf8_utf8]

theorem exists_of_mem_mapM {α β : Type} {f : α → Option β} {xs : List α} {ys : List β}
    (h : xs.mapM f = some ys) : ∀ y ∈ ys, ∃ x ∈ xs, f x = some y := by
  induction xs generalizing ys with
  | nil =>
      cases h
      simp
  | cons x xs ih =>
      rw [List.mapM_cons] at h
      obtain ⟨y, hy, h⟩ := Option.bind_eq_some_iff.mp h
      obtain ⟨rest, hrest, h⟩ := Option.bind_eq_some_iff.mp h
      cases h
      intro z hz
      rcases List.mem_cons.mp hz with rfl | hz
      · exact ⟨x, List.mem_cons_self, hy⟩
      · obtain ⟨w, hw, hz⟩ := ih hrest z hz
        exact ⟨w, List.mem_cons_of_mem _ hw, hz⟩

theorem sent_marked (headers : HeaderMap) (call : ConsoleCall) :
    (call.sent headers).safeMethod = true ∨
      hasCsrfMarker (headerValue (call.sent headers).headers CSRF_HEADER) = true := by
  by_cases hsafe : call.site.method = .get ∨ call.site.method = .head ∨
      call.site.method = .options
  · exact .inl (ApiRequest.safeMethod_iff.mpr hsafe)
  · right
    have hvalue : headerValue (call.sent headers).headers CSRF_HEADER =
        some (utf8 CSRF_HEADER_VALUE) := by
      rw [sent, if_neg hsafe, headerValue, HeaderMap.get_eq_head?, HeaderMap.getAll_insert_self]
      decide
    rw [hvalue]
    decide

/-- A call runs the handler it is meant for, with the id it was made with, exactly when the caller
may and the id is not one a browser takes for a directory. An empty id arrives where the router
binds empty segments. -/
theorem arrives_iff (binds : String → Bool) (session : Option UserRecord) (headers : HeaderMap)
    (call : ConsoleCall) :
    (∃ user, (call.sent headers).serve binds session = .run call.endpoint call.ids user) ↔
      (∃ user, call.endpoint.caller.extract session = .ok user) ∧
      ∀ id ∈ call.ids, id ≠ "." ∧ id ≠ ".." ∧ (id = "" → ∃ route ∈ routes,
        binds route.path = true ∧ call.endpoint ∈ route.handlers.map Prod.snd) := by
  constructor
  · rintro ⟨user, h⟩
    obtain ⟨-, route, segments, hlookup, hhandler, hextract, hids⟩ := ApiRequest.serve_eq_run.mp h
    refine ⟨⟨user, hextract⟩, fun id hid => ?_⟩
    obtain ⟨hroute, hbind⟩ := ApiRoute.lookup_eq_some.mp hlookup
    obtain ⟨segment, hsegment, hdecoded⟩ : ∃ segment ∈ segments,
        fromUtf8 (Encoding.percentDecode segment) = some id := exists_of_mem_mapM hids id hid
    obtain ⟨hpath, hempty⟩ := ApiRoute.mem_of_bind hbind segment hsegment
    obtain ⟨hone, htwo⟩ :=
      ne_dots_of_decoded (Url.not_isDots_of_mem_resolvePath hpath) hdecoded
    refine ⟨hone, htwo, fun hid => ⟨route, hroute, hempty ?_, ?_⟩⟩
    · rw [hid] at hdecoded
      exact eq_nil_of_percentDecode (eq_utf8_of_fromUtf8 hdecoded)
    · exact List.mem_map_of_mem (ApiRoute.mem_handlers_of_handler hhandler)
  · rintro ⟨⟨user, hextract⟩, hids⟩
    obtain ⟨route, hplaced⟩ := exists_placed call
    refine ⟨user, ApiRequest.serve_eq_run.mpr ⟨.inr (sent_marked headers call), route,
      call.ids.map encodeURIComponent, ?_, hplaced.handler, hextract, mapM_encodeURIComponent _⟩⟩
    obtain ⟨first, last, hpattern, hsplit⟩ := hplaced.filled
    rw [ApiRoute.lookup_eq_some]
    refine ⟨hplaced.mem, ?_⟩
    rw [sent, resolvePath_site hplaced fun id hid => ⟨(hids id hid).1, (hids id hid).2.1⟩, hsplit,
      hpattern, ApiRoute.bind_literals]
    refine ⟨_, rfl, ?_⟩
    have hempty : ∀ segment ∈ call.ids.map encodeURIComponent, segment = [] →
        binds route.path = true := by
      intro segment hsegment hempty
      obtain ⟨id, hid, rfl⟩ := List.mem_map.mp hsegment
      have hbytes := percentDecode_encodeURIComponent id
      rw [hempty] at hbytes
      have hid' : id = "" := utf8_injective hbytes.symm
      obtain ⟨route', hmem', hbinds, hendpoint⟩ := (hids id hid).2.2 hid'
      rw [ApiRoute.routes_handlers route hplaced.mem route' hmem' _
        (ApiRoute.mem_handlers_of_handler hplaced.handler) hendpoint]
      exact hbinds
    have hfilled := ApiRoute.bind_ids last hempty
    rwa [List.map_map] at hfilled

end ConsoleCall

end TermexoRelay
