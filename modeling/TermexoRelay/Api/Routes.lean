import TermexoRelay.Relay.OwnDevices
import TermexoRelay.Relay.SessionUser
import TermexoRelay.Upstream.Fingerprints
import TermexoRelay.Upstream.Origins

/-!
# The routes of the API

Which handler a request comes to, and what it has to carry on the way: the console's marker when it
modifies something, a session, an administrator's session. The marker is asked for by the path and
the method of a request, the session by the handler that runs.
-/

namespace TermexoRelay

def HEALTH_PATH : String := "/api/health"

def ADMIN_REQUIRED : String := "需要管理员权限。"
def UNKNOWN_ENDPOINT : String := "接口不存在。"

inductive Method where
  | get
  | head
  | options
  | post
  | patch
  | delete
  | other (name : String)
deriving DecidableEq, Repr

inductive Caller where
  | anyone
  | session
  | admin
deriving DecidableEq, Repr

inductive Endpoint where
  | health
  | enroll
  | login
  | logout
  | me
  | changePassword
  | listOwn
  | updateOwn
  | revokeOwn
  | listUsers
  | createUser
  | updateUser
  | deleteUser
  | listAll
  | updateAny
  | revokeAny
  | disconnectAny
  | listEnrollments
  | createEnrollment
  | cancelEnrollment
  | listRelays
  | setUpstream
  | clearUpstream
  | listAudit
  | settings
deriving DecidableEq, Repr

namespace Endpoint

def caller : Endpoint → Caller
  | health | enroll | login => .anyone
  | logout | me | changePassword | listOwn | updateOwn | revokeOwn => .session
  | _ => .admin

/-- The handler answers without changing anything. -/
def reads : Endpoint → Bool
  | health | me | listOwn | listUsers | listAll | listEnrollments | listRelays | listAudit
  | settings => true
  | _ => false

end Endpoint

structure ApiRoute where
  path : String
  handlers : List (Method × Endpoint)
deriving DecidableEq

def routes : List ApiRoute :=
  [⟨HEALTH_PATH, [(.get, .health)]⟩,
    ⟨ENROLL_PATH, [(.post, .enroll)]⟩,
    ⟨"/api/auth/login", [(.post, .login)]⟩,
    ⟨"/api/auth/logout", [(.post, .logout)]⟩,
    ⟨"/api/me", [(.get, .me)]⟩,
    ⟨"/api/me/password", [(.post, .changePassword)]⟩,
    ⟨"/api/devices", [(.get, .listOwn)]⟩,
    ⟨"/api/devices/{id}", [(.patch, .updateOwn)]⟩,
    ⟨"/api/devices/{id}/revoke", [(.post, .revokeOwn)]⟩,
    ⟨"/api/admin/users", [(.get, .listUsers), (.post, .createUser)]⟩,
    ⟨"/api/admin/users/{id}", [(.patch, .updateUser), (.delete, .deleteUser)]⟩,
    ⟨"/api/admin/devices", [(.get, .listAll)]⟩,
    ⟨"/api/admin/devices/{id}", [(.patch, .updateAny)]⟩,
    ⟨"/api/admin/devices/{id}/revoke", [(.post, .revokeAny)]⟩,
    ⟨"/api/admin/devices/{id}/disconnect", [(.post, .disconnectAny)]⟩,
    ⟨"/api/admin/enrollments", [(.get, .listEnrollments), (.post, .createEnrollment)]⟩,
    ⟨"/api/admin/enrollments/{id}", [(.delete, .cancelEnrollment)]⟩,
    ⟨"/api/admin/relays", [(.get, .listRelays)]⟩,
    ⟨"/api/admin/relays/upstream", [(.post, .setUpstream), (.delete, .clearUpstream)]⟩,
    ⟨"/api/admin/audit", [(.get, .listAudit)]⟩,
    ⟨"/api/admin/settings", [(.get, .settings)]⟩]

namespace ApiRoute

def pattern (route : ApiRoute) : List (Option Bytes) :=
  ((utf8 route.path).splitOn 47).map fun segment =>
    if segment = utf8 "{id}" then none else some segment

/-- What the segments of a path bind. Whether an empty one is bound is up to the router. -/
def bind (bindsEmpty : Bool) : List (Option Bytes) → List Bytes → Option (List Bytes)
  | [], [] => some []
  | some literal :: pattern, segment :: segments =>
      if segment = literal then bind bindsEmpty pattern segments else none
  | none :: pattern, segment :: segments =>
      if segment = [] ∧ bindsEmpty = false then none
      else (bind bindsEmpty pattern segments).map (segment :: ·)
  | _, _ => none

/-- A `HEAD` request is answered by the handler for `GET`. -/
def handler (route : ApiRoute) (method : Method) : Option Endpoint :=
  (route.handlers.find? fun (accepted, _) =>
    accepted = if method = .head then .get else method).map Prod.snd

def lookup (bindsEmpty : String → Bool) (path : Bytes) : Option (ApiRoute × List Bytes) :=
  routes.findSome? fun route =>
    (bind (bindsEmpty route.path) route.pattern (path.splitOn 47)).map fun ids => (route, ids)

end ApiRoute

def Caller.extract (session : Option UserRecord) : Caller → Except ApiError (Option UserRecord)
  | .anyone => .ok none
  | .session =>
      match session with
      | some user => .ok (some user)
      | none => .error (.unauthorized NOT_LOGGED_IN)
  | .admin =>
      match session with
      | some user =>
          if user.role.isAdmin then .ok (some user) else .error (.forbidden ADMIN_REQUIRED)
      | none => .error (.unauthorized NOT_LOGGED_IN)

structure ApiRequest where
  method : Method
  path : Bytes
  headers : HeaderMap

inductive ApiOutcome where
  /-- A handler runs, with the ids of the path, for a caller who is signed in or does not need to
  be. -/
  | run (endpoint : Endpoint) (ids : List String) (user : Option UserRecord)
  | rejected (error : ApiError)
  | methodNotAllowed
  | invalidPath
  | elsewhere
deriving DecidableEq

namespace ApiRequest

def safeMethod (request : ApiRequest) : Bool :=
  request.method = .get || request.method = .head || request.method = .options

/-- Enrollment and health are called by the desktop app. -/
def exempt (request : ApiRequest) : Bool :=
  !(utf8 "/api/").isPrefixOf request.path || request.path = utf8 ENROLL_PATH ||
    request.path = utf8 HEALTH_PATH

def sessionTokens (request : ApiRequest) : List String :=
  (readSessionCookies ((request.headers.getAll .cookie).filterMap HeaderValue.toStr)).map asciiText

/-- The middleware, the routes and the extractors. `session` is the account the request's cookies
let in. -/
def serve (bindsEmpty : String → Bool) (session : Option UserRecord) (request : ApiRequest) :
    ApiOutcome :=
  if !request.exempt && !request.safeMethod &&
      !hasCsrfMarker (headerValue request.headers CSRF_HEADER) then
    .rejected (.forbidden CSRF_REQUIRED)
  else match ApiRoute.lookup bindsEmpty request.path with
    | none =>
        if (utf8 "/api/").isPrefixOf request.path then .rejected (.notFound UNKNOWN_ENDPOINT)
        else .elsewhere
    | some (route, ids) =>
        match route.handler request.method with
        | none => .methodNotAllowed
        | some endpoint =>
            match endpoint.caller.extract session with
            | .error e => .rejected e
            | .ok user =>
                match ids.mapM fun id => fromUtf8 (Encoding.percentDecode id) with
                | none => .invalidPath
                | some ids => .run endpoint ids user

/-- The request at a moment: the session is the first of its cookies that is in force. -/
def serveAt (bindsEmpty : String → Bool) (config : RelayConfig) (db : Database) (now : Int)
    (request : ApiRequest) : ApiOutcome :=
  request.serve bindsEmpty ((db.firstLive config now request.sessionTokens).map Prod.snd)

end ApiRequest

/-! ## Where the routes lie -/

namespace ApiRoute

variable {bindsEmpty : Bool} {pattern : List (Option Bytes)} {segments ids : List Bytes}
  {route : ApiRoute} {method : Method} {endpoint : Endpoint}

def area (route : ApiRoute) : Bytes := ((utf8 route.path).splitOn 47).getD 2 []

theorem routes_admin : ∀ route ∈ routes,
    route.pattern = [[], utf8 "api", route.area].map some ++ route.pattern.drop 3 ∧
      ∀ handler ∈ route.handlers, handler.2.caller = .admin ↔
        route.area = utf8 "admin" ∧ route.pattern.drop 3 ≠ [] := by
  decide

theorem routes_reads : ∀ route ∈ routes, ∀ handler ∈ route.handlers,
    handler.1 ≠ .head ∧ handler.1 ≠ .options ∧ (handler.1 = .get → handler.2.reads = true) := by
  decide

theorem routes_exempt : ∀ path ∈ [ENROLL_PATH, HEALTH_PATH], ∀ route ∈ routes, ∀ bindsEmpty,
    (bind bindsEmpty route.pattern ((utf8 path).splitOn 47)).isSome = true →
      ∀ handler ∈ route.handlers, handler.2.reads = true ∨ handler.2 = .enroll := by
  decide

theorem bind_literals (literals : List Bytes) :
    bind bindsEmpty (literals.map some ++ pattern) segments = some ids ↔
      ∃ rest, segments = literals ++ rest ∧ bind bindsEmpty pattern rest = some ids := by
  induction literals generalizing segments with
  | nil => simp
  | cons literal literals ih =>
      cases segments with
      | nil => simp [bind]
      | cons segment segments =>
          simp only [List.map_cons, List.cons_append, bind, List.cons.injEq]
          split
          · next h => simp [ih, h]
          · next h => simp [h]

theorem bind_cons {literal : Option Bytes} {segment : Bytes}
    (h : bind bindsEmpty (literal :: pattern) (segment :: segments) = some ids) :
    (∀ value, literal = some value → segment = value) ∧
      ∃ rest, bind bindsEmpty pattern segments = some rest := by
  cases literal with
  | some value =>
      simp only [bind] at h
      split at h
      · next hvalue => exact ⟨fun _ heq => hvalue.trans (Option.some.inj heq), ids, h⟩
      · cases h
  | none =>
      simp only [bind] at h
      split at h
      · cases h
      · obtain ⟨rest, hrest, -⟩ := Option.map_eq_some_iff.mp h
        exact ⟨fun _ heq => absurd heq (by simp), rest, hrest⟩

theorem nil_iff_of_bind (h : bind bindsEmpty pattern segments = some ids) :
    pattern = [] ↔ segments = [] := by
  cases pattern with
  | nil => cases segments <;> simp_all [bind]
  | cons literal pattern => cases segments <;> cases literal <;> simp_all [bind]

theorem mem_handlers_of_handler (h : route.handler method = some endpoint) :
    (if method = .head then .get else method, endpoint) ∈ route.handlers := by
  obtain ⟨⟨accepted, endpoint'⟩, hfind, rfl⟩ := Option.map_eq_some_iff.mp h
  have haccepted := List.find?_some hfind
  rw [decide_eq_true_eq] at haccepted
  rw [← haccepted]
  exact List.mem_of_find?_eq_some hfind

/-- Some path could be one of both routes. -/
def overlap : List (Option Bytes) → List (Option Bytes) → Bool
  | [], [] => true
  | some literal :: pattern, some literal' :: pattern' =>
      literal = literal' && overlap pattern pattern'
  | _ :: pattern, _ :: pattern' => overlap pattern pattern'
  | _, _ => false

theorem overlap_of_bind {bindsEmpty' : Bool} {pattern' : List (Option Bytes)} {ids' : List Bytes}
    (h : bind bindsEmpty pattern segments = some ids)
    (h' : bind bindsEmpty' pattern' segments = some ids') : overlap pattern pattern' = true := by
  induction segments generalizing pattern pattern' ids ids' with
  | nil =>
      obtain rfl := (nil_iff_of_bind h).mpr rfl
      obtain rfl := (nil_iff_of_bind h').mpr rfl
      rfl
  | cons segment segments ih =>
      cases pattern with
      | nil => simp [bind] at h
      | cons literal pattern =>
          cases pattern' with
          | nil => simp [bind] at h'
          | cons literal' pattern' =>
              obtain ⟨hliteral, rest, hrest⟩ := bind_cons h
              obtain ⟨hliteral', rest', hrest'⟩ := bind_cons h'
              have htail := ih hrest hrest'
              cases literal <;> cases literal' <;> simp_all [overlap]

theorem routes_apart : ∀ route ∈ routes, ∀ route' ∈ routes,
    overlap route.pattern route'.pattern = true → route = route' := by
  decide

theorem lookup_eq_some {binds : String → Bool} {path : Bytes} :
    lookup binds path = some (route, ids) ↔
      route ∈ routes ∧ bind (binds route.path) route.pattern (path.splitOn 47) = some ids := by
  constructor
  · intro h
    obtain ⟨route', hmem, hbind⟩ := List.exists_of_findSome?_eq_some h
    obtain ⟨ids', hids, heq⟩ := Option.map_eq_some_iff.mp hbind
    cases heq
    exact ⟨hmem, hids⟩
  · rintro ⟨hmem, hbind⟩
    cases hfound : lookup binds path with
    | none =>
        have hmissed := List.findSome?_eq_none_iff.mp hfound route hmem
        rw [hbind] at hmissed
        cases hmissed
    | some found =>
        obtain ⟨route', hmem', hbind'⟩ := List.exists_of_findSome?_eq_some hfound
        obtain ⟨ids', hids', rfl⟩ := Option.map_eq_some_iff.mp hbind'
        obtain rfl := routes_apart route hmem route' hmem' (overlap_of_bind hbind hids')
        rw [hbind] at hids'
        rw [Option.some.inj hids']

end ApiRoute

theorem utf8_api : utf8 "/api/" = utf8 "/api" ++ [47] ∧
    (utf8 "/api").splitOn 47 = [[], utf8 "api"] := by
  decide

theorem utf8_api_admin : utf8 "/api/admin/" = utf8 "/api/admin" ++ [47] ∧
    (utf8 "/api/admin").splitOn 47 = [[], utf8 "api", utf8 "admin"] := by
  decide

namespace ApiRequest

variable {binds : String → Bool} {session user : Option UserRecord} {request : ApiRequest}
  {endpoint : Endpoint} {ids : List String}

/-- What a request that comes to a handler has passed. -/
theorem serve_eq_run : request.serve binds session = .run endpoint ids user ↔
    (request.exempt = true ∨ request.safeMethod = true ∨
      hasCsrfMarker (headerValue request.headers CSRF_HEADER) = true) ∧
    ∃ route segments, ApiRoute.lookup binds request.path = some (route, segments) ∧
      route.handler request.method = some endpoint ∧
      endpoint.caller.extract session = .ok user ∧
      (segments.mapM fun id => fromUtf8 (Encoding.percentDecode id)) = some ids := by
  have hguard : (!request.exempt && !request.safeMethod &&
      !hasCsrfMarker (headerValue request.headers CSRF_HEADER)) = true ↔
      ¬ (request.exempt = true ∨ request.safeMethod = true ∨
        hasCsrfMarker (headerValue request.headers CSRF_HEADER) = true) := by
    simp [not_or, and_assoc]
  constructor
  · intro h
    unfold serve at h
    split at h
    · cases h
    · next hpassed =>
        refine ⟨not_not.mp (hguard.not.mp hpassed), ?_⟩
        split at h
        · split at h <;> cases h
        · next route segments hlookup =>
            split at h
            · cases h
            · next hhandler =>
                split at h
                · cases h
                · next hextract =>
                    split at h
                    · cases h
                    · next hids =>
                        cases h
                        exact ⟨route, segments, hlookup, hhandler, hextract, hids⟩
  · rintro ⟨hmarked, route, segments, hlookup, hhandler, hextract, hids⟩
    rw [serve, if_neg (hguard.not.mpr (not_not.mpr hmarked)), hlookup]
    simp only [hhandler, hextract, hids]

theorem exempt_iff (h : utf8 "/api/" <+: request.path) :
    request.exempt = true ↔ request.path = utf8 ENROLL_PATH ∨ request.path = utf8 HEALTH_PATH := by
  simp [exempt, List.isPrefixOf_iff_prefix.mpr h]

theorem safeMethod_iff : request.safeMethod = true ↔
    request.method = .get ∨ request.method = .head ∨ request.method = .options := by
  simp [safeMethod, or_assoc]

end ApiRequest

theorem Caller.extract_eq_ok {caller : Caller} {session user : Option UserRecord}
    (h : caller.extract session = .ok user) :
    (user = none ↔ caller = .anyone) ∧ (∀ account, user = some account → session = some account) ∧
      (caller = .admin → ∃ account, user = some account ∧ account.role.isAdmin = true) := by
  cases caller with
  | anyone => cases h; simp
  | session =>
      cases session with
      | none => cases h
      | some account => cases h; simp
  | admin =>
      cases session with
      | none => cases h
      | some account =>
          simp only [extract] at h
          split at h
          · next hadmin => cases h; simpa using hadmin
          · cases h

/-- Whatever runs is part of the API. If it changes anything for the console, the request carried
the console's marker; below `/api/admin/` it runs for an administrator, elsewhere for whoever it
asks for, and the account is always one that a cookie of the request lets in. -/
theorem ApiRequest.serveAt_run (binds : String → Bool) (config : RelayConfig) (db : Database)
    (now : Int) (request : ApiRequest) (endpoint : Endpoint) (ids : List String)
    (user : Option UserRecord)
    (h : request.serveAt binds config db now = .run endpoint ids user) :
    utf8 "/api/" <+: request.path ∧
    (endpoint.reads = false → endpoint ≠ .enroll →
      hasCsrfMarker (headerValue request.headers CSRF_HEADER) = true) ∧
    (utf8 "/api/admin/" <+: request.path ↔ endpoint.caller = .admin) ∧
    (endpoint.caller = .admin → ∃ account, user = some account ∧ account.role.isAdmin = true) ∧
    (user = none ↔ endpoint.caller = .anyone) ∧
    ∀ account, user = some account → ∃ token ∈ request.sessionTokens,
      db.liveUser config now token = some account := by
  obtain ⟨hmarked, route, segments, hlookup, hhandler, hextract, -⟩ := serve_eq_run.mp h
  obtain ⟨hroute, hbind⟩ := ApiRoute.lookup_eq_some.mp hlookup
  have hmem := ApiRoute.mem_handlers_of_handler hhandler
  obtain ⟨hpattern, hadmin⟩ := ApiRoute.routes_admin route hroute
  obtain ⟨rest, hsplit, hrest⟩ : ∃ rest, request.path.splitOn 47 = [[], utf8 "api", route.area] ++
      rest ∧ ApiRoute.bind (binds route.path) (route.pattern.drop 3) rest = some segments := by
    rw [hpattern] at hbind
    exact (ApiRoute.bind_literals _).mp hbind
  obtain ⟨huser, hsession, haccount⟩ := Caller.extract_eq_ok hextract
  have hpath : utf8 "/api/" <+: request.path := by
    rw [utf8_api.1, Text.prefix_iff_splitOn, utf8_api.2, hsplit]
    exact ⟨route.area :: rest, List.cons_ne_nil _ _, rfl⟩
  refine ⟨hpath, ?_, ?_, haccount, huser, ?_⟩
  · intro hchanges henroll
    rcases hmarked with hexempt | hsafe | hmarker
    · obtain ⟨path, hexempt, hvalue⟩ : ∃ path ∈ [ENROLL_PATH, HEALTH_PATH],
          request.path = utf8 path := by
        simpa using (exempt_iff hpath).mp hexempt
      rw [hvalue] at hbind
      rcases ApiRoute.routes_exempt path hexempt route hroute _ (Option.isSome_of_eq_some hbind) _
        hmem with hreads | hendpoint
      · rw [hchanges] at hreads
        cases hreads
      · exact absurd hendpoint henroll
    · obtain ⟨hhead, hoptions, hget⟩ := ApiRoute.routes_reads route hroute _ hmem
      rw [safeMethod_iff] at hsafe
      rcases hsafe with hmethod | hmethod | hmethod
      · rw [hget (by simp [hmethod])] at hchanges
        cases hchanges
      · rw [hget (by simp [hmethod])] at hchanges
        cases hchanges
      · exact absurd (by simp [hmethod]) hoptions
    · exact hmarker
  · rw [hadmin _ hmem, utf8_api_admin.1, Text.prefix_iff_splitOn, utf8_api_admin.2, hsplit,
      ne_eq, ApiRoute.nil_iff_of_bind hrest]
    simp [and_comm]
  · intro account haccount
    obtain ⟨first, hfirst, rfl⟩ := Option.map_eq_some_iff.mp (hsession account haccount)
    obtain ⟨token, htoken, hpair⟩ := List.exists_of_findSome?_eq_some hfirst
    obtain ⟨account, hlive, rfl⟩ := Option.map_eq_some_iff.mp hpair
    exact ⟨token, htoken, hlive⟩

def consoleMarker : HeaderValue :=
  ⟨utf8 CSRF_HEADER_VALUE, List.all_eq_true.mp (by decide)⟩

def revokeDesk : ApiRequest where
  method := .post
  path := utf8 "/api/admin/devices/desk/revoke"
  headers := (HeaderMap.empty.insert CSRF_HEADER consoleMarker).insert .cookie
    ⟨utf8 "termexo_relay_session=token-1; termexo_relay_session=token-2",
      List.all_eq_true.mp (by decide)⟩

theorem ApiRequest.serveAt_run_revokeDesk :
    hasCsrfMarker (headerValue revokeDesk.headers CSRF_HEADER) = true ∧
      ∃ token ∈ revokeDesk.sessionTokens,
        (signedInTwice.liveUser System.plainConfig SESSION_LIFETIME_MS token).isSome = true := by
  have hserved : revokeDesk.serveAt (fun _ => false) System.plainConfig signedInTwice
      SESSION_LIFETIME_MS = .run .revokeAny ["desk"] (signedInTwice.users.find "user-1") := by
    decide
  obtain ⟨-, hmarker, -, hadmin, -, hsession⟩ := ApiRequest.serveAt_run (fun _ => false)
    System.plainConfig signedInTwice SESSION_LIFETIME_MS revokeDesk .revokeAny ["desk"] _ hserved
  obtain ⟨account, haccount, -⟩ := hadmin rfl
  obtain ⟨token, htoken, hlive⟩ := hsession account haccount
  exact ⟨hmarker rfl (by decide), token, htoken, Option.isSome_of_eq_some hlive⟩

end TermexoRelay
