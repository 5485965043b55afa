import TermexoRelay.Proxy.Dispatch
import TermexoRelay.Relay.Gateway

/-!
# What a device is told of its visitors, and what visitors are told of it

Over an untrusted connection, whatever headers a request carries, the device hears the same about
where it came from. And a visitor whom a `relay-login` device does not admit is answered without a
look at the registry.
-/

namespace TermexoRelay

section Forwarding

variable {headers : HeaderMap} {client : ClientContext} {base : String} {websocket : Bool}

def FORWARDING_HEADERS : List HeaderName :=
  [HEADER_FORWARDED_FOR, HEADER_FORWARDED_PROTO, HEADER_FORWARDED_HOST, HEADER_TERMEXO_BASE]

def forwardingValue (client : ClientContext) (base : String) (name : HeaderName) : String :=
  if name = HEADER_FORWARDED_FOR then client.ip
  else if name = HEADER_FORWARDED_PROTO then client.proto
  else if name = HEADER_FORWARDED_HOST then client.host
  else base

theorem getAll_prepareRequestHeaders {name : HeaderName} (h : name ∈ FORWARDING_HEADERS) :
    (prepareRequestHeaders headers client base websocket).getAll name =
      (HeaderValue.fromStr (utf8 (forwardingValue client base name))).toList := by
  have hfor_proto : HEADER_FORWARDED_FOR ≠ HEADER_FORWARDED_PROTO := by decide
  have hfor_host : HEADER_FORWARDED_FOR ≠ HEADER_FORWARDED_HOST := by decide
  have hfor_base : HEADER_FORWARDED_FOR ≠ HEADER_TERMEXO_BASE := by decide
  have hproto_host : HEADER_FORWARDED_PROTO ≠ HEADER_FORWARDED_HOST := by decide
  have hproto_base : HEADER_FORWARDED_PROTO ≠ HEADER_TERMEXO_BASE := by decide
  have hhost_base : HEADER_FORWARDED_HOST ≠ HEADER_TERMEXO_BASE := by decide
  simp only [FORWARDING_HEADERS, List.mem_cons, List.not_mem_nil, or_false] at h
  simp only [prepareRequestHeaders]
  rcases h with rfl | rfl | rfl | rfl
  · rw [getAll_setHeader_of_ne hfor_base, getAll_setHeader_of_ne hfor_host,
      getAll_setHeader_of_ne hfor_proto, getAll_setHeader_self, forwardingValue, if_pos rfl]
  · rw [getAll_setHeader_of_ne hproto_base, getAll_setHeader_of_ne hproto_host,
      getAll_setHeader_self, forwardingValue, if_neg hfor_proto.symm, if_pos rfl]
  · rw [getAll_setHeader_of_ne hhost_base, getAll_setHeader_self, forwardingValue,
      if_neg hfor_host.symm, if_neg hproto_host.symm, if_pos rfl]
  · rw [getAll_setHeader_self, forwardingValue, if_neg hfor_base.symm, if_neg hproto_base.symm,
      if_neg hhost_base.symm]

end Forwarding

theorem ForwardingSettings.resolve_untrusted {settings : ForwardingSettings} {peer : IpAddr}
    (h : settings.trusts peer = false) (headers : HeaderMap) :
    settings.resolve headers peer =
      { ip := String.ofList peer.print
        proto := scheme settings.publicUrl.secure
        host := ((headerValue headers .host).map asciiText).getD settings.publicUrl.host } := by
  simp only [ForwardingSettings.resolve, ForwardingSettings.resolveIp, h, Bool.false_eq_true,
    if_false]

namespace GatewayTask

def outbound : GatewayTask → Option Outbound
  | requesting _ _ _ outbound => some outbound
  | bridging _ _ _ outbound => some outbound
  | _ => none

theorem headers_of_dispatch {parser : UriParser} {state : GatewayState} {request : BrowserRequest}
    {device : Option DeviceRecord} {check : Option SessionCheck} {sent : Outbound}
    (h : (dispatch parser state request device check).outbound = some sent) :
    sent.headers = prepareRequestHeaders request.headers request.client request.target.basePath
      (isWebsocketUpgrade request.headers) := by
  unfold dispatch at h
  split at h
  · split at h
    · cases h
    · simp only at h
      split at h
      · cases h
        rfl
      · cases h
        rfl
  · cases h

end GatewayTask

/-- Two requests of one untrusted peer for one device, with the same `Host`: the device is given the
same forwarding headers, each at most once, and the address is the peer's. -/
theorem forwarding_headers_fixed (parser : UriParser) (settings : ForwardingSettings)
    (peer : IpAddr) (target : DeviceTarget) (request request' : IncomingRequest)
    (state state' : GatewayState) (device device' : Option DeviceRecord)
    (check check' : Option SessionCheck) (sent sent' : Outbound)
    (hpeer : settings.trusts peer = false)
    (hhost : request.headers.getAll .host = request'.headers.getAll .host)
    (hsent : (GatewayTask.dispatch parser state
      (request.forwardToDevice settings peer target) device check).outbound = some sent)
    (hsent' : (GatewayTask.dispatch parser state'
      (request'.forwardToDevice settings peer target) device' check').outbound = some sent') :
    (∀ name ∈ FORWARDING_HEADERS, sent.headers.getAll name = sent'.headers.getAll name ∧
      (sent.headers.getAll name).length ≤ 1) ∧
    (sent.headers.getAll HEADER_FORWARDED_FOR).map HeaderValue.bytes =
      [utf8 (String.ofList peer.print)] := by
  have hsame : settings.resolve request.headers peer = settings.resolve request'.headers peer := by
    rw [ForwardingSettings.resolve_untrusted hpeer, ForwardingSettings.resolve_untrusted hpeer,
      headerValue, headerValue, HeaderMap.get_eq_head?, HeaderMap.get_eq_head?, hhost]
  have hvalues : ∀ name ∈ FORWARDING_HEADERS, sent.headers.getAll name =
      (HeaderValue.fromStr (utf8 (forwardingValue (settings.resolve request.headers peer)
        target.basePath name))).toList := by
    intro name hname
    rw [GatewayTask.headers_of_dispatch hsent]
    exact getAll_prepareRequestHeaders hname
  have hvalues' : ∀ name ∈ FORWARDING_HEADERS, sent'.headers.getAll name =
      (HeaderValue.fromStr (utf8 (forwardingValue (settings.resolve request.headers peer)
        target.basePath name))).toList := by
    intro name hname
    rw [GatewayTask.headers_of_dispatch hsent', hsame]
    exact getAll_prepareRequestHeaders hname
  constructor
  · intro name hname
    refine ⟨(hvalues name hname).trans (hvalues' name hname).symm, ?_⟩
    rw [hvalues name hname]
    exact Option.length_toList_le
  · have hlegal : ∀ b ∈ utf8 (String.ofList peer.print), isFieldByte b = true :=
      fun b hb => isFieldByte_print hb
    rw [hvalues _ List.mem_cons_self, forwardingValue, if_pos rfl,
      ForwardingSettings.resolve_untrusted hpeer, HeaderValue.fromStr, dif_pos hlegal]
    rfl

/-! ## One request from arrival to answer -/

/-- Answers `/d/<deviceId>` with a redirect; an id that fits no header gets the page of an unknown
device. -/
def redirectToDirectory (deviceId : String) : Option HeaderValue :=
  HeaderValue.fromStr (utf8 (pathBase deviceId))

inductive VisitorResponse where
  | directory (location : Option HeaderValue)
  | proxied (answer : Answer)
deriving DecidableEq

/-- One action of the request: what the environment chooses for it, and what the rest of the relay
has done to the database and the registry since the action before. -/
structure Moment where
  choice : GatewayChoice
  database : Database → Database
  registry : RegistryState

/-- The two moments differ in the registry only. -/
def Moment.Agree (moment moment' : Moment) : Prop :=
  moment.choice = moment'.choice ∧ moment.database = moment'.database

namespace GatewayState

def setRegistry (registry : RegistryState) (state : GatewayState) : GatewayState :=
  { state with
    system := { state.system with
      shared := { state.system.shared with
        registry := { state.system.shared.registry with state := registry } } } }

def enter (moment : Moment) (state : GatewayState) : GatewayState :=
  (state.setDatabase (moment.database state.database)).setRegistry moment.registry

@[simp] theorem database_enter (moment : Moment) (state : GatewayState) :
    (state.enter moment).database = moment.database state.database := rfl

end GatewayState

section Visits

variable (config : RelayConfig) (parser : UriParser) (settings : ForwardingSettings)
  (routing : HostRouting)

def serve : GatewayState → GatewayTask → List Moment → Option Answer
  | _, .answered answer, _ => some answer
  | _, _, [] => none
  | state, task, moment :: moments =>
      match task.step config parser routing.addressing (state.enter moment) moment.choice with
      | some (state, task) => serve state task moments
      | none => none

/-- The databases its actions are taken in. -/
def visits : GatewayState → GatewayTask → List Moment → List Database
  | _, _, [] => []
  | state, task, moment :: moments =>
      (state.enter moment).database ::
        match task.step config parser routing.addressing (state.enter moment) moment.choice with
        | some (state, task) => visits state task moments
        | none => []

def respond (state : GatewayState) (request : IncomingRequest) (peer : IpAddr)
    (moments : List Moment) : Option VisitorResponse :=
  match request.dispatch routing with
  | .device target =>
      (serve config parser routing state (.received (request.forwardToDevice settings peer target))
        moments).map .proxied
  | .directory deviceId => some (.directory (redirectToDirectory deviceId))
  | .own => none

/-- A request that nobody's session opens the device for: at every action the device's row is
`relay-login`, and no session of the owner or of an administrator is among those it presents. -/
structure Stranger (state : GatewayState) (request : BrowserRequest) (moments : List Moment) :
    Prop where
  restricted : ∀ db ∈ visits config parser routing state (.received request) moments,
    ∃ row, db.devices.find request.target.deviceId = some row ∧ row.access = .relayLogin
  unchecked : ∀ check : SessionCheck,
    ¬ check.Holds config
      (· ∈ visits config parser routing state (.received request) moments) request

end Visits

section Strangers

variable {config : RelayConfig} {parser : UriParser} {routing : HostRouting}
  {V : Database → Prop} {request : BrowserRequest}

/-- How many more queries resolving a token may take. -/
def Resolve.rank : Resolve → Nat
  | .presented _ _ => 3
  | .account _ _ => 2
  | .dropping _ => 1
  | .extending _ _ _ => 1
  | .resolved _ => 0
  | .failed _ => 0

def Guard.rank : Guard → Nat
  | .resolving _ _ _ stage remaining => stage.rank + 1 + 4 * remaining.length
  | .passed _ => 0
  | .refused _ => 0

theorem Resolve.step_rank (config : RelayConfig) (db : Database) (fault : Fault) {stage : Resolve}
    (h : stage.rank ≠ 0) :
    ∃ db' stage', stage.step config db fault = some (db', stage') ∧ stage'.rank < stage.rank := by
  cases stage with
  | presented token now =>
      simp only [Resolve.step]
      cases db.findSession fault (config.hashSecret token) with
      | error e => exact ⟨_, _, rfl, by simp [Resolve.rank]⟩
      | ok session =>
          cases session with
          | none => exact ⟨_, _, rfl, by simp [Resolve.rank]⟩
          | some session =>
              refine ⟨_, _, rfl, ?_⟩
              split <;> simp [Resolve.rank]
  | account session now =>
      simp only [Resolve.step]
      cases db.findUser fault session.userId with
      | error e => exact ⟨_, _, rfl, by simp [Resolve.rank]⟩
      | ok user =>
          cases user with
          | none => exact ⟨_, _, rfl, by simp [Resolve.rank]⟩
          | some user =>
              refine ⟨_, _, rfl, ?_⟩
              split
              · simp [Resolve.rank]
              · split <;> simp [Resolve.rank]
  | dropping idHash =>
      simp only [Resolve.step]
      cases db.deleteSession fault idHash with
      | error e => exact ⟨_, _, rfl, by simp [Resolve.rank]⟩
      | ok database => exact ⟨_, _, rfl, by simp [Resolve.rank]⟩
  | extending idHash expiresAt user =>
      simp only [Resolve.step]
      cases db.extendSession fault idHash expiresAt with
      | error e => exact ⟨_, _, rfl, by simp [Resolve.rank]⟩
      | ok database => exact ⟨_, _, rfl, by simp [Resolve.rank]⟩
  | resolved user => exact absurd rfl h
  | failed e => exact absurd rfl h

theorem Guard.rank_next (device : DeviceRecord) (now : Int) (tokens : List String) :
    (Guard.next request device now tokens).rank ≤ 4 * tokens.length := by
  cases tokens with
  | nil => exact Nat.zero_le _
  | cons token remaining =>
      simp only [Guard.next, Guard.rank, Resolve.rank, List.length_cons]
      omega

theorem Guard.step_rank (config : RelayConfig) (request : BrowserRequest) (db : Database)
    (fault : Fault) (device : DeviceRecord) (now : Int) (token : String) (stage : Resolve)
    (remaining : List String) :
    ∃ db' guard', Guard.step config request db fault
        (.resolving device now token stage remaining) = some (db', guard') ∧
      guard'.rank < (Guard.resolving device now token stage remaining).rank := by
  by_cases hstage : stage.rank = 0
  · cases stage with
    | resolved user =>
        have hpos : 4 * remaining.length <
            (Guard.resolving device now token (.resolved user) remaining).rank := by
          rw [Guard.rank]
          omega
        cases user with
        | none => exact ⟨_, _, rfl, Nat.lt_of_le_of_lt (Guard.rank_next device now remaining) hpos⟩
        | some user =>
            refine ⟨_, _, rfl, ?_⟩
            split
            · exact Nat.lt_of_le_of_lt (Nat.zero_le _) hpos
            · exact Nat.lt_of_le_of_lt (Nat.zero_le _) hpos
    | failed e =>
        refine ⟨_, _, rfl, ?_⟩
        simp only [Guard.rank, Guard.loginRedirect]
        omega
    | _ => cases hstage
  · obtain ⟨db', stage', hstep, hrank⟩ := Resolve.step_rank config db fault hstage
    refine ⟨db', .resolving device now token stage' remaining, ?_, ?_⟩
    · cases stage with
      | resolved user => exact absurd rfl hstage
      | failed e => exact absurd rfl hstage
      | _ => simp only [Guard.step, hstep, Option.map_some]
    · simp only [Guard.rank]
      omega

/-- A request that the guard has not let through, for a `relay-login` device. -/
def Shut (config : RelayConfig) (V : Database → Prop) (request : BrowserRequest) :
    GatewayTask → Prop
  | .received request' => request' = request
  | .guarding request' device guard => request' = request ∧
      (∃ row, device = some row ∧ row.access = .relayLogin) ∧
      Gateway.Passed config V request device guard
  | .answered _ => True
  | _ => False

/-- How many more actions a request may take until it is refused. -/
def GatewayTask.rank : GatewayTask → Nat
  | .received request => 2 + 4 * request.sessionTokens.length
  | .guarding _ _ guard => 1 + guard.rank
  | _ => 0

theorem not_passed {device : Option DeviceRecord} {check : Option SessionCheck}
    (hunchecked : ∀ check : SessionCheck, ¬ check.Holds config V request)
    (hrow : ∃ row, device = some row ∧ row.access = .relayLogin)
    (hpassed : Gateway.Passed config V request device (.passed check)) : False := by
  obtain ⟨row, rfl, haccess⟩ := hrow
  cases check with
  | none => exact hpassed.2 row rfl haccess
  | some check => exact hunchecked check hpassed.2.2

theorem Guard.rank_start (addressing : DeviceAddressing) (request : BrowserRequest)
    (device : Option DeviceRecord) (now : Int) :
    (Guard.start addressing request device now).rank ≤ 4 * request.sessionTokens.length := by
  unfold Guard.start
  split
  · exact Nat.zero_le _
  · split
    · split
      · exact Nat.zero_le _
      · exact Guard.rank_next _ _ _
    · exact Nat.zero_le _

/-- One action of a stranger's request reads the database and not the registry. -/
theorem Shut.step (parser : UriParser) (routing : HostRouting) (choice : GatewayChoice)
    {task : GatewayTask} {state state' : GatewayState} (h : Shut config V request task)
    (hopen : ∀ answer, task ≠ .answered answer)
    (hunchecked : ∀ check : SessionCheck, ¬ check.Holds config V request)
    (hsame : state.database = state'.database) (hdb : V state.database)
    (hrow : ∃ row, state.database.devices.find request.target.deviceId = some row ∧
      row.access = .relayLogin) :
    ∃ next next' task',
      task.step config parser routing.addressing state choice = some (next, task') ∧
      task.step config parser routing.addressing state' choice = some (next', task') ∧
      next.database = next'.database ∧ Shut config V request task' ∧ task'.rank < task.rank := by
  cases task with
  | received request' =>
      cases h
      simp only [GatewayTask.step, hsame]
      cases hfind : state'.database.findDevice choice.fault request.target.deviceId with
      | error e =>
          refine ⟨state, state', _, rfl, rfl, hsame, trivial, ?_⟩
          simp only [GatewayTask.rank]
          omega
      | ok device =>
          obtain ⟨-, hfound⟩ := Fault.guard_eq_ok.mp hfind
          obtain ⟨row, hrow, haccess⟩ := hrow
          rw [hsame] at hrow
          have hdevice : device = some row := (Except.ok.inj hfound).symm.trans hrow
          refine ⟨state, state', _, rfl, rfl, hsame, ⟨rfl, ⟨row, hdevice, haccess⟩, ?_, ?_⟩, ?_⟩
          · intro other hother
            exact ⟨state.database, hdb, by rw [hsame, ← hother, hdevice, hrow]⟩
          · exact Guard.sound_start config V routing.addressing request device choice.now
          · have hstart := Guard.rank_start routing.addressing request device choice.now
            simp only [GatewayTask.rank]
            omega
  | guarding request' device guard =>
      obtain ⟨rfl, hdevice, hpassed⟩ := h
      cases guard with
      | passed check => exact (not_passed hunchecked hdevice hpassed).elim
      | refused refusal =>
          refine ⟨state, state', _, rfl, rfl, hsame, trivial, ?_⟩
          simp only [GatewayTask.rank]
          omega
      | resolving row now token stage remaining =>
          obtain ⟨database, guard', hstep, hrank⟩ := Guard.step_rank config request'
            state.database choice.fault row now token stage remaining
          simp only [GatewayTask.step, ← hsame, hstep, Option.map_some]
          refine ⟨_, _, _, rfl, rfl, rfl, ⟨rfl, hdevice, hpassed.1, ?_⟩, ?_⟩
          · exact Guard.sound_step hpassed.2 hpassed.1 hdb hstep
          · simp only [GatewayTask.rank]
            omega
  | answered answer => exact absurd rfl (hopen answer)
  | _ => cases h

theorem Shut.serve_eq {moments moments' : List Moment}
    (hmoments : List.Forall₂ Moment.Agree moments moments')
    (hunchecked : ∀ check : SessionCheck, ¬ check.Holds config V request)
    {task : GatewayTask} {state state' : GatewayState} (h : Shut config V request task)
    (hsame : state.database = state'.database)
    (hvisits : ∀ db ∈ visits config parser routing state task moments, V db ∧
      ∃ row, db.devices.find request.target.deviceId = some row ∧ row.access = .relayLogin) :
    serve config parser routing state task moments =
        serve config parser routing state' task moments' ∧
      (task.rank ≤ moments.length →
        (serve config parser routing state task moments).isSome = true) := by
  induction hmoments generalizing task state state' with
  | nil =>
      cases task with
      | answered answer => exact ⟨rfl, fun _ => rfl⟩
      | received request' =>
          refine ⟨rfl, fun hrank => ?_⟩
          simp [GatewayTask.rank] at hrank
      | guarding request' device guard =>
          refine ⟨rfl, fun hrank => ?_⟩
          simp [GatewayTask.rank] at hrank
      | _ => cases h
  | @cons moment moment' moments moments' hagree _ ih =>
      by_cases hanswered : ∃ answer, task = .answered answer
      · obtain ⟨answer, rfl⟩ := hanswered
        exact ⟨rfl, fun _ => rfl⟩
      · have hserve : ∀ (state : GatewayState) (moment : Moment) (moments : List Moment),
            serve config parser routing state task (moment :: moments) =
              match task.step config parser routing.addressing (state.enter moment)
                moment.choice with
              | some (state, task) => serve config parser routing state task moments
              | none => none := by
          intro state moment moments
          cases task with
          | answered answer => exact absurd ⟨answer, rfl⟩ hanswered
          | _ => rfl
        rw [visits, List.forall_mem_cons] at hvisits
        obtain ⟨⟨hdb, hrow⟩, hrest⟩ := hvisits
        have henter : (state.enter moment).database = (state'.enter moment').database := by
          rw [GatewayState.database_enter, GatewayState.database_enter, hagree.2, hsame]
        obtain ⟨next, next', task', hstep, hstep', hnext, hshut, hrank⟩ :=
          h.step parser routing moment.choice (fun answer heq => hanswered ⟨answer, heq⟩)
            hunchecked henter hdb hrow
        rw [hstep] at hrest
        rw [hserve, hserve, ← hagree.1, hstep, hstep']
        obtain ⟨heq, hsome⟩ := ih hshut hnext hrest
        refine ⟨heq, fun hlength => hsome ?_⟩
        rw [List.length_cons] at hlength
        omega

end Strangers

/-- Two relays that differ in the registry only, before the request and at every later moment,
answer a stranger's request for a `relay-login` device alike, and do answer it. -/
theorem stranger_cannot_tell_online (config : RelayConfig) (parser : UriParser)
    (settings : ForwardingSettings) (routing : HostRouting) (request : IncomingRequest)
    (peer : IpAddr) (state state' : GatewayState) (moments moments' : List Moment)
    (hstate : state.database = state'.database)
    (hmoments : List.Forall₂ Moment.Agree moments moments')
    (hstranger : ∀ target, request.dispatch routing = .device target →
      Stranger config parser routing state (request.forwardToDevice settings peer target)
        moments) :
    respond config parser settings routing state request peer moments =
        respond config parser settings routing state' request peer moments' ∧
      (request.dispatch routing ≠ .own →
        2 + 4 * (readSessionCookies
          ((request.headers.getAll .cookie).filterMap HeaderValue.toStr)).length ≤
          moments.length →
        (respond config parser settings routing state request peer moments).isSome = true) := by
  unfold respond
  cases hdispatch : request.dispatch routing with
  | own => exact ⟨rfl, fun h => absurd rfl h⟩
  | directory deviceId => exact ⟨rfl, fun _ _ => rfl⟩
  | device target =>
      have hrequest := hstranger target hdispatch
      have hshut : Shut config (· ∈ visits config parser routing state
            (.received (request.forwardToDevice settings peer target)) moments)
          (request.forwardToDevice settings peer target)
          (.received (request.forwardToDevice settings peer target)) := rfl
      obtain ⟨heq, hsome⟩ := hshut.serve_eq hmoments hrequest.unchecked hstate
        fun db hdb => ⟨hdb, hrequest.restricted db hdb⟩
      refine ⟨congrArg (Option.map VisitorResponse.proxied) heq, fun _ hlength => ?_⟩
      rw [Option.isSome_map]
      refine hsome ?_
      rwa [GatewayTask.rank, BrowserRequest.sessionTokens, List.length_map]

/-! ## Visits to one device -/

namespace Visitors

def routing : HostRouting := ⟨Gateway.officeAddressing, HostRouting.asciiLowercase, fun _ => none⟩

def settings : ForwardingSettings := ⟨true, [], Gateway.officeAddressing.publicUrl⟩

def online : RegistryState :=
  (RegistryState.empty.connectLocked "relay-a"
    ⟨"device-a", "desk", .desktop, none, none, none, ⟨"device-a", 0⟩⟩ 0 0).1

def state (registry : RegistryState) : GatewayState :=
  (Gateway.init { Gateway.officeDatabase with consoleSessions := .empty }).shared.setRegistry
    registry

def moment (registry : RegistryState) : Moment := ⟨{}, fun db => db, registry⟩

def request : IncomingRequest := ⟨.empty, none, "/d/device-a/index.html", none⟩

def target : DeviceTarget := ⟨"device-a", "index.html", .path⟩

def peer : IpAddr := .v4 0xCB007107

end Visitors

open Visitors in
theorem stranger_cannot_tell_office :
    respond System.plainConfig plainParser settings routing (state .empty) request peer
        (List.replicate 3 (moment .empty)) =
      respond System.plainConfig plainParser settings routing (state online) request peer
        (List.replicate 3 (moment online)) := by
  refine (stranger_cannot_tell_online System.plainConfig plainParser settings routing
    request peer (state .empty) (state online) _ _ rfl ?_ ?_).1
  · exact .cons ⟨rfl, rfl⟩ (.cons ⟨rfl, rfl⟩ (.cons ⟨rfl, rfl⟩ .nil))
  · intro target' htarget
    have hdispatch : request.dispatch routing = .device target := by decide
    rw [hdispatch] at htarget
    cases htarget
    refine ⟨?_, fun check hholds => ?_⟩
    · have hvisits : ∀ db ∈ visits System.plainConfig plainParser routing
          (state .empty)
          (.received (request.forwardToDevice settings peer target))
          (List.replicate 3 (moment .empty)),
          (db.devices.find "device-a").any (fun row => decide (row.access = .relayLogin)) =
            true := by
        decide
      intro db hdb
      obtain ⟨row, hrow, haccess⟩ := (Option.any_eq_true _ _).mp (hvisits db hdb)
      exact ⟨row, hrow, of_decide_eq_true haccess⟩
    · have htokens : (request.forwardToDevice settings peer target).sessionTokens = [] := by
        decide
      have hpresented := hholds.presented
      rw [htokens] at hpresented
      cases hpresented

namespace Visitors

def forged : IncomingRequest :=
  { request with
    headers := (HeaderMap.empty.insert HEADER_FORWARDED_FOR
      ⟨utf8 "10.0.0.9", by decide +kernel⟩).insert .connection
      ⟨utf8 "x-forwarded-for, x-termexo-base", by decide +kernel⟩ }

end Visitors

open Visitors in
theorem forwarding_headers_fixed_forged :
    ∃ sent sent',
      (GatewayTask.dispatch plainParser (state online)
        (request.forwardToDevice settings peer target) none none).outbound = some sent ∧
      (GatewayTask.dispatch plainParser (state online) (forged.forwardToDevice settings peer target)
        none none).outbound = some sent' ∧
      sent.headers.getAll HEADER_FORWARDED_FOR = sent'.headers.getAll HEADER_FORWARDED_FOR ∧
      (sent.headers.getAll HEADER_FORWARDED_FOR).map HeaderValue.bytes = [utf8 "203.0.113.7"] := by
  obtain ⟨sent, hsent⟩ := Option.isSome_iff_exists.mp
    (by decide : (GatewayTask.dispatch plainParser (state online)
      (request.forwardToDevice settings peer target) none none).outbound.isSome = true)
  obtain ⟨sent', hsent'⟩ := Option.isSome_iff_exists.mp
    (by decide : (GatewayTask.dispatch plainParser (state online)
      (forged.forwardToDevice settings peer target) none none).outbound.isSome = true)
  have hhost : request.headers.getAll .host = forged.headers.getAll .host := by decide
  obtain ⟨hsame, haddress⟩ := forwarding_headers_fixed plainParser settings peer target request
    forged (state online) (state online) none none none none sent sent' rfl hhost hsent hsent'
  refine ⟨sent, sent', hsent, hsent', (hsame _ List.mem_cons_self).1, ?_⟩
  rw [haddress]
  decide

end TermexoRelay
