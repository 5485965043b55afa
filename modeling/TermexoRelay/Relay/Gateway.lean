import TermexoRelay.Proxy.Access
import TermexoRelay.Relay.System
import TermexoRelay.Upstream.Forward

/-!
# The ways into a device's tunnel

Bytes reach a device over a browser request that the proxy forwards, plain or as a WebSocket, and
over a stream the upstream opens. Any number of these interleave with each other and with
everything else the relay does; the journal notes every piece of bytes with the policy its device
had at that moment.
-/

namespace TermexoRelay

open Transition

structure Connection where
  authority : String
  handle : TunnelHandle
  preface : StreamPreface
deriving DecidableEq, Repr

structure Outbound where
  uri : Uri
  headers : HeaderMap

def restrictedRows (db : Database) (deviceIds : List String) : List DeviceRecord :=
  (deviceIds.filterMap db.devices.find).filter fun row => row.access.requiresConsoleSession

structure Carried where
  handle : TunnelHandle
  /-- The device the stream is addressed to. -/
  target : String
  /-- The rows of the tunnel's and of the target's device that were `relay-login` then. -/
  restricted : List DeviceRecord
  /-- The browser's request, or `none` on a stream of the upstream. -/
  request : Option BrowserRequest
  check : Option SessionCheck

structure GatewayState where
  system : System
  idle : List Connection
  journal : List Carried

inductive Answer where
  | internalError (e : DatabaseError)
  | refused (refusal : Refusal)
  | offline (name : String) (lastSeenAt : Option Int)
  | unknownDevice
  | invalidPath
  | failed
  | relayed
deriving DecidableEq

/-- What happens to an open stream next. -/
inductive StreamProgress where
  | carried
  /-- The exchange is over, and the connection is kept for another one or not. -/
  | ended (kept : Bool)
  | failed
deriving DecidableEq, Repr

structure GatewayChoice where
  now : Int := 0
  fault : Fault := none
  /-- The idle connection the client takes; without one it opens a connection. -/
  idle : Option Nat := none
  opened : Except TunnelError Unit := .ok ()
  read : Except String StreamPreface := .error ""
  progress : StreamProgress := .carried

/-- `forward` and `carry` between two of their actions. -/
inductive GatewayTask where
  | received (request : BrowserRequest)
  | guarding (request : BrowserRequest) (device : Option DeviceRecord) (guard : Guard)
  | routing (request : BrowserRequest) (device : Option DeviceRecord) (check : Option SessionCheck)
  /-- The pooled client looks for a connection. -/
  | requesting (request : BrowserRequest) (device : Option DeviceRecord)
      (check : Option SessionCheck) (outbound : Outbound)
  /-- A WebSocket opens a stream of its own. -/
  | bridging (request : BrowserRequest) (device : Option DeviceRecord)
      (check : Option SessionCheck) (outbound : Outbound)
  | exchanging (request : BrowserRequest) (device : Option DeviceRecord)
      (check : Option SessionCheck) (connection : Connection) (websocket : Bool)
  | answered (answer : Answer)
  /-- A stream of the upstream, not read yet. -/
  | arriving
  | copying (handle : TunnelHandle) (forwarded : StreamPreface)
  | ended (rejection : Option StreamRejection)

namespace GatewayState

variable (config : RelayConfig) (state : GatewayState)

def database : Database := state.system.shared.database

def registry : RegistryState := state.system.shared.registry.state

def setDatabase (database : Database) : GatewayState :=
  { state with
    system := { state.system with shared := { state.system.shared with database } } }

/-- `Client::connect` and `bridge_websocket`: a stream for the device the authority names. -/
def connect (uri : Uri) (opened : Except TunnelError Unit) : Option Connection :=
  match opened with
  | .error _ => none
  | .ok () =>
      (TunnelConnector.call config.protocolVersion config.relayId state.registry uri).map
        fun (handle, preface) => ⟨uri.authority, handle, preface⟩

def record (handle : TunnelHandle) (target : String) (request : Option BrowserRequest)
    (check : Option SessionCheck) : GatewayState :=
  { state with
    journal := state.journal ++
      [⟨handle, target, restrictedRows state.database [handle.deviceId, target], request, check⟩] }

/-- The page for a device the relay cannot open a stream to right now. -/
def unreachablePage (deviceId : String) : Option DeviceRecord → Answer
  | some row => .offline row.name row.lastSeenAt
  | none =>
      match state.registry.lastKnown deviceId with
      | some known => .offline known.name (some known.lastSeenAt)
      | none => .unknownDevice

def event (label : SystemLabel) : Option GatewayState :=
  (System.step config state.system label).map fun system => { state with system }

end GatewayState

/-- The pool finds a connection by its authority, which compares without case. -/
def sameAuthority (authority authority' : String) : Bool :=
  decide (authority.toList.map Char.toLower = authority'.toList.map Char.toLower)

namespace GatewayTask

def starts : GatewayTask → Bool
  | received _ => true
  | arriving => true
  | _ => false

/-- `forward` after the guard has let the request through. -/
def dispatch (parser : UriParser) (state : GatewayState) (request : BrowserRequest)
    (device : Option DeviceRecord) (check : Option SessionCheck) : GatewayTask :=
  if state.registry.isOnline request.target.deviceId then
    match tunnelUri parser request.target.deviceId request.target.rest request.query with
    | none => .answered .invalidPath
    | some uri =>
        let websocket := isWebsocketUpgrade request.headers
        let headers :=
          prepareRequestHeaders request.headers request.client request.target.basePath websocket
        if websocket then .bridging request device check ⟨uri, headers⟩
        else .requesting request device check ⟨uri, headers⟩
  else .answered (state.unreachablePage request.target.deviceId device)

def step (config : RelayConfig) (parser : UriParser) (addressing : DeviceAddressing)
    (state : GatewayState) (choice : GatewayChoice) :
    GatewayTask → Option (GatewayState × GatewayTask)
  | received request =>
      match state.database.findDevice choice.fault request.target.deviceId with
      | .error e => some (state, .answered (.internalError e))
      | .ok device =>
          some (state, .guarding request device (Guard.start addressing request device choice.now))
  | guarding request device (.passed check) => some (state, .routing request device check)
  | guarding _ _ (.refused refusal) => some (state, .answered (.refused refusal))
  | guarding request device guard =>
      (guard.step config request state.database choice.fault).map fun (database, guard) =>
        (state.setDatabase database, .guarding request device guard)
  | routing request device check => some (state, dispatch parser state request device check)
  | requesting request device check outbound =>
      match choice.idle with
      | some index =>
          (state.idle[index]?).bind fun connection =>
            if sameAuthority connection.authority outbound.uri.authority then
              some ({ state with idle := state.idle.eraseIdx index },
                .exchanging request device check connection false)
            else none
      | none =>
          -- A new connection may be taken by another request of the same authority first.
          match state.connect config outbound.uri choice.opened with
          | some connection =>
              some ({ state with idle := connection :: state.idle },
                .requesting request device check outbound)
          | none =>
              some (state, .answered (state.unreachablePage request.target.deviceId device))
  | bridging request device check outbound =>
      match state.connect config outbound.uri choice.opened with
      | some connection => some (state, .exchanging request device check connection true)
      | none =>
          some (state, .answered (.offline ((authorityDeviceId outbound.uri).getD "") none))
  | exchanging request device check connection websocket =>
      match choice.progress with
      | .carried =>
          some (state.record connection.handle connection.preface.target (some request) check,
            .exchanging request device check connection websocket)
      | .ended kept =>
          some ({ state with
            idle := if kept && !websocket then connection :: state.idle else state.idle },
            .answered .relayed)
      | .failed => some (state, .answered .failed)
  | answered _ => none
  | arriving =>
      match carry config.maxHops config.relayId state.registry choice.read
          fun _ => choice.opened with
      | .ok (handle, forwarded) => some (state, .copying handle forwarded)
      | .error rejection => some (state, .ended (some rejection))
  | copying handle forwarded =>
      match choice.progress with
      | .carried =>
          some (state.record handle forwarded.target none none, .copying handle forwarded)
      | _ => some (state, .ended none)
  | ended _ => none

end GatewayTask

abbrev Gateway := Pool GatewayState GatewayTask
abbrev GatewayLabel := PoolLabel GatewayTask GatewayChoice SystemLabel

namespace Gateway

def step (config : RelayConfig) (parser : UriParser) (addressing : DeviceAddressing) :
    Gateway → GatewayLabel → Option Gateway :=
  poolStep (fun _ task => task.starts)
    (fun _ state task choice => task.step config parser addressing state choice)
    (GatewayState.event config)

def init (database : Database) : Gateway := ⟨⟨System.init database, [], []⟩, []⟩

/-- Bytes that are about to enter the tunnel of a device, or are addressed to a device, that is
`relay-login` by now belong to a browser request for that device, and the row the request found was
`relay-login` already. -/
def guarded (state : GatewayState) (choice : GatewayChoice) : GatewayTask → Bool
  | .exchanging request device _ connection _ =>
      decide (choice.progress ≠ .carried) ||
        (restrictedRows state.database [connection.handle.deviceId, connection.preface.target]).all
          fun row => decide (row.id = request.target.deviceId) &&
            device.any fun found => found.access.requiresConsoleSession
  | .copying handle forwarded =>
      decide (choice.progress ≠ .carried) ||
        (restrictedRows state.database [handle.deviceId, forwarded.target]).isEmpty
  | _ => true

def Guarded (p : Gateway) : GatewayLabel → Prop
  | .advance index choice => p.tasks[index]?.all (guarded p.shared choice) = true
  | .spawn _ => True
  | .environment _ => True

instance (p : Gateway) : ∀ label, Decidable (Guarded p label)
  | .advance index _ => inferInstanceAs (Decidable (p.tasks[index]?.all _ = true))
  | .spawn _ => .isTrue trivial
  | .environment _ => .isTrue trivial

def Checked (config : RelayConfig) (V : Database → Prop) (carried : Carried) (row : DeviceRecord) :
    Prop :=
  ∃ request check, carried.request = some request ∧ carried.check = some check ∧
    request.target.deviceId = row.id ∧ check.device.id = row.id ∧
    (check.user.role = .admin ∨ check.device.ownerUserId = some check.user.id) ∧
    check.Holds config V request

/-- The row a request found, and what the guard said. -/
def Passed (config : RelayConfig) (V : Database → Prop) (request : BrowserRequest)
    (device : Option DeviceRecord) (guard : Guard) : Prop :=
  (∀ row, device = some row → ∃ db, V db ∧ db.devices.find request.target.deviceId = some row) ∧
    guard.Sound config V request device

def TaskSound (config : RelayConfig) (V : Database → Prop) : GatewayTask → Prop
  | .guarding request device guard => Passed config V request device guard
  | .routing request device check => Passed config V request device (.passed check)
  | .requesting request device check _ => Passed config V request device (.passed check)
  | .bridging request device check _ => Passed config V request device (.passed check)
  | .exchanging request device check _ _ => Passed config V request device (.passed check)
  | _ => True

/-- Every piece that entered the tunnel of a `relay-login` device, or was addressed to one, was
carried for a request whose session was checked. -/
def AllChecked (config : RelayConfig) (V : Database → Prop) (state : GatewayState) : Prop :=
  ∀ carried ∈ state.journal, ∀ row ∈ carried.restricted, Checked config V carried row

section Invariant

variable {config : RelayConfig} {parser : UriParser} {addressing : DeviceAddressing}
  {V : Database → Prop} {state state' : GatewayState} {choice : GatewayChoice}
  {task task' : GatewayTask}

/-- A piece of a request was checked for the device it enters exactly when the request was for
that device and had found its row `relay-login`. -/
theorem checked_iff {request : BrowserRequest} {device : Option DeviceRecord}
    {check : Option SessionCheck} {carried : Carried} {row : DeviceRecord}
    (hpassed : Passed config V request device (.passed check))
    (hrequest : carried.request = some request) (hcheck : carried.check = check) :
    Checked config V carried row ↔ row.id = request.target.deviceId ∧
      (device.any fun found => found.access.requiresConsoleSession) = true := by
  constructor
  · rintro ⟨request', check', hrequest', hcheck', hid, -, -, -⟩
    rw [hrequest, Option.some.injEq] at hrequest'
    subst hrequest'
    rw [hcheck] at hcheck'
    subst hcheck'
    obtain ⟨hdevice, hholds⟩ := hpassed.2
    refine ⟨hid.symm, ?_⟩
    rw [hdevice, Option.any_some, DeviceAccess.requiresConsoleSession, hholds.restricted]
    rfl
  · rintro ⟨hid, hrestricted⟩
    obtain ⟨found, hfound, hrequires⟩ := (Option.any_eq_true _ _).mp hrestricted
    have hlogin : found.access = .relayLogin := of_decide_eq_true hrequires
    cases check with
    | none => exact absurd hlogin (hpassed.2 found hfound)
    | some check =>
        obtain ⟨hdevice, hholds⟩ := hpassed.2
        obtain ⟨db, -, hrow⟩ := hholds.device
        have hkey : check.device.id = request.target.deviceId := Rows.key_of_find hrow
        have hmay : check.user.role = .admin ∨ check.device.ownerUserId = some check.user.id := by
          simpa [DeviceRecord.isReachableBy, UserRole.isAdmin] using check.reachable
        exact ⟨request, check, hrequest, hcheck, hid.symm, hkey.trans hid.symm, hmay, hholds⟩

/-- What an action of a task does to what the tasks know and to the journal. -/
structure Keeps (config : RelayConfig) (V : Database → Prop) (state : GatewayState)
    (choice : GatewayChoice) (task : GatewayTask) (state' : GatewayState) (task' : GatewayTask) :
    Prop where
  sound : TaskSound config V task'
  journal : AllChecked config V state' ↔
    AllChecked config V state ∧ guarded state choice task = true

theorem Keeps.of_journal (h : TaskSound config V task') (hjournal : state'.journal = state.journal)
    (hguarded : guarded state choice task = true) :
    Keeps config V state choice task state' task' := by
  refine ⟨h, ?_⟩
  rw [AllChecked, AllChecked, hjournal, and_iff_left hguarded]

theorem Keeps.of_record {handle : TunnelHandle} {target : String}
    {request : Option BrowserRequest} {check : Option SessionCheck} (h : TaskSound config V task')
    (hguarded : guarded state choice task = true ↔
      ∀ row ∈ restrictedRows state.database [handle.deviceId, target], Checked config V
        ⟨handle, target, restrictedRows state.database [handle.deviceId, target], request, check⟩
        row) :
    Keeps config V state choice task (state.record handle target request check) task' := by
  refine ⟨h, ?_⟩
  rw [hguarded, AllChecked, AllChecked, GatewayState.record, List.forall_mem_append,
    List.forall_mem_singleton]

theorem sound_dispatch {request : BrowserRequest} {device : Option DeviceRecord}
    {check : Option SessionCheck} (h : Passed config V request device (.passed check)) :
    TaskSound config V (GatewayTask.dispatch parser state request device check) := by
  unfold GatewayTask.dispatch
  split
  · split
    · trivial
    · dsimp only
      split <;> exact h
  · trivial

theorem keeps_guarding {request : BrowserRequest} {device : Option DeviceRecord} {guard : Guard}
    (hsound : Passed config V request device guard) (hdb : V state.database)
    (h : GatewayTask.step config parser addressing state choice (.guarding request device guard) =
      some (state', task')) :
    Keeps config V state choice (.guarding request device guard) state' task' := by
  cases guard with
  | passed check =>
      cases h
      exact .of_journal hsound rfl rfl
  | refused refusal =>
      cases h
      exact .of_journal trivial rfl rfl
  | resolving row now token stage remaining =>
      obtain ⟨⟨database, guard'⟩, hstep, hnext⟩ := Option.map_eq_some_iff.mp h
      cases hnext
      exact .of_journal ⟨hsound.1, Guard.sound_step hsound.2 hsound.1 hdb hstep⟩ rfl rfl

theorem keeps_requesting {request : BrowserRequest} {device : Option DeviceRecord}
    {check : Option SessionCheck} {outbound : Outbound}
    (hsound : Passed config V request device (.passed check))
    (h : GatewayTask.step config parser addressing state choice
      (.requesting request device check outbound) = some (state', task')) :
    Keeps config V state choice (.requesting request device check outbound) state' task' := by
  simp only [GatewayTask.step] at h
  split at h
  · obtain ⟨connection, -, htaken⟩ := Option.bind_eq_some_iff.mp h
    split at htaken
    · cases htaken
      exact .of_journal hsound rfl rfl
    · cases htaken
  · split at h <;> cases h
    · exact .of_journal hsound rfl rfl
    · exact .of_journal trivial rfl rfl

theorem keeps_exchanging {request : BrowserRequest} {device : Option DeviceRecord}
    {check : Option SessionCheck} {connection : Connection} {websocket : Bool}
    (hsound : Passed config V request device (.passed check))
    (h : GatewayTask.step config parser addressing state choice
      (.exchanging request device check connection websocket) = some (state', task')) :
    Keeps config V state choice (.exchanging request device check connection websocket)
      state' task' := by
  simp only [GatewayTask.step] at h
  split at h
  · next hcarried =>
      cases h
      refine .of_record hsound ?_
      simp only [guarded, hcarried, ne_eq, not_true_eq_false, decide_false, Bool.false_or,
        List.all_eq_true, Bool.and_eq_true, decide_eq_true_eq]
      exact forall₂_congr fun row _ => (checked_iff hsound rfl rfl).symm
  · next hended =>
      cases h
      exact .of_journal trivial rfl (by simp [guarded, hended])
  · next hfailed =>
      cases h
      exact .of_journal trivial rfl (by simp [guarded, hfailed])

theorem keeps_copying {handle : TunnelHandle} {forwarded : StreamPreface}
    (h : GatewayTask.step config parser addressing state choice (.copying handle forwarded) =
      some (state', task')) :
    Keeps config V state choice (.copying handle forwarded) state' task' := by
  simp only [GatewayTask.step] at h
  split at h
  · next hcarried =>
      cases h
      refine .of_record trivial ?_
      simp only [guarded, hcarried, ne_eq, not_true_eq_false, decide_false, Bool.false_or,
        List.isEmpty_iff, List.eq_nil_iff_forall_not_mem]
      refine forall₂_congr fun row _ => iff_of_false not_false ?_
      rintro ⟨request, check, hrequest, -⟩
      cases hrequest
  · next hended =>
      have hended : choice.progress ≠ .carried := hended
      cases h
      exact .of_journal trivial rfl (by simp [guarded, hended])

theorem keeps_step (hsound : TaskSound config V task) (hdb : V state.database)
    (h : task.step config parser addressing state choice = some (state', task')) :
    Keeps config V state choice task state' task' := by
  cases task with
  | received request =>
      simp only [GatewayTask.step] at h
      split at h
      · cases h
        exact .of_journal trivial rfl rfl
      · next device hfind =>
          cases h
          obtain ⟨-, hfind⟩ := Fault.guard_eq_ok.mp hfind
          have hfind : state.database.devices.find request.target.deviceId = device :=
            Except.ok.inj hfind
          refine .of_journal ⟨fun row hrow => ⟨state.database, hdb, hfind.trans hrow⟩, ?_⟩ rfl rfl
          exact Guard.sound_start config V addressing request device choice.now
  | guarding request device guard => exact keeps_guarding hsound hdb h
  | routing request device check =>
      cases h
      exact .of_journal (sound_dispatch hsound) rfl rfl
  | requesting request device check outbound => exact keeps_requesting hsound h
  | bridging request device check outbound =>
      simp only [GatewayTask.step] at h
      split at h <;> cases h
      · exact .of_journal hsound rfl rfl
      · exact .of_journal trivial rfl rfl
  | exchanging request device check connection websocket => exact keeps_exchanging hsound h
  | answered answer => cases h
  | arriving =>
      simp only [GatewayTask.step] at h
      split at h <;> cases h <;> exact .of_journal trivial rfl rfl
  | copying handle forwarded => exact keeps_copying h
  | ended rejection => cases h

theorem pool_step {p p' : Gateway} {label : GatewayLabel} (hdb : V p.shared.database)
    (hsound : ∀ task ∈ p.tasks, TaskSound config V task)
    (h : step config parser addressing p label = some p') :
    (∀ task ∈ p'.tasks, TaskSound config V task) ∧
      (AllChecked config V p'.shared ↔ AllChecked config V p.shared ∧ Guarded p label) := by
  cases label with
  | spawn task =>
      obtain ⟨hstarts, rfl⟩ := poolStep_spawn h
      refine ⟨fun other hother => ?_, (and_iff_left trivial).symm⟩
      rcases List.mem_append.mp hother with hold | hnew
      · exact hsound other hold
      · rw [List.mem_singleton.mp hnew]
        cases task with
        | received request => trivial
        | arriving => trivial
        | _ => cases hstarts
  | advance index choice =>
      obtain ⟨task, state', task', htask, hadvance, rfl⟩ := poolStep_advance h
      have hkeeps := keeps_step (hsound task (List.mem_of_getElem? htask)) hdb hadvance
      refine ⟨forall_mem_set hsound hkeeps.sound, ?_⟩
      rw [hkeeps.journal, Guarded, htask, Option.all_some]
  | environment event =>
      obtain ⟨state', hevent, rfl⟩ := poolStep_environment h
      obtain ⟨system, -, rfl⟩ := Option.map_eq_some_iff.mp hevent
      exact ⟨hsound, (and_iff_left trivial).symm⟩

end Invariant

def databases (config : RelayConfig) (parser : UriParser) (addressing : DeviceAddressing)
    (database : Database) (labels : List GatewayLabel) (db : Database) : Prop :=
  ∃ p, Visited (step config parser addressing) (init database) labels p ∧ p.shared.database = db

/-- Whatever interleaves, nothing reaches a `relay-login` device but for a request whose console
session was checked during the run, exactly when every piece that enters its tunnel belongs to a
request for it that found it `relay-login`. -/
theorem restricted_devices_checked_iff (config : RelayConfig) (parser : UriParser)
    (addressing : DeviceAddressing) (database : Database) (labels : List GatewayLabel) (p : Gateway)
    (hrun : run (step config parser addressing) (init database) labels = some p) :
    AllChecked config (databases config parser addressing database labels) p.shared ↔
      Meets (step config parser addressing) Guarded (init database) labels := by
  set V := databases config parser addressing database labels with hV
  have hvisited : Throughout (step config parser addressing) (fun p => V p.shared.database)
      (init database) labels := fun before after m hsplit hm =>
    ⟨m, throughout_visited _ _ _ before after m hsplit hm, rfl⟩
  have hruns := holds_iff_meets (V := fun p : Gateway => V p.shared.database)
    (I := fun p => ∀ task ∈ p.tasks, TaskSound config V task)
    (P := fun p => AllChecked config V p.shared)
    (fun _ _ _ hdb hsound hstep => (pool_step hdb hsound hstep).1)
    (fun _ _ _ hdb hsound hstep => (pool_step hdb hsound hstep).2) hvisited
    (fun _ h => nomatch h) hrun
  rw [hruns, and_iff_right]
  exact fun _ h => nomatch h

def officeDatabase : Database where
  users := (Rows.empty.insert (Database.newUser "user-1" "alice" "hash" .user 0)).getD .empty
  devices := (Rows.empty.insert
    { Database.newDevice ⟨"device-a", .desktop, "desk", some "user-1", "secret", none⟩ 0 with
      access := .relayLogin }).getD .empty
  enrollmentCodes := .empty
  consoleSessions :=
    (Rows.empty.insert ⟨"token-a", "user-1", 0, SESSION_LIFETIME_MS, none⟩).getD .empty

def officeAddressing : DeviceAddressing :=
  ⟨⟨"https://relay.example.com", "relay.example.com", true, by decide, by decide⟩, none⟩

def connectOffice : List GatewayLabel :=
  (System.acceptTunnel 0 .desktop "device-a" ++ System.registerTunnel 0).map .environment

def officeRequest : BrowserRequest where
  target := ⟨"device-a", "index.html", .path⟩
  headers := HeaderMap.empty.insert .cookie
    ⟨utf8 "theme=dark; termexo_relay_session=token-a", by decide +kernel⟩
  query := none
  client := ⟨"203.0.113.7", "https", "relay.example.com"⟩

def visitOffice : List GatewayLabel :=
  connectOffice ++ [.spawn (.received officeRequest)] ++ List.replicate 7 (.advance 0 {}) ++
    [.advance 0 { idle := some 0 }, .advance 0 {}]

theorem restricted_devices_checked_owner :
    ∃ p, run (step System.plainConfig plainParser officeAddressing) (init officeDatabase)
        visitOffice = some p ∧
      p.shared.journal.map (fun carried => carried.restricted.map DeviceRecord.id) =
        [["device-a", "device-a"]] ∧
      AllChecked System.plainConfig
        (databases System.plainConfig plainParser officeAddressing officeDatabase visitOffice)
        p.shared := by
  obtain ⟨p, hrun, hjournal⟩ := exists_run (step System.plainConfig plainParser officeAddressing)
    (init officeDatabase) visitOffice
    (fun p => p.shared.journal.map (fun carried => carried.restricted.map DeviceRecord.id) =
      [["device-a", "device-a"]]) (by decide)
  exact ⟨p, hrun, hjournal, (restricted_devices_checked_iff System.plainConfig plainParser
    officeAddressing officeDatabase visitOffice p hrun).mpr (by decide)⟩

def streamToOffice : List GatewayLabel :=
  connectOffice ++ [.spawn .arriving,
    .advance 0 { read := .ok ⟨1, "device-a", ["relay-top"]⟩ }, .advance 0 {}]

/-- The stream is carried without any session. -/
theorem restricted_device_reached_from_upstream :
    ¬ ∀ (config : RelayConfig) (parser : UriParser) (addressing : DeviceAddressing)
      (database : Database) (labels : List GatewayLabel) (p : Gateway),
      run (step config parser addressing) (init database) labels = some p →
      AllChecked config (databases config parser addressing database labels) p.shared := by
  intro h
  obtain ⟨p, hrun, hjournal⟩ := exists_run (step System.plainConfig plainParser officeAddressing)
    (init { officeDatabase with consoleSessions := .empty }) streamToOffice
    (fun p => p.shared.journal.any
      (fun carried => carried.request.isNone && !carried.restricted.isEmpty) = true)
    (by decide)
  obtain ⟨carried, hcarried, hentry⟩ := List.any_eq_true.mp hjournal
  rw [Bool.and_eq_true, Option.isNone_iff_eq_none, Bool.not_eq_true'] at hentry
  obtain ⟨row, hrow⟩ := List.exists_mem_of_ne_nil _ (List.isEmpty_eq_false_iff.mp hentry.2)
  obtain ⟨request, check, hrequest, -⟩ := h _ _ _ _ _ p hrun carried hcarried row hrow
  rw [hentry.1] at hrequest
  cases hrequest

end Gateway

end TermexoRelay
