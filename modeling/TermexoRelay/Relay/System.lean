import TermexoRelay.Library.Interleaving
import TermexoRelay.Api.RequestSteps
import TermexoRelay.Tunnel.Session

/-!
# The relay as a whole

Any number of tunnel sessions and requests, each taking its actions in any order with the others
and with the writers of the tunnels.
-/

namespace TermexoRelay

open Transition

inductive Task where
  | session (s : Session)
  | request (r : Request)
deriving DecidableEq

def Task.starts : Task → Bool
  | .session s => s.starts
  | .request r => r.starts

def Task.step (config : RelayConfig) (relay : Relay) (choice : TaskChoice) :
    Task → Option (Relay × Task)
  | .session s => (s.step config relay choice).map fun next => (next.1, .session next.2)
  | .request r => (r.step config relay choice).map fun next => (next.1, .request next.2)

abbrev System := Pool Relay Task
abbrev SystemLabel := PoolLabel Task TaskChoice ChannelEvent

namespace System

def step (config : RelayConfig) : System → SystemLabel → Option System :=
  poolStep (fun _ task => task.starts) (fun _ relay task choice => task.step config relay choice)
    Relay.channelStep

def init (database : Database) : System := ⟨⟨database, .new, []⟩, []⟩

def requestAt (s : System) (index : Nat) : Option Request :=
  match s.tasks[index]? with
  | some (.request request) => some request
  | _ => none

inductive StepCases (config : RelayConfig) (s : System) : SystemLabel → System → Prop
  | spawn {task : Task} (h : task.starts = true) :
      StepCases config s (.spawn task) ⟨s.shared, s.tasks ++ [task]⟩
  | session {index : Nat} {choice : TaskChoice} {session session' : Session} {relay : Relay}
      (htask : s.tasks[index]? = some (.session session))
      (h : SessionStep config choice s.shared session relay session') :
      StepCases config s (.advance index choice)
        ⟨relay, s.tasks.set index (.session session')⟩
  | request {index : Nat} {choice : TaskChoice} {request request' : Request} {relay : Relay}
      (htask : s.tasks[index]? = some (.request request))
      (h : RequestStep config choice s.shared request relay request') :
      StepCases config s (.advance index choice)
        ⟨relay, s.tasks.set index (.request request')⟩
  | channel {event : ChannelEvent} {relay : Relay}
      (h : s.shared.channelStep event = some relay) :
      StepCases config s (.environment event) ⟨relay, s.tasks⟩

theorem step_eq_some {config : RelayConfig} {s s' : System} {label : SystemLabel}
    (h : step config s label = some s') : StepCases config s label s' := by
  cases label with
  | spawn task =>
      obtain ⟨hstarts, rfl⟩ := poolStep_spawn h
      exact .spawn hstarts
  | advance index choice =>
      obtain ⟨task, relay, task', htask, hadvance, rfl⟩ := poolStep_advance h
      cases task with
      | session session =>
          obtain ⟨⟨relay, session'⟩, hstep, heq⟩ := Option.map_eq_some_iff.mp hadvance
          cases heq
          exact .session htask (Session.step_eq_some hstep)
      | request request =>
          obtain ⟨⟨relay, request'⟩, hstep, heq⟩ := Option.map_eq_some_iff.mp hadvance
          cases heq
          exact .request htask (Request.step_eq_some hstep)
  | environment event =>
      obtain ⟨relay, hrelay, rfl⟩ := poolStep_environment h
      exact .channel hrelay

/-! ## Pieces of concrete runs -/

/-- Secrets and passwords stand for their own hashes. -/
def plainConfig : RelayConfig where
  relayId := "relay-a"
  maxHops := 8
  protocolVersion := 1
  hashSecret := id
  secretMatchesHash secret hash := secret = hash
  hashPassword := .ok
  verifyPassword password hash := password = hash

def enrollDevice (index : Nat) (kind : DeviceKind) (owner : Option String)
    (code deviceId : String) : List SystemLabel :=
  [.spawn (.request (.createEnrollment "admin" ⟨kind, owner, none, none⟩)), .advance index {},
    .advance index { identifier := some code, code := .ok code },
    .spawn (.request (.enrollWithCode code "desk")), .advance (index + 1) {},
    .advance (index + 1) { credential := some ⟨deviceId, "secret"⟩ }, .advance (index + 1) {}]

def acceptTunnel (index : Nat) (kind : DeviceKind) (deviceId : String) : List SystemLabel :=
  [.spawn (.session (.arriving (some ⟨deviceId, "secret"⟩) "203.0.113.5")), .advance index {},
    .advance index { received := .frame (.hello 1 kind "1.0" "desk" none) }]

def registerTunnel (index : Nat) : List SystemLabel :=
  [.advance index {}, .advance index {}, .advance index {}]

def announceDevice (index : Nat) (deviceId : String) : List SystemLabel :=
  [.advance index { received := .frame (.deviceOnline deviceId "desk" ["relay-b"]) },
    .advance index {}, .advance index {}]

def revokeUpToFrame (index : Nat) (deviceId : String) : List SystemLabel :=
  [.spawn (.request (.revokeDevice none deviceId)), .advance index {}, .advance index {},
    .advance index {}]

end System

end TermexoRelay
