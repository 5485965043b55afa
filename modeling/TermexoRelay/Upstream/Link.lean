import TermexoRelay.Library.Interleaving
import TermexoRelay.Relay.Origins
import TermexoRelay.Relay.State
import TermexoRelay.Upstream.LoopGuard

/-!
# The upstream link of one relay

A console request joins an upstream or leaves the one there is. Either takes the lock on the running
link, cancels its supervisor and waits for it, but only for so long. A supervisor runs one session
after another until it is cancelled or gives up; cancellation drops a session where it awaits.
-/

namespace TermexoRelay

open Transition

def NO_UPSTREAM : String := "本中继没有配置上游。"
def LOOP_DETECTED : String := "上游中继链里已经包含本中继，接入会形成环路。"
def INVALID_CREDENTIAL : String := "上游中继返回的设备凭据格式不正确。"
def STORE_FAILED : String := "无法保存上游中继配置："

structure UpstreamSettings where
  url : String
  credential : String
  certificateFingerprint : Option String
deriving DecidableEq, Repr

inductive UpstreamState where
  | connecting
  | connected
  | error
deriving DecidableEq, Repr

/-- The part of the console's view that does not come from the chain. -/
structure LinkStatus where
  url : String
  state : UpstreamState
  relayId : Option String
  error : Option String
deriving DecidableEq, Repr

inductive SessionEnd where
  | revoked (reason : String)
  | refused (reason : String)
  | looped (reason : String)
  | interrupted (reason : String)
deriving DecidableEq, Repr

def SessionEnd.message : SessionEnd → String
  | revoked reason => reason
  | refused reason => reason
  | looped reason => reason
  | interrupted reason => reason

structure SessionOutcome where
  connected : Bool
  ending : SessionEnd
deriving DecidableEq, Repr

def SessionOutcome.failed (ending : SessionEnd) : SessionOutcome := ⟨false, ending⟩

/-- What the supervisor does once a session has ended; the delay of a retry is left out. -/
inductive SupervisorStep where
  | stop
  | revoked
  | looped
  | retry
deriving DecidableEq, Repr

def nextStep (outcome : SessionOutcome) : SupervisorStep :=
  match outcome.ending with
  | .revoked _ => .revoked
  | .refused _ => .stop
  | .looped _ => .looped
  | .interrupted _ => .retry

/-- One outbound link and everything it contributes. `running` names the supervisor. -/
structure UpstreamLink where
  reach : UpstreamReach
  status : Option LinkStatus
  running : Option Nat
deriving DecidableEq, Repr

namespace UpstreamLink

def new : UpstreamLink := ⟨.default, none, none⟩

def addressesFor (link : UpstreamLink) (deviceId : String) : List RelayAddress :=
  link.reach.addressesFor deviceId

def chain (link : UpstreamLink) : List String := link.reach.chain

def setConnecting (link : UpstreamLink) (url : String) : UpstreamLink :=
  { link with
    status := match link.status with
      | some existing =>
          if existing.url = url then some { existing with state := .connecting }
          else some ⟨url, .connecting, none, none⟩
      | none => some ⟨url, .connecting, none, none⟩ }

def setConnected (link : UpstreamLink) (relayId : String) : UpstreamLink :=
  { link with
    status := link.status.map fun status =>
      { status with state := .connected, relayId := some relayId, error := none } }

def setError (link : UpstreamLink) (message : String) : UpstreamLink :=
  { link with
    status := link.status.map fun status =>
      { status with state := .error, error := some message } }

def setReach (link : UpstreamLink) (reach : UpstreamReach) : UpstreamLink := { link with reach }

def clearReach (link : UpstreamLink) : UpstreamLink := link.setReach .default

def url (link : UpstreamLink) : Option String := link.status.map LinkStatus.url

section Url

variable (link : UpstreamLink)

@[simp] theorem url_setConnecting (url : String) : (link.setConnecting url).url = some url := by
  unfold UpstreamLink.url setConnecting
  cases link.status with
  | none => rfl
  | some existing =>
      by_cases h : existing.url = url
      · simp [h]
      · simp [h]

@[simp] theorem url_setConnected (relayId : String) :
    (link.setConnected relayId).url = link.url := by
  unfold url setConnected
  cases link.status <;> rfl

@[simp] theorem url_setError (message : String) : (link.setError message).url = link.url := by
  unfold url setError
  cases link.status <;> rfl

end Url

end UpstreamLink

/-- `supervise` and the session it runs, between two of their actions. -/
inductive Supervise where
  /-- The loop's `set_connecting` is next. -/
  | starting
  /-- The biased check for cancellation is next. -/
  | selecting
  /-- The socket, the `hello` and the `welcome`. -/
  | dialing
  /-- `adopt`: the reach, then the status. -/
  | adopting (welcome : Welcome)
  | announcing (welcome : Welcome)
  | pumping (welcome : Welcome)
  | withdrawing (ending : SessionEnd)
  | ended (outcome : SessionOutcome)
  /-- `forget`, once the stored settings are cleared: the reach, then the status. -/
  | forgetting
  | forgotten
  | sleeping
  | returned
deriving DecidableEq, Repr

/-- From the first action of `adopt` until the session has ended. -/
def Supervise.up : Supervise → Bool
  | announcing _ => true
  | pumping _ => true
  | withdrawing _ => true
  | _ => false

/-- The status is written in the stage, or in one that follows whatever happens. -/
def Supervise.marks : Supervise → Bool
  | starting => true
  | forgetting => true
  | forgotten => true
  | _ => false

/-- A revoked upstream's settings are cleared, and its link is not. -/
def Supervise.forgets : Supervise → Bool
  | forgetting => true
  | forgotten => true
  | _ => false

structure Supervisor where
  settings : UpstreamSettings
  cancelled : Bool
  stage : Supervise
deriving DecidableEq, Repr

/-- The part of a relay the link and its console requests share. `established` decides nothing: it
is the upstream joined last, unless it was left or its credential revoked since. -/
structure UpstreamHost where
  upstream : UpstreamLink
  /-- The lock on `running` is held. -/
  locked : Bool
  stored : Option UpstreamSettings
  established : Option UpstreamSettings
  supervisors : List Supervisor
deriving DecidableEq, Repr

/-- What a session meets while it awaits. -/
inductive SessionEvent where
  | none
  | welcomed (welcome : Welcome)
  | addressed (addresses : List RelayAddress)
  | ended (ending : SessionEnd)
  /-- Cancellation is noticed and the session is dropped. -/
  | dropped
deriving DecidableEq, Repr

structure SessionChoice where
  event : SessionEvent := .none
  fault : Bool := false
deriving DecidableEq, Repr

namespace UpstreamHost

def setUpstream (host : UpstreamHost) (upstream : UpstreamLink) : UpstreamHost :=
  { host with upstream }

/-- `settings::clear`, by the supervisor of the given settings, whose failure is only logged. -/
def forget (host : UpstreamHost) (fault : Bool) (settings : UpstreamSettings) : UpstreamHost :=
  if fault then host
  else
    { host with
      stored := none
      established := host.established.filter fun established =>
        established.credential ≠ settings.credential }

def cancel (host : UpstreamHost) (index : Nat) : UpstreamHost :=
  { host with
    supervisors := host.supervisors.modify index fun supervisor =>
      { supervisor with cancelled := true } }

end UpstreamHost

def Supervise.step (relayId : String) (host : UpstreamHost) (settings : UpstreamSettings)
    (cancelled : Bool) (choice : SessionChoice) : Supervise → Option (UpstreamHost × Supervise)
  | starting => some (host.setUpstream (host.upstream.setConnecting settings.url), .selecting)
  | selecting => some (host, if cancelled then .returned else .dialing)
  | dialing =>
      match choice.event with
      | .dropped => if cancelled then some (host, .returned) else none
      | .ended ending => some (host, .ended (.failed ending))
      | .welcomed welcome =>
          some (host,
            if refuseLoop relayId welcome then .ended (.failed (.looped LOOP_DETECTED))
            else .adopting welcome)
      | _ => none
  | adopting welcome =>
      some (host.setUpstream (host.upstream.setReach (welcome.reach welcome.addresses)),
        .announcing welcome)
  | announcing welcome =>
      some (host.setUpstream (host.upstream.setConnected welcome.relayId), .pumping welcome)
  | pumping welcome =>
      match choice.event with
      | .dropped => if cancelled then some (host, .returned) else none
      | .ended ending => some (host, .withdrawing ending)
      | .addressed addresses =>
          some (host.setUpstream (host.upstream.setReach (welcome.reach addresses)),
            .pumping welcome)
      | _ => none
  | withdrawing ending =>
      some (host.setUpstream host.upstream.clearReach, .ended ⟨true, ending⟩)
  | ended outcome =>
      let failed := host.setUpstream (host.upstream.setError outcome.ending.message)
      match nextStep outcome with
      | .revoked => some (host.forget choice.fault settings, .forgetting)
      | .looped => some (failed, .returned)
      | .stop => some (failed, .returned)
      | .retry => some (failed, .sleeping)
  | forgetting => some (host.setUpstream host.upstream.clearReach, .forgotten)
  | forgotten => some (host.setUpstream { host.upstream with status := none }, .returned)
  | sleeping => some (host, if cancelled then .returned else .starting)
  | returned => none

/-- The actions of a supervisor, one rule for each: the host before, the stage, and what they
become. -/
inductive SuperviseStep (settings : UpstreamSettings) (cancelled : Bool) (choice : SessionChoice)
    (host : UpstreamHost) : Supervise → UpstreamHost → Supervise → Prop
  | started :
      SuperviseStep settings cancelled choice host .starting
        (host.setUpstream (host.upstream.setConnecting settings.url)) .selecting
  | selected {stage : Supervise} (h : stage.marks = false) :
      SuperviseStep settings cancelled choice host .selecting host stage
  | dialed {stage : Supervise} (h : stage.marks = false) :
      SuperviseStep settings cancelled choice host .dialing host stage
  | adopted {welcome : Welcome} :
      SuperviseStep settings cancelled choice host (.adopting welcome)
        (host.setUpstream (host.upstream.setReach (welcome.reach welcome.addresses)))
        (.announcing welcome)
  | announced {welcome : Welcome} :
      SuperviseStep settings cancelled choice host (.announcing welcome)
        (host.setUpstream (host.upstream.setConnected welcome.relayId)) (.pumping welcome)
  | dropped {welcome : Welcome} (h : choice.event = .dropped) :
      SuperviseStep settings cancelled choice host (.pumping welcome) host .returned
  | addressed {welcome : Welcome} {addresses : List RelayAddress} :
      SuperviseStep settings cancelled choice host (.pumping welcome)
        (host.setUpstream (host.upstream.setReach (welcome.reach addresses))) (.pumping welcome)
  | interrupted {welcome : Welcome} {ending : SessionEnd} :
      SuperviseStep settings cancelled choice host (.pumping welcome) host (.withdrawing ending)
  | withdrawn {ending : SessionEnd} :
      SuperviseStep settings cancelled choice host (.withdrawing ending)
        (host.setUpstream host.upstream.clearReach) (.ended ⟨true, ending⟩)
  | revoked {outcome : SessionOutcome} (h : nextStep outcome = .revoked) :
      SuperviseStep settings cancelled choice host (.ended outcome)
        (host.forget choice.fault settings) .forgetting
  | failed {outcome : SessionOutcome} {stage : Supervise} (h : stage.marks = false) :
      SuperviseStep settings cancelled choice host (.ended outcome)
        (host.setUpstream (host.upstream.setError outcome.ending.message)) stage
  | forgot :
      SuperviseStep settings cancelled choice host .forgetting
        (host.setUpstream host.upstream.clearReach) .forgotten
  | cleared :
      SuperviseStep settings cancelled choice host .forgotten
        (host.setUpstream { host.upstream with status := none }) .returned
  | slept {stage : Supervise} (h : stage = .returned ∨ cancelled = false ∧ stage = .starting) :
      SuperviseStep settings cancelled choice host .sleeping host stage

theorem Supervise.step_eq_some {relayId : String} {host host' : UpstreamHost}
    {settings : UpstreamSettings} {cancelled : Bool} {choice : SessionChoice}
    {stage stage' : Supervise}
    (h : stage.step relayId host settings cancelled choice = some (host', stage')) :
    SuperviseStep settings cancelled choice host stage host' stage' := by
  cases stage with
  | starting =>
      cases h
      exact .started
  | selecting =>
      cases h
      refine .selected ?_
      cases cancelled <;> rfl
  | dialing =>
      simp only [step] at h
      split at h
      · split at h
        · cases h
          exact .dialed rfl
        · cases h
      · cases h
        exact .dialed rfl
      · next welcome _ =>
          cases h
          refine .dialed ?_
          split <;> rfl
      · cases h
  | adopting welcome =>
      cases h
      exact .adopted
  | announcing welcome =>
      cases h
      exact .announced
  | pumping welcome =>
      simp only [step] at h
      split at h
      · next hevent =>
          split at h
          · cases h
            exact .dropped hevent
          · cases h
      · cases h
        exact .interrupted
      · cases h
        exact .addressed
      · cases h
  | withdrawing ending =>
      cases h
      exact .withdrawn
  | ended outcome =>
      simp only [step] at h
      split at h
      · next hrevoked =>
          cases h
          exact .revoked hrevoked
      · cases h
        exact .failed rfl
      · cases h
        exact .failed rfl
      · cases h
        exact .failed rfl
  | forgetting =>
      cases h
      exact .forgot
  | forgotten =>
      cases h
      exact .cleared
  | sleeping =>
      cases h
      cases cancelled with
      | true => exact .slept (.inl rfl)
      | false => exact .slept (.inr ⟨rfl, rfl⟩)
  | returned => cases h

@[simp] theorem UpstreamHost.upstream_forget (host : UpstreamHost) (fault : Bool)
    (settings : UpstreamSettings) : (host.forget fault settings).upstream = host.upstream := by
  cases fault <;> rfl

/-- Why the running link is stopped: to be replaced by another one, or for good. -/
inductive StopReason where
  | start (settings : UpstreamSettings)
  | stop
deriving DecidableEq, Repr

/-- `connect` and `disconnect` between two of their actions. -/
inductive UpstreamTask where
  | finished (outcome : Except String Unit)
  /-- `join`: the code is exchanged for a credential. -/
  | joining (origin : PublicUrl) (certificateFingerprint : Option String)
  | storing (settings : UpstreamSettings)
  /-- The lock is taken next; a `disconnect` starts here. -/
  | locking (reason : StopReason)
  /-- `stop_running` waits for the supervisor it cancelled. -/
  | waiting (index : Nat) (reason : StopReason)
  | halted (reason : StopReason)
  /-- `start`: the supervisor is spawned and the lock released. -/
  | spawning (settings : UpstreamSettings)
  | viewing
  /-- `stop`: the status is reset and the lock released. -/
  | resetting
  /-- `settings::clear` of a disconnect. -/
  | clearing
deriving DecidableEq

structure UpstreamChoice where
  fault : Option String := none
  /-- `SHUTDOWN_WAIT` has passed. -/
  timeout : Bool := false
  response : Except String String := .error ""
deriving DecidableEq

/-- `parseCredential` is the other crate's check of a device credential. -/
structure LinkConfig where
  relayId : String
  parseCredential : String → Option DeviceCredential

/-- Normalizes the address and checks the credential. -/
def UpstreamSettings.build (config : LinkConfig) (url credential : String)
    (certificateFingerprint : Option String) : Except String UpstreamSettings :=
  match PublicUrl.fromStr url with
  | .error error => .error error.message
  | .ok origin =>
      let credential := Text.trimString credential
      match config.parseCredential credential with
      | none => .error INVALID_CREDENTIAL
      | some _ => .ok ⟨origin.origin, credential, certificateFingerprint⟩

namespace UpstreamTask

def starts : UpstreamTask → Bool
  | joining _ _ => true
  | locking .stop => true
  | _ => false

def hasReturned (host : UpstreamHost) (index : Nat) : Bool :=
  host.supervisors[index]?.all fun supervisor => supervisor.stage = .returned

def step (config : LinkConfig) (host : UpstreamHost) (choice : UpstreamChoice) :
    UpstreamTask → Option (UpstreamHost × UpstreamTask)
  | finished _ => none
  | joining origin certificateFingerprint =>
      match choice.response with
      | .error e => some (host, .finished (.error e))
      | .ok credential =>
          match UpstreamSettings.build config origin.origin credential
              certificateFingerprint with
          | .error e => some (host, .finished (.error e))
          | .ok settings => some (host, .storing settings)
  | storing settings =>
      match choice.fault with
      | some e => some (host, .finished (.error (STORE_FAILED ++ e)))
      | none =>
          some ({ host with stored := some settings, established := some settings },
            .locking (.start settings))
  | locking reason =>
      if host.locked then none
      else
        match host.upstream.running with
        | some index =>
            let upstream := { host.upstream with running := none }
            some ({ host.cancel index with upstream, locked := true }, .waiting index reason)
        | none => some ({ host with locked := true }, .halted reason)
  | waiting index reason =>
      if hasReturned host index || choice.timeout then some (host, .halted reason) else none
  | halted (.start settings) =>
      some (host.setUpstream (host.upstream.setConnecting settings.url), .spawning settings)
  | halted .stop => some (host.setUpstream host.upstream.clearReach, .resetting)
  | spawning settings =>
      some ({ host with
          upstream := { host.upstream with running := some host.supervisors.length }
          supervisors := host.supervisors ++ [⟨settings, false, .starting⟩]
          locked := false },
        .viewing)
  | viewing =>
      some (host, .finished (if host.upstream.status.isSome then .ok () else .error NO_UPSTREAM))
  | resetting =>
      some ({ host with
          upstream := { host.upstream with status := none }
          locked := false },
        .clearing)
  | clearing =>
      match choice.fault with
      | some e => some (host, .finished (.error e))
      | none => some ({ host with stored := none, established := none }, .finished (.ok ()))

end UpstreamTask

/-- The actions of a request, one rule for each: the host before, the request, and what they
become. -/
inductive UpstreamStep (choice : UpstreamChoice) (host : UpstreamHost) :
    UpstreamTask → UpstreamHost → UpstreamTask → Prop
  | joinFailed {origin : PublicUrl} {certificateFingerprint : Option String}
      {outcome : Except String Unit} :
      UpstreamStep choice host (.joining origin certificateFingerprint) host (.finished outcome)
  | joined {origin : PublicUrl} {certificateFingerprint : Option String}
      {settings : UpstreamSettings} :
      UpstreamStep choice host (.joining origin certificateFingerprint) host (.storing settings)
  | storeFailed {settings : UpstreamSettings} {outcome : Except String Unit}
      (h : choice.fault ≠ none) :
      UpstreamStep choice host (.storing settings) host (.finished outcome)
  | stored {settings : UpstreamSettings} :
      UpstreamStep choice host (.storing settings)
        { host with stored := some settings, established := some settings }
        (.locking (.start settings))
  | cancelling {reason : StopReason} {index : Nat} (hlock : host.locked = false)
      (hrunning : host.upstream.running = some index) :
      UpstreamStep choice host (.locking reason)
        { host.cancel index with
          upstream := { host.upstream with running := none }
          locked := true }
        (.waiting index reason)
  | unoccupied {reason : StopReason} (hlock : host.locked = false)
      (hrunning : host.upstream.running = none) :
      UpstreamStep choice host (.locking reason) { host with locked := true } (.halted reason)
  | waited {index : Nat} {reason : StopReason}
      (h : UpstreamTask.hasReturned host index = true ∨ choice.timeout = true) :
      UpstreamStep choice host (.waiting index reason) host (.halted reason)
  | connecting {settings : UpstreamSettings} :
      UpstreamStep choice host (.halted (.start settings))
        (host.setUpstream (host.upstream.setConnecting settings.url)) (.spawning settings)
  | withdrawn :
      UpstreamStep choice host (.halted .stop) (host.setUpstream host.upstream.clearReach)
        .resetting
  | spawned {settings : UpstreamSettings} :
      UpstreamStep choice host (.spawning settings)
        { host with
          upstream := { host.upstream with running := some host.supervisors.length }
          supervisors := host.supervisors ++ [⟨settings, false, .starting⟩]
          locked := false }
        .viewing
  | viewed {outcome : Except String Unit} :
      UpstreamStep choice host .viewing host (.finished outcome)
  | reset :
      UpstreamStep choice host .resetting
        { host with
          upstream := { host.upstream with status := none }
          locked := false }
        .clearing
  | clearFailed {outcome : Except String Unit} (h : choice.fault ≠ none) :
      UpstreamStep choice host .clearing host (.finished outcome)
  | cleared :
      UpstreamStep choice host .clearing { host with stored := none, established := none }
        (.finished (.ok ()))

theorem UpstreamTask.step_eq_some {config : LinkConfig} {host host' : UpstreamHost}
    {choice : UpstreamChoice} {task task' : UpstreamTask}
    (h : task.step config host choice = some (host', task')) :
    UpstreamStep choice host task host' task' := by
  cases task with
  | finished outcome => cases h
  | joining origin certificateFingerprint =>
      simp only [step] at h
      split at h
      · cases h
        exact .joinFailed
      · split at h
        · cases h
          exact .joinFailed
        · cases h
          exact .joined
  | storing settings =>
      simp only [step] at h
      split at h
      · next hfault =>
          cases h
          exact .storeFailed (Option.ne_none_iff_exists'.mpr ⟨_, hfault⟩)
      · cases h
        exact .stored
  | locking reason =>
      simp only [step] at h
      split at h
      · cases h
      · next hlock =>
          rw [Bool.not_eq_true] at hlock
          split at h
          · next hrunning =>
              cases h
              exact .cancelling hlock hrunning
          · next hrunning =>
              cases h
              exact .unoccupied hlock hrunning
  | waiting index reason =>
      simp only [step] at h
      split at h
      · next hwaited =>
          cases h
          exact .waited (Bool.or_eq_true_iff.mp hwaited)
      · cases h
  | halted reason =>
      cases reason with
      | start settings =>
          cases h
          exact .connecting
      | stop =>
          cases h
          exact .withdrawn
  | spawning settings =>
      cases h
      exact .spawned
  | viewing =>
      cases h
      exact .viewed
  | resetting =>
      cases h
      exact .reset
  | clearing =>
      simp only [step] at h
      split at h
      · next hfault =>
          cases h
          exact .clearFailed (Option.ne_none_iff_exists'.mpr ⟨_, hfault⟩)
      · cases h
        exact .cleared

section Stages

variable {host host' : UpstreamHost} (stageHas : Supervise → Bool)

def UpstreamHost.anyStage (host : UpstreamHost) : Bool :=
  host.supervisors.any fun supervisor => stageHas supervisor.stage

theorem UpstreamHost.anyStage_cancel (host : UpstreamHost) (index : Nat) :
    (host.cancel index).anyStage stageHas = host.anyStage stageHas := by
  simp only [anyStage, cancel]
  induction host.supervisors generalizing index with
  | nil => rw [List.modify_nil]
  | cons supervisor rest ih =>
      cases index with
      | zero => rfl
      | succ index => rw [List.modify_succ_cons, List.any_cons, List.any_cons, ih]

theorem UpstreamTask.step_anyStage {config : LinkConfig} {choice : UpstreamChoice}
    {task task' : UpstreamTask} (hstarting : stageHas .starting = false)
    (h : task.step config host choice = some (host', task')) :
    host'.anyStage stageHas = host.anyStage stageHas := by
  cases step_eq_some h with
  | cancelling => exact UpstreamHost.anyStage_cancel stageHas host _
  | spawned =>
      simp only [UpstreamHost.anyStage, List.any_append, List.any_cons, List.any_nil, hstarting,
        Bool.or_false]
  | _ => rfl

theorem UpstreamHost.anyStage_set (host : UpstreamHost) {supervisors : List Supervisor}
    {index : Nat} {supervisor supervisor' : Supervisor}
    (hget : supervisors[index]? = some supervisor)
    (hhost : host.supervisors = supervisors.set index supervisor') :
    host.anyStage stageHas = (stageHas supervisor'.stage ||
      (supervisors.eraseIdx index).any fun supervisor => stageHas supervisor.stage) := by
  rw [Bool.eq_iff_iff, anyStage, hhost]
  simp only [Bool.or_eq_true, List.any_eq_true]
  constructor
  · rintro ⟨other, hother, hhas⟩
    rcases mem_set_cases hother with rfl | hold
    · exact .inl hhas
    · exact .inr ⟨other, List.mem_eraseIdx_iff_getElem?.mpr hold, hhas⟩
  · rintro (hhas | ⟨other, hother, hhas⟩)
    · exact ⟨supervisor', mem_set_self hget, hhas⟩
    · exact ⟨other, mem_set_of_mem_eraseIdx supervisor' hother, hhas⟩

theorem UpstreamHost.anyStage_split (host : UpstreamHost) {index : Nat} {supervisor : Supervisor}
    (hget : host.supervisors[index]? = some supervisor) :
    host.anyStage stageHas = (stageHas supervisor.stage ||
      (host.supervisors.eraseIdx index).any fun supervisor => stageHas supervisor.stage) := by
  refine host.anyStage_set stageHas hget ?_
  obtain ⟨hlt, rfl⟩ := List.getElem?_eq_some_iff.mp hget
  exact (List.set_getElem_self hlt).symm

end Stages

/-- What happens besides the console requests: a supervisor takes an action, and a caller that
cannot await asks the link to end. -/
inductive UpstreamEvent where
  | supervise (index : Nat) (choice : SessionChoice)
  | requestStop
deriving DecidableEq, Repr

def UpstreamHost.event (config : LinkConfig) (host : UpstreamHost) :
    UpstreamEvent → Option UpstreamHost
  | .supervise index choice =>
      match host.supervisors[index]? with
      | none => none
      | some supervisor =>
          (supervisor.stage.step config.relayId host supervisor.settings supervisor.cancelled
            choice).map fun next =>
            { next.1 with
              supervisors := host.supervisors.set index { supervisor with stage := next.2 } }
  | .requestStop =>
      if host.locked then none else host.upstream.running.map host.cancel

theorem UpstreamHost.event_eq_some {config : LinkConfig} {host host' : UpstreamHost}
    {event : UpstreamEvent} (h : host.event config event = some host') :
    (∃ index choice supervisor next stage, event = .supervise index choice ∧
      host.supervisors[index]? = some supervisor ∧
      supervisor.stage.step config.relayId host supervisor.settings supervisor.cancelled choice =
        some (next, stage) ∧
      host' = { next with
        supervisors := host.supervisors.set index { supervisor with stage := stage } }) ∨
    event = .requestStop ∧ ∃ index, host' = host.cancel index := by
  cases event with
  | supervise index choice =>
      simp only [UpstreamHost.event] at h
      split at h
      · cases h
      · next supervisor hget =>
          obtain ⟨⟨next, stage⟩, hstep, rfl⟩ := Option.map_eq_some_iff.mp h
          exact .inl ⟨index, choice, supervisor, next, stage, rfl, hget, hstep, rfl⟩
  | requestStop =>
      simp only [UpstreamHost.event] at h
      split at h
      · cases h
      · obtain ⟨index, -, rfl⟩ := Option.map_eq_some_iff.mp h
        exact .inr ⟨rfl, index, rfl⟩

abbrev Linking := Pool UpstreamHost UpstreamTask
abbrev LinkingLabel := PoolLabel UpstreamTask UpstreamChoice UpstreamEvent

namespace Linking

def step (config : LinkConfig) : Linking → LinkingLabel → Option Linking :=
  poolStep (fun _ task => task.starts) (fun _ host task choice => task.step config host choice)
    (UpstreamHost.event config)

def init (stored : Option UpstreamSettings) : Linking :=
  match stored with
  | none => ⟨⟨.new, false, none, none, []⟩, []⟩
  | some settings =>
      ⟨⟨{ UpstreamLink.new.setConnecting settings.url with running := some 0 }, false, stored,
        stored, [⟨settings, false, .starting⟩]⟩, []⟩

end Linking

end TermexoRelay
