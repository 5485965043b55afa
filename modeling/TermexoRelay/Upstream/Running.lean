import TermexoRelay.Upstream.Link

/-!
# One link at a time

A start or a stop takes the lock, tells the running supervisor to end and waits for it. What it has
given up waiting for has been told to end, and writes the status at most before the request does.
-/

namespace TermexoRelay

open Transition

namespace UpstreamTask

def holds : UpstreamTask → Bool
  | waiting _ _ => true
  | halted _ => true
  | spawning _ => true
  | resetting => true
  | _ => false

def waitsFor (index : Nat) : UpstreamTask → Bool
  | waiting other _ => decide (other = index)
  | _ => false

/-- The request has the lock, waits no more and has the status still to write. -/
def marksNext : UpstreamTask → Bool
  | halted _ => true
  | resetting => true
  | _ => false

/-- `set_connecting` of a start, or the reset of a stop. -/
def marks : UpstreamTask → Bool
  | halted (.start _) => true
  | resetting => true
  | _ => false

end UpstreamTask

namespace Linking

/-- Supervisor `index` is the running one, or a request waits for it. -/
def attached (p : Linking) (index : Nat) : Bool :=
  decide (p.shared.upstream.running = some index) || p.tasks.any (UpstreamTask.waitsFor index)

def marksNext (p : Linking) : Bool := p.tasks.any UpstreamTask.marksNext

/-- A supervisor nobody waits for has returned, or has been told to end and writes the status only
while a request `marks` it after that. -/
def Released (marks : Bool) (supervisor : Supervisor) : Prop :=
  supervisor.stage = .returned ∨
    supervisor.cancelled = true ∧ (supervisor.stage.marks = true → marks = true)

structure OneAtATime (p : Linking) : Prop where
  mutex : Mutex UpstreamTask.holds p.shared.locked p.tasks
  running : p.shared.locked = true → p.shared.upstream.running = none
  waited : ∀ index supervisor, p.shared.supervisors[index]? = some supervisor →
    p.tasks.any (UpstreamTask.waitsFor index) = true → supervisor.cancelled = true
  released : ∀ index supervisor, p.shared.supervisors[index]? = some supervisor →
    p.attached index = false → Released p.marksNext supervisor

theorem getElem?_cancel {host : UpstreamHost} {index i : Nat} {supervisor : Supervisor}
    (h : (host.cancel index).supervisors[i]? = some supervisor) :
    ∃ before, host.supervisors[i]? = some before ∧ supervisor.settings = before.settings ∧
      supervisor.stage = before.stage ∧ (before.cancelled = true → supervisor.cancelled = true) ∧
      (i = index → supervisor.cancelled = true) := by
  rw [UpstreamHost.cancel, List.getElem?_modify] at h
  obtain ⟨before, hbefore, rfl⟩ := Option.map_eq_some_iff.mp h
  refine ⟨before, hbefore, ?_⟩
  by_cases hindex : index = i
  · simp [hindex]
  · simp [hindex, Ne.symm hindex]

theorem getElem?_cancel_of {host : UpstreamHost} {index i : Nat} {supervisor : Supervisor}
    (h : host.supervisors[i]? = some supervisor) :
    (host.cancel index).supervisors[i]? = some
      (if index = i then { supervisor with cancelled := true } else supervisor) := by
  rw [UpstreamHost.cancel, List.getElem?_modify, h]
  by_cases hindex : index = i
  · simp [hindex]
  · simp [hindex]

theorem Released.of_cancel {marks : Bool} {supervisor before : Supervisor}
    (h : Released marks before) (hstage : supervisor.stage = before.stage)
    (hcancelled : before.cancelled = true → supervisor.cancelled = true) :
    Released marks supervisor := by
  rw [Released, hstage]
  exact h.imp_right fun hended => ⟨hcancelled hended.1, hended.2⟩

theorem Released.imp {marks marks' : Bool} {supervisor : Supervisor} (h : Released marks supervisor)
    (hmarks : supervisor.stage.marks = true → marks = true → marks' = true) :
    Released marks' supervisor :=
  h.imp_right fun hended => ⟨hended.1, fun hstage => hmarks hstage (hended.2 hstage)⟩

section Attached

variable {config : LinkConfig} {p p' : Linking} {index : Nat}

theorem attached_iff : p.attached index = true ↔
    p.shared.upstream.running = some index ∨
      ∃ reason, .waiting index reason ∈ p.tasks := by
  simp only [attached, Bool.or_eq_true, decide_eq_true_eq, List.any_eq_true]
  refine or_congr_right ⟨fun ⟨task, htask, hwaits⟩ => ?_, fun ⟨reason, htask⟩ => ?_⟩
  · cases task with
    | waiting other reason =>
        obtain rfl : other = index := of_decide_eq_true hwaits
        exact ⟨reason, htask⟩
    | _ => cases hwaits
  · exact ⟨_, htask, decide_eq_true rfl⟩

theorem OneAtATime.attached_unique (h : OneAtATime p) {other : Nat}
    (hindex : p.attached index = true) (hother : p.attached other = true) : index = other := by
  have hlocked : ∀ {i : Nat} {reason : StopReason}, .waiting i reason ∈ p.tasks →
      p.shared.upstream.running = none := by
    intro i reason hmem
    obtain ⟨j, hj⟩ := List.mem_iff_getElem?.mp hmem
    exact h.running (h.mutex.locked_of_holds hj rfl)
  rcases attached_iff.mp hindex with hrunning | ⟨reason, hmem⟩
  · rcases attached_iff.mp hother with hrunning' | ⟨reason', hmem'⟩
    · exact Option.some.inj (hrunning.symm.trans hrunning')
    · rw [hlocked hmem'] at hrunning
      cases hrunning
  · rcases attached_iff.mp hother with hrunning' | ⟨reason', hmem'⟩
    · rw [hlocked hmem] at hrunning'
      cases hrunning'
    · obtain ⟨i, hi⟩ := List.mem_iff_getElem?.mp hmem
      obtain ⟨j, hj⟩ := List.mem_iff_getElem?.mp hmem'
      obtain rfl : i = j := h.mutex.unique i j _ _ hi hj rfl rfl
      rw [hi] at hj
      cases hj
      rfl

theorem OneAtATime.not_attached (h : OneAtATime p) {i : Nat} {task : UpstreamTask}
    (htask : p.tasks[i]? = some task) (hholds : task.holds = true)
    (hwaits : ∀ index, task.waitsFor index = false) (index : Nat) : p.attached index = false := by
  rw [← Bool.not_eq_true, attached_iff]
  rintro (hrunning | ⟨reason, hmem⟩)
  · rw [h.running (h.mutex.locked_of_holds htask hholds)] at hrunning
    cases hrunning
  · obtain ⟨j, hj⟩ := List.mem_iff_getElem?.mp hmem
    obtain rfl : i = j := h.mutex.unique i j _ _ htask hj hholds rfl
    obtain rfl : task = .waiting index reason := Option.some.inj (htask.symm.trans hj)
    have hself := hwaits index
    rw [UpstreamTask.waitsFor, decide_eq_false_iff_not] at hself
    exact hself rfl

variable {task' : UpstreamTask} {host : UpstreamHost} {i : Nat}

theorem attached_set_of_eq {task : UpstreamTask} (htask : p.tasks[index]? = some task)
    (hrunning : host.upstream.running = p.shared.upstream.running)
    (hwaits : ∀ i, task'.waitsFor i = task.waitsFor i) :
    attached ⟨host, p.tasks.set index task'⟩ i = p.attached i := by
  simp only [attached, hrunning, any_set_of_eq _ _ htask (hwaits i)]

theorem OneAtATime.attached_cancelling (h : OneAtATime p) {reason : StopReason} {running : Nat}
    (htask : p.tasks[index]? = some (.locking reason)) (hlock : p.shared.locked = false)
    (hrunning : p.shared.upstream.running = some running)
    (hnone : host.upstream.running = none) :
    attached ⟨host, p.tasks.set index (.waiting running reason)⟩ i = p.attached i := by
  have hmutex := h.mutex
  rw [hlock] at hmutex
  rw [Bool.eq_iff_iff, attached_iff, attached_iff]
  simp only [hnone, hrunning, Option.some.injEq, reduceCtorEq, false_or]
  constructor
  · intro ⟨reason', hmem⟩
    rcases mem_set_cases hmem with hself | ⟨j, _, hj⟩
    · cases hself
      exact .inl rfl
    · have hfree := hmutex.not_holds (List.mem_of_getElem? hj)
      cases hfree
  · rintro (rfl | ⟨reason', hmem⟩)
    · exact ⟨reason, mem_set_self htask⟩
    · have hfree := hmutex.not_holds hmem
      cases hfree

theorem attached_of_waited {reason : StopReason}
    (h : attached ⟨p.shared, p.tasks.set index (.halted reason)⟩ i = true) :
    p.attached i = true := by
  rw [attached_iff] at h ⊢
  refine h.imp_right fun ⟨reason', hmem⟩ => ?_
  rcases mem_set_cases hmem with hself | ⟨j, _, hj⟩
  · cases hself
  · exact ⟨reason', List.mem_of_getElem? hj⟩

theorem OneAtATime.attached_spawned (h : OneAtATime p) {settings : UpstreamSettings} {running : Nat}
    (htask : p.tasks[index]? = some (.spawning settings))
    (hrunning : host.upstream.running = some running) :
    attached ⟨host, p.tasks.set index .viewing⟩ i = decide (running = i) := by
  have hdetached : p.attached i = false := h.not_attached htask rfl (fun _ => rfl) i
  have hsame := any_set_of_eq (UpstreamTask.waitsFor i) .viewing htask rfl
  simp only [attached, hrunning, hsame, Option.some.injEq]
  rw [(Bool.or_eq_false_iff.mp hdetached).2, Bool.or_false]

end Attached

section Steps

variable {config : LinkConfig} {p p' : Linking} {index : Nat} {task task' : UpstreamTask}
  {host : UpstreamHost}

theorem OneAtATime.move (h : OneAtATime p) (htask : p.tasks[index]? = some task)
    (hlocked : host.locked = p.shared.locked)
    (hrunning : host.upstream.running = p.shared.upstream.running)
    (hsupervisors : host.supervisors = p.shared.supervisors)
    (hholds : task'.holds = task.holds) (hwaits : ∀ i, task'.waitsFor i = task.waitsFor i)
    (hmarks : p.shared.anyStage Supervise.marks = true → task.marksNext = true →
      task'.marksNext = true) :
    OneAtATime ⟨host, p.tasks.set index task'⟩ := by
  have hany : ∀ i, (p.tasks.set index task').any (UpstreamTask.waitsFor i) =
      p.tasks.any (UpstreamTask.waitsFor i) := fun i => any_set_of_eq _ _ htask (hwaits i)
  constructor
  · simpa only [hlocked] using h.mutex.keep htask hholds
  · simpa only [hlocked, hrunning] using h.running
  · simpa only [hsupervisors, hany] using h.waited
  · simp only [hsupervisors, attached, hrunning, hany]
    intro i supervisor hget hdetached
    refine (h.released i supervisor hget hdetached).imp fun hstage hnext => ?_
    have hsome : p.shared.anyStage Supervise.marks = true :=
      List.any_eq_true.mpr ⟨supervisor, List.mem_of_getElem? hget, hstage⟩
    rw [marksNext, List.any_eq_true] at hnext ⊢
    exact exists_mem_set task' htask hnext (hmarks hsome)

theorem oneAtATime_of_idle (hlocked : host.locked = false)
    (hrunning : ∀ (i : Nat) supervisor, host.supervisors[i]? = some supervisor →
      host.upstream.running = some i) : OneAtATime ⟨host, []⟩ := by
  constructor
  · constructor
    · intro i j t t' hi
      cases hi
    · exact hlocked
  · intro htaken
    exact absurd htaken (by simp [hlocked])
  · intro i supervisor _ hwaits
    cases hwaits
  · intro i supervisor hget hdetached
    simp [attached, hrunning i supervisor hget] at hdetached

theorem marksNext_append (hmarks : task.marksNext = false) :
    marksNext ⟨p.shared, p.tasks ++ [task]⟩ = p.marksNext := by
  simp [marksNext, hmarks]

theorem attached_append (hwaits : ∀ i, task.waitsFor i = false) (i : Nat) :
    attached ⟨p.shared, p.tasks ++ [task]⟩ i = p.attached i := by
  simp [attached, hwaits]

theorem OneAtATime.append (h : OneAtATime p) (hholds : task.holds = false)
    (hwaits : ∀ i, task.waitsFor i = false) (hmarks : task.marksNext = false) :
    OneAtATime ⟨p.shared, p.tasks ++ [task]⟩ := by
  refine ⟨h.mutex.append hholds, h.running, ?_, ?_⟩
  · intro i supervisor hget hany
    refine h.waited i supervisor hget ?_
    simpa [hwaits] using hany
  · intro i supervisor hget hdetached
    rw [attached_append hwaits] at hdetached
    rw [marksNext_append hmarks]
    exact h.released i supervisor hget hdetached

theorem OneAtATime.cancelling (h : OneAtATime p) {reason : StopReason} {running : Nat}
    (htask : p.tasks[index]? = some (.locking reason)) (hlock : p.shared.locked = false)
    (hrunning : p.shared.upstream.running = some running) :
    OneAtATime
      ⟨{ p.shared.cancel running with
          upstream := { p.shared.upstream with running := none }
          locked := true },
        p.tasks.set index (.waiting running reason)⟩ := by
  have hmutex := h.mutex
  rw [hlock] at hmutex
  refine ⟨hmutex.take htask rfl, fun _ => rfl, ?_, ?_⟩
  · intro i supervisor hget hwaits
    obtain ⟨task, hmem, hwaits⟩ := List.any_eq_true.mp hwaits
    rcases mem_set_cases hmem with rfl | ⟨j, _, hj⟩
    · obtain ⟨before, -, -, -, -, htold⟩ := getElem?_cancel hget
      exact htold (of_decide_eq_true hwaits).symm
    · have hfree := hmutex.not_holds (List.mem_of_getElem? hj)
      cases task with
      | waiting other reason' => cases hfree
      | _ => cases hwaits
  · intro i supervisor hget hdetached
    obtain ⟨before, hbefore, -, hstage, hcancelled, -⟩ := getElem?_cancel hget
    rw [h.attached_cancelling htask hlock hrunning rfl] at hdetached
    refine ((h.released i before hbefore hdetached).of_cancel hstage hcancelled).imp ?_
    intro _ hnext
    exact (any_set_of_eq _ (.waiting running reason) htask rfl).trans hnext

theorem OneAtATime.unoccupied (h : OneAtATime p) {reason : StopReason}
    (htask : p.tasks[index]? = some (.locking reason)) (hlock : p.shared.locked = false)
    (hrunning : p.shared.upstream.running = none) :
    OneAtATime ⟨{ p.shared with locked := true }, p.tasks.set index (.halted reason)⟩ := by
  have hmutex := h.mutex
  rw [hlock] at hmutex
  have hany : ∀ i, (p.tasks.set index (.halted reason)).any (UpstreamTask.waitsFor i) =
      p.tasks.any (UpstreamTask.waitsFor i) := fun i => any_set_of_eq _ _ htask rfl
  constructor
  · exact hmutex.take htask rfl
  · exact fun _ => hrunning
  · simpa only [hany] using h.waited
  · simp only [attached, hany]
    intro i supervisor hget hdetached
    refine (h.released i supervisor hget hdetached).imp fun _ _ => ?_
    exact List.any_eq_true.mpr ⟨_, mem_set_self htask, rfl⟩

theorem OneAtATime.givenUp (h : OneAtATime p) {reason : StopReason} {other : Nat}
    (htask : p.tasks[index]? = some (.waiting other reason)) :
    OneAtATime ⟨p.shared, p.tasks.set index (.halted reason)⟩ := by
  have hmarks : (p.tasks.set index (.halted reason)).any UpstreamTask.marksNext = true :=
    List.any_eq_true.mpr ⟨_, mem_set_self htask, rfl⟩
  refine ⟨h.mutex.keep htask rfl, h.running, ?_, ?_⟩
  · intro i supervisor hget hwaits
    refine h.waited i supervisor hget ?_
    obtain ⟨task, hmem, hwaits⟩ := List.any_eq_true.mp hwaits
    rcases mem_set_cases hmem with rfl | ⟨j, _, hj⟩
    · cases hwaits
    · exact List.any_eq_true.mpr ⟨task, List.mem_of_getElem? hj, hwaits⟩
  · intro i supervisor hget hdetached
    by_cases hattached : p.attached i = true
    · refine .inr ⟨h.waited i supervisor hget ?_, fun _ => hmarks⟩
      rw [attached, h.running (h.mutex.locked_of_holds htask rfl)] at hattached
      simpa using hattached
    · rw [Bool.not_eq_true] at hattached
      exact (h.released i supervisor hget hattached).imp fun _ _ => hmarks

theorem OneAtATime.spawned (h : OneAtATime p) {settings : UpstreamSettings}
    (htask : p.tasks[index]? = some (.spawning settings)) :
    OneAtATime
      ⟨{ p.shared with
          upstream := { p.shared.upstream with running := some p.shared.supervisors.length }
          supervisors := p.shared.supervisors ++ [⟨settings, false, .starting⟩]
          locked := false },
        p.tasks.set index .viewing⟩ := by
  have hdetached : ∀ i, p.attached i = false := h.not_attached htask rfl fun _ => rfl
  refine ⟨h.mutex.release htask rfl rfl, (fun hlocked => by cases hlocked), ?_, ?_⟩
  · intro i supervisor _ hwaits
    have hsame := any_set_of_eq (UpstreamTask.waitsFor i) .viewing htask rfl
    have hnone := (Bool.or_eq_false_iff.mp (hdetached i)).2
    rw [← hsame] at hnone
    exact absurd hwaits (by simp [hnone])
  · intro i supervisor hget hattached
    rw [h.attached_spawned htask rfl, decide_eq_false_iff_not] at hattached
    have hlt : i < p.shared.supervisors.length := by
      have hbound := (List.getElem?_eq_some_iff.mp hget).1
      simp only [List.length_append, List.length_singleton] at hbound
      omega
    rw [List.getElem?_append_left hlt] at hget
    refine (h.released i supervisor hget (hdetached i)).imp fun _ hnext => ?_
    exact (any_set_of_eq _ .viewing htask rfl).trans hnext

theorem OneAtATime.reset (h : OneAtATime p) (htask : p.tasks[index]? = some .resetting)
    (hmarks : p.shared.anyStage Supervise.marks = false) :
    OneAtATime
      ⟨{ p.shared with
          upstream := { p.shared.upstream with status := none }
          locked := false },
        p.tasks.set index .clearing⟩ := by
  have hany : ∀ i, (p.tasks.set index .clearing).any (UpstreamTask.waitsFor i) =
      p.tasks.any (UpstreamTask.waitsFor i) := fun i => any_set_of_eq _ _ htask rfl
  refine ⟨h.mutex.release htask rfl rfl, (fun hlocked => by cases hlocked), ?_, ?_⟩
  · simpa only [hany] using h.waited
  · simp only [attached, hany]
    intro i supervisor hget hdetached
    refine (h.released i supervisor hget hdetached).imp fun hstage _ => ?_
    exact absurd hstage (List.any_eq_false.mp hmarks supervisor (List.mem_of_getElem? hget))

/-- Every action of a request, as long as no supervisor is about to write the status when a request
does. -/
theorem OneAtATime.advanced (h : OneAtATime p) {choice : UpstreamChoice}
    (htask : p.tasks[index]? = some task)
    (hmarks : task.marks = true → p.shared.anyStage Supervise.marks = false)
    (hstep : UpstreamStep choice p.shared task host task') :
    OneAtATime ⟨host, p.tasks.set index task'⟩ := by
  cases hstep with
  | cancelling hlock hrunning => exact h.cancelling htask hlock hrunning
  | unoccupied hlock hrunning => exact h.unoccupied htask hlock hrunning
  | waited => exact h.givenUp htask
  | connecting =>
      refine h.move htask rfl rfl rfl rfl (fun _ => rfl) fun hsome _ => ?_
      rw [hmarks rfl] at hsome
      cases hsome
  | withdrawn => exact h.move htask rfl rfl rfl rfl (fun _ => rfl) fun _ _ => rfl
  | spawned => exact h.spawned htask
  | reset => exact h.reset htask (hmarks rfl)
  | _ => exact h.move htask rfl rfl rfl rfl (fun _ => rfl) fun _ hnext => by cases hnext

/-- A supervisor that has been told to end does not start another session. -/
theorem Released.step {marks : Bool} {supervisor : Supervisor} {choice : SessionChoice}
    {next : UpstreamHost} {stage : Supervise} (h : Released marks supervisor)
    (hrevoked : ∀ outcome, supervisor.stage = .ended outcome → nextStep outcome ≠ .revoked)
    (hstep : supervisor.stage.step config.relayId host supervisor.settings supervisor.cancelled
      choice = some (next, stage)) :
    Released marks { supervisor with stage } := by
  rcases h with hreturned | ⟨hcancelled, hmarks⟩
  · rw [hreturned] at hstep
    cases hstep
  · refine .inr ⟨hcancelled, fun hstage => ?_⟩
    generalize hbefore : supervisor.stage = before at hstep hmarks hrevoked
    cases Supervise.step_eq_some hstep with
    | selected hnext => exact absurd hstage (by simp [hnext])
    | dialed hnext => exact absurd hstage (by simp [hnext])
    | revoked houtcome => exact absurd houtcome (hrevoked _ rfl)
    | failed hnext => exact absurd hstage (by simp [hnext])
    | slept hnext =>
        rcases hnext with rfl | ⟨hgoes, -⟩
        · cases hstage
        · rw [hcancelled] at hgoes
          cases hgoes
    | forgot => exact hmarks rfl
    | _ => cases hstage

theorem locked_running_of_supervised {settings : UpstreamSettings} {cancelled : Bool}
    {choice : SessionChoice} {next : UpstreamHost} {before stage : Supervise}
    (h : SuperviseStep settings cancelled choice host before next stage) :
    next.locked = host.locked ∧ next.upstream.running = host.upstream.running := by
  cases h with
  | revoked => cases choice.fault <;> exact ⟨rfl, rfl⟩
  | _ => exact ⟨rfl, rfl⟩

theorem OneAtATime.supervised (h : OneAtATime p) {supervisor : Supervisor}
    {choice : SessionChoice} {next : UpstreamHost} {stage : Supervise}
    (hget : p.shared.supervisors[index]? = some supervisor)
    (hrevoked : ∀ outcome, supervisor.stage = .ended outcome → nextStep outcome = .revoked →
      p.attached index = true)
    (hstep : supervisor.stage.step config.relayId p.shared supervisor.settings
      supervisor.cancelled choice = some (next, stage)) :
    OneAtATime { p with
      shared := { next with
        supervisors := p.shared.supervisors.set index { supervisor with stage } } } := by
  have hkept := locked_running_of_supervised (Supervise.step_eq_some hstep)
  constructor
  · simpa only [hkept.1] using h.mutex
  · simpa only [hkept.1, hkept.2] using h.running
  · intro i other hother hwaits
    rcases getElem?_set_cases hother with ⟨rfl, rfl⟩ | ⟨-, hold⟩
    · exact h.waited i supervisor hget hwaits
    · exact h.waited i other hold hwaits
  · intro i other hother hdetached
    simp only [attached, hkept.2] at hdetached
    rcases getElem?_set_cases hother with ⟨rfl, rfl⟩ | ⟨-, hold⟩
    · refine (h.released i supervisor hget hdetached).step ?_ hstep
      intro outcome hstage houtcome
      have hattached := hrevoked outcome hstage houtcome
      simp only [attached, hdetached] at hattached
      cases hattached
    · exact h.released i other hold hdetached

theorem OneAtATime.stopRequested (h : OneAtATime p) :
    OneAtATime { p with shared := p.shared.cancel index } := by
  refine ⟨h.mutex, h.running, ?_, ?_⟩
  · intro i supervisor hget hwaits
    obtain ⟨before, hbefore, -, -, hcancelled, -⟩ := getElem?_cancel hget
    exact hcancelled (h.waited i before hbefore hwaits)
  · intro i supervisor hget hdetached
    obtain ⟨before, hbefore, -, hstage, hcancelled, -⟩ := getElem?_cancel hget
    exact (h.released i before hbefore hdetached).of_cancel hstage hcancelled

end Steps

end Linking

end TermexoRelay
