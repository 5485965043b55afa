import TermexoRelay.Upstream.Link

/-!
# What the upstream contributes while no session is up

A session that ends takes its reach away itself. One that is dropped cannot, so whoever dropped it
has to: a stop does, a start does not.
-/

namespace TermexoRelay

open Transition

/-- Nothing of an upstream is left: no chain, and no address for any device. -/
def UpstreamLink.Empty (link : UpstreamLink) : Prop :=
  link.chain = [] ∧ ∀ deviceId, link.addressesFor deviceId = []

theorem UpstreamLink.empty_iff {link : UpstreamLink} : link.Empty ↔ link.reach = .default := by
  unfold Empty UpstreamLink.chain UpstreamLink.addressesFor UpstreamReach.addressesFor
  cases link.reach with
  | mk relays chain =>
      simp only [List.map_eq_nil_iff, forall_const, UpstreamReach.default, UpstreamReach.mk.injEq]
      exact and_comm

def UpstreamHost.sessionUp (host : UpstreamHost) : Bool := host.anyStage Supervise.up

/-- A stop that has cancelled the running link and has still to clear the reach. -/
def UpstreamTask.stopping : UpstreamTask → Bool
  | waiting _ .stop => true
  | halted .stop => true
  | _ => false

/-- The session is dropped where it serves the tunnel. -/
def Supervise.drops (choice : SessionChoice) : Supervise → Bool
  | pumping _ => decide (choice.event = .dropped)
  | _ => false

section Steps

variable {config : LinkConfig} {host host' : UpstreamHost}

theorem Supervise.step_reach {settings : UpstreamSettings} {cancelled : Bool}
    {choice : SessionChoice} {stage stage' : Supervise}
    (h : stage.step config.relayId host settings cancelled choice = some (host', stage')) :
    stage'.up = true ∨ host'.upstream.reach = .default ∨
      host'.upstream.reach = host.upstream.reach ∧
        (stage.up = false ∨ stage.drops choice = true) := by
  cases step_eq_some h with
  | started => exact .inr (.inr ⟨rfl, .inl rfl⟩)
  | selected => exact .inr (.inr ⟨rfl, .inl rfl⟩)
  | dialed => exact .inr (.inr ⟨rfl, .inl rfl⟩)
  | adopted => exact .inl rfl
  | announced => exact .inl rfl
  | dropped hevent => exact .inr (.inr ⟨rfl, .inr (decide_eq_true hevent)⟩)
  | addressed => exact .inl rfl
  | interrupted => exact .inl rfl
  | withdrawn => exact .inr (.inl rfl)
  | revoked _ =>
      rw [UpstreamHost.upstream_forget]
      exact .inr (.inr ⟨rfl, .inl rfl⟩)
  | failed => exact .inr (.inr ⟨rfl, .inl rfl⟩)
  | forgot => exact .inr (.inl rfl)
  | cleared => exact .inr (.inr ⟨rfl, .inl rfl⟩)
  | slept => exact .inr (.inr ⟨rfl, .inl rfl⟩)

theorem Supervise.step_of_drops {settings : UpstreamSettings} {cancelled : Bool}
    {choice : SessionChoice} {stage stage' : Supervise} (hdrops : stage.drops choice = true)
    (h : stage.step config.relayId host settings cancelled choice = some (host', stage')) :
    host' = host ∧ stage' = .returned := by
  cases stage with
  | pumping welcome =>
      have hevent : choice.event = .dropped := of_decide_eq_true hdrops
      simp only [step, hevent] at h
      split at h
      · cases h
        exact ⟨rfl, rfl⟩
      · cases h
  | _ => cases hdrops

theorem UpstreamTask.step_reach {choice : UpstreamChoice} {task task' : UpstreamTask}
    (h : task.step config host choice = some (host', task')) :
    host'.upstream.reach = .default ∨ host'.upstream.reach = host.upstream.reach ∧
      (task.stopping = true → task'.stopping = true) := by
  cases step_eq_some h with
  | @waited index reason => cases reason <;> exact .inr ⟨rfl, fun hstopping => hstopping⟩
  | withdrawn => exact .inl rfl
  | _ => exact .inr ⟨rfl, fun h => absurd h Bool.false_ne_true⟩

end Steps

namespace Linking

/-- Whenever no session is up and no exempt request is under way, nothing of an upstream is left. -/
def Quiet (exempt : UpstreamTask → Bool) (p : Linking) : Prop :=
  p.shared.sessionUp = false → p.tasks.any exempt = false → p.shared.upstream.Empty

/-- A session that is dropped leaves nothing behind, another session is up, or an exempt request is
under way. -/
def spares (exempt : UpstreamTask → Bool) (p : Linking) (index : Nat) (choice : SessionChoice) :
    Bool :=
  let host := p.shared
  !host.supervisors[index]?.any (fun supervisor => supervisor.stage.drops choice) ||
    decide (host.upstream.reach = .default) ||
    (host.supervisors.eraseIdx index).any (fun supervisor => supervisor.stage.up) ||
    p.tasks.any exempt

def Spares (exempt : UpstreamTask → Bool) (p : Linking) : LinkingLabel → Prop
  | .environment (.supervise index choice) => spares exempt p index choice = true
  | _ => True

instance (exempt : UpstreamTask → Bool) (p : Linking) : ∀ label, Decidable (Spares exempt p label)
  | .environment (.supervise index choice) =>
      inferInstanceAs (Decidable (spares exempt p index choice = true))
  | .environment .requestStop => .isTrue trivial
  | .spawn _ => .isTrue trivial
  | .advance _ _ => .isTrue trivial

section Runs

variable {config : LinkConfig} {exempt : UpstreamTask → Bool} {p p' : Linking}

theorem quiet_advance {index : Nat} {choice : UpstreamChoice}
    (hexempt : ∀ task, exempt task = true → task.stopping = true ∧
      ∀ task' : UpstreamTask, task'.stopping = true → exempt task' = true)
    (hquiet : Quiet exempt p) (h : step config p (.advance index choice) = some p') :
    Quiet exempt p' := by
  obtain ⟨task, host', task', htask, hadvance, rfl⟩ := poolStep_advance h
  have hup := UpstreamTask.step_anyStage Supervise.up rfl hadvance
  intro hdown hnone
  rcases UpstreamTask.step_reach hadvance with hclear | ⟨hsame, hstopping⟩
  · exact UpstreamLink.empty_iff.mpr hclear
  · have hbefore : p.tasks.any exempt = false := by
      rw [List.any_eq_false] at hnone ⊢
      intro other hother hexempted
      obtain ⟨t, ht, hp⟩ := exists_mem_set (P := fun t => exempt t = true) task' htask
        ⟨other, hother, hexempted⟩ fun hmoved =>
          (hexempt task hmoved).2 task' (hstopping (hexempt task hmoved).1)
      exact hnone t ht hp
    have hempty := hquiet (hup.symm.trans hdown) hbefore
    rw [UpstreamLink.empty_iff] at hempty ⊢
    exact hsame.trans hempty

/-- An action of a supervisor keeps the link quiet exactly when it spares the sessions. -/
theorem quiet_supervise {index : Nat} {choice : SessionChoice} {supervisor : Supervisor}
    {next : UpstreamHost} {stage : Supervise} (hquiet : Quiet exempt p)
    (hget : p.shared.supervisors[index]? = some supervisor)
    (hstep : supervisor.stage.step config.relayId p.shared supervisor.settings
      supervisor.cancelled choice = some (next, stage)) :
    Quiet exempt { p with
        shared := { next with
          supervisors := p.shared.supervisors.set index { supervisor with stage := stage } } } ↔
      spares exempt p index choice = true := by
  have hbefore := p.shared.anyStage_split Supervise.up hget
  have hafter := UpstreamHost.anyStage_set Supervise.up { next with
    supervisors := p.shared.supervisors.set index { supervisor with stage := stage } } hget rfl
  by_cases hdrops : supervisor.stage.drops choice = true
  · obtain ⟨rfl, rfl⟩ := Supervise.step_of_drops hdrops hstep
    simp only [Quiet, spares, UpstreamHost.sessionUp, hafter, hget, Option.any_some, hdrops,
      UpstreamLink.empty_iff, Supervise.up, Bool.false_or, Bool.not_true, Bool.or_eq_true,
      decide_eq_true_eq]
    constructor
    · intro hquiet'
      by_contra hnone
      simp only [not_or, Bool.not_eq_true] at hnone
      exact hnone.1.1 (hquiet' hnone.1.2 hnone.2)
    · rintro ((hempty | hother) | hexempt) hdown hnone
      · exact hempty
      · rw [hdown] at hother
        cases hother
      · rw [hnone] at hexempt
        cases hexempt
  · have hspares : spares exempt p index choice = true := by
      simp only [spares, hget, Option.any_some, hdrops, Bool.not_false, Bool.true_or]
    refine iff_of_true ?_ hspares
    intro hdown hnone
    rw [UpstreamHost.sessionUp, hafter, Bool.or_eq_false_iff] at hdown
    rcases Supervise.step_reach hstep with hup | hclear | ⟨hsame, hup | hdropped⟩
    · rw [hdown.1] at hup
      cases hup
    · exact UpstreamLink.empty_iff.mpr hclear
    · have hdownBefore : p.shared.sessionUp = false := by
        rw [UpstreamHost.sessionUp, hbefore, hup, hdown.2, Bool.or_false]
      have hempty := hquiet hdownBefore hnone
      rw [UpstreamLink.empty_iff] at hempty ⊢
      exact hsame.trans hempty
    · exact absurd hdropped hdrops

theorem quiet_step
    (hexempt : ∀ task, exempt task = true → task.stopping = true ∧
      ∀ task' : UpstreamTask, task'.stopping = true → exempt task' = true)
    {label : LinkingLabel} (hquiet : Quiet exempt p) (h : step config p label = some p') :
    Quiet exempt p' ↔ Spares exempt p label := by
  cases label with
  | spawn task =>
      obtain ⟨-, rfl⟩ := poolStep_spawn h
      refine iff_of_true (fun hdown hnone => hquiet hdown ?_) trivial
      rw [List.any_append, Bool.or_eq_false_iff] at hnone
      exact hnone.1
  | advance index choice => exact iff_of_true (quiet_advance hexempt hquiet h) trivial
  | environment event =>
      obtain ⟨host', hevent, rfl⟩ := poolStep_environment h
      obtain ⟨index, choice, supervisor, next, stage, rfl, hget, hstep, rfl⟩ | ⟨rfl, index, rfl⟩ :=
        UpstreamHost.event_eq_some hevent
      · exact quiet_supervise hquiet hget hstep
      · refine iff_of_true (fun hdown hnone => hquiet ?_ hnone) trivial
        exact (p.shared.anyStage_cancel Supervise.up index).symm.trans hdown

theorem quiet_init (stored : Option UpstreamSettings) : Quiet exempt (init stored) := by
  intro _ _
  rw [UpstreamLink.empty_iff]
  cases stored <;> rfl

variable (exempt) in
theorem throughout_quiet_iff
    (hexempt : ∀ task, exempt task = true → task.stopping = true ∧
      ∀ task' : UpstreamTask, task'.stopping = true → exempt task' = true)
    {stored : Option UpstreamSettings} {labels : List LinkingLabel}
    (hrun : run (step config) (init stored) labels = some p) :
    Throughout (step config) (Quiet exempt) (init stored) labels ↔
      Meets (step config) (Spares exempt) (init stored) labels :=
  throughout_iff_meets (I := fun _ => True) (fun _ _ _ _ _ => trivial)
    (fun _ _ _ _ hquiet hstep => quiet_step hexempt hquiet hstep) trivial (quiet_init stored) hrun

end Runs

/-- The reach is empty outside the sessions, in every state of a run, exactly when no session is
dropped while it contributes something and no other one is up. Apart from the states of a stop that
has dropped the session and not cleared its reach yet, it is so exactly when no session is dropped
like that by anything but a stop. -/
theorem reach_empty_outside_sessions_iff (config : LinkConfig) (stored : Option UpstreamSettings)
    (labels : List LinkingLabel) (p : Linking)
    (hrun : run (step config) (init stored) labels = some p) :
    (Throughout (step config) (Quiet fun _ => false) (init stored) labels ↔
      Meets (step config) (Spares fun _ => false) (init stored) labels) ∧
    (Throughout (step config) (Quiet UpstreamTask.stopping) (init stored) labels ↔
      Meets (step config) (Spares UpstreamTask.stopping) (init stored) labels) := by
  constructor
  · exact throughout_quiet_iff (fun _ => false) (fun _ hexempt => nomatch hexempt) hrun
  · exact throughout_quiet_iff UpstreamTask.stopping
      (fun _ hstopping => ⟨hstopping, fun _ hstopping' => hstopping'⟩) hrun

def exampleConfig : LinkConfig := ⟨"relay-a", fun _ => some ⟨"link", "secret"⟩⟩

def settingsOf (host : String) : UpstreamSettings :=
  ⟨HTTPS_SCHEME ++ host, "tdc1.link.secret", none⟩

def welcomeFrom (relayId : String) : Welcome := ⟨"link", relayId, [], []⟩

def connectSession (index : Nat) (relayId : String) : List LinkingLabel :=
  [.environment (.supervise index {}), .environment (.supervise index {}),
    .environment (.supervise index { event := .welcomed (welcomeFrom relayId) }),
    .environment (.supervise index {}), .environment (.supervise index {})]

def connectAndLeave : List LinkingLabel :=
  connectSession 0 "relay-b" ++
    [.spawn (.locking .stop), .advance 0 {}, .environment (.supervise 0 { event := .dropped }),
      .advance 0 {}, .advance 0 {}, .advance 0 {}, .advance 0 {}]

theorem reach_empty_outside_sessions_left :
    ∃ p, run (step exampleConfig) (init (some (settingsOf "b.example.com"))) connectAndLeave =
        some p ∧ p.shared.stored = none ∧
      Throughout (step exampleConfig) (Quiet UpstreamTask.stopping)
        (init (some (settingsOf "b.example.com"))) connectAndLeave := by
  obtain ⟨p, hrun, hstored⟩ := exists_run (step exampleConfig)
    (init (some (settingsOf "b.example.com"))) connectAndLeave (fun p => p.shared.stored = none)
    (by decide)
  have hquiet := (reach_empty_outside_sessions_iff exampleConfig
    (some (settingsOf "b.example.com")) connectAndLeave p hrun).2
  exact ⟨p, hrun, hstored, hquiet.mpr (by decide)⟩

theorem nextHost_plain : '/' ∉ "c.example.com".toList := by decide

def connectAndReplace : List LinkingLabel :=
  connectSession 0 "relay-b" ++
    [.spawn (.joining (relayUrl "c.example.com" nextHost_plain) none),
      .advance 0 { response := .ok "tdc1.link.secret" }, .advance 0 {}, .advance 0 {},
      .environment (.supervise 0 { event := .dropped }), .advance 0 {}, .advance 0 {},
      .advance 0 {}, .advance 0 {},
      .environment (.supervise 1 {}), .environment (.supervise 1 {}),
      .environment (.supervise 1 { event := .ended (.refused "HTTP 401") }),
      .environment (.supervise 1 {})]

/-- The link is in error, and its chain is that of the upstream before. -/
theorem reach_keeps_replaced_upstream :
    ¬ ∀ (config : LinkConfig) (stored : Option UpstreamSettings) (labels : List LinkingLabel)
      (p : Linking), run (step config) (init stored) labels = some p →
        Quiet (fun _ => false) p := by
  intro h
  obtain ⟨p, hrun, hdown, hstatus, hchain⟩ := exists_run (step exampleConfig)
    (init (some (settingsOf "b.example.com"))) connectAndReplace
    (fun p => p.shared.sessionUp = false ∧
      p.shared.upstream.status.map LinkStatus.state = some .error ∧
      p.shared.upstream.chain = ["relay-b"]) (by decide)
  have hnone : p.tasks.any (fun _ => false) = false := List.any_eq_false.mpr fun _ _ => nofun
  have hempty := h exampleConfig _ connectAndReplace p hrun hdown hnone
  exact List.cons_ne_nil _ _ (hchain.symm.trans hempty.1)

end Linking

end TermexoRelay
