import TermexoRelay.Library.Run
import TermexoRelay.Registry.Jobs

/-!
# Whole operations, one after the other

A sequential run of the registry completes every operation before the next one is called. An
operation is its job together with what the environment supplied to each of its actions.
-/

namespace TermexoRelay

open Transition

def Origin.isDirect : Origin → Bool
  | direct _ => true
  | announced _ => false

theorem Origin.isDirect_iff {origin : Origin} :
    origin.isDirect = true ↔ ∃ serial, origin = .direct serial := by
  cases origin <;> simp [Origin.isDirect]

namespace RegistryState

def hasTunnel (state : RegistryState) (deviceId : String) : Bool :=
  (state.entries.lookup deviceId).any fun entry => entry.origin.isDirect

def tunnelIds (state : RegistryState) : List String :=
  state.entries.keysWhere fun _ entry => entry.origin.isDirect

theorem mem_tunnelIds {state : RegistryState} {deviceId : String} :
    deviceId ∈ state.tunnelIds ↔ state.hasTunnel deviceId = true := by
  rw [tunnelIds, Table.mem_keysWhere, hasTunnel, Option.any_eq_true]

theorem hasTunnel_iff {state : RegistryState} {deviceId : String} :
    state.hasTunnel deviceId = true ↔ ∃ entry serial,
      state.entries.lookup deviceId = some entry ∧ entry.origin = .direct serial := by
  simp only [hasTunnel, Option.any_eq_true, Origin.isDirect_iff, exists_and_left]

end RegistryState

/-- A call with the choices its actions were given. -/
structure Operation where
  job : Job
  choices : List JobChoice
deriving DecidableEq

section Act

variable (relayId : String) (maxHops : Nat)

def act (state : Registry × Job) (choice : JobChoice) : Option (Registry × Job) :=
  (state.2.step relayId maxHops state.1 choice).map fun next => (next.1, next.2.1)

def Registry.call (registry : Registry) (operation : Operation) : Option Registry :=
  if operation.job.starts then
    match run (act relayId maxHops) (registry, operation.job) operation.choices with
    | some (registry, .finished) => some registry
    | _ => none
  else none

variable {relayId maxHops} {registry registry' : Registry} {job job' : Job} {choice : JobChoice}
  {choices : List JobChoice} {ok : Registry × Job → JobChoice → Prop}

theorem Registry.call_eq_some {operation : Operation} :
    registry.call relayId maxHops operation = some registry' ↔
      operation.job.starts = true ∧
        run (act relayId maxHops) (registry, operation.job) operation.choices =
          some (registry', .finished) := by
  unfold Registry.call
  split
  · next hstarts =>
      split
      · next registry'' hrun => simp [hstarts, hrun]
      · next hother =>
          simp only [hstarts, true_and]
          constructor
          · intro h
            cases h
          · intro hrun
            exact absurd hrun (hother registry')
  · next hstarts => simp [hstarts]

theorem act_eq_some : act relayId maxHops (registry, job) choice = some (registry', job') ↔
    ∃ changes, job.step relayId maxHops registry choice = some (registry', job', changes) := by
  simp [act, Prod.ext_iff]

theorem run_act_finished
    (hrun : run (act relayId maxHops) (registry, .finished) choices = some (registry', .finished)) :
    registry' = registry := by
  cases choices with
  | nil =>
      rw [run_nil, Option.some.injEq, Prod.mk.injEq] at hrun
      exact hrun.1.symm
  | cons choice choices =>
      obtain ⟨m, hm, -⟩ := run_cons_eq_some.mp hrun
      cases hm

theorem run_act_cons (hjob : job ≠ .finished)
    (hrun : run (act relayId maxHops) (registry, job) choices = some (registry', .finished))
    (hok : Meets (act relayId maxHops) ok (registry, job) choices) :
    ∃ choice rest registry₁ job₁ changes,
      job.step relayId maxHops registry choice = some (registry₁, job₁, changes) ∧
      ok (registry, job) choice ∧
      run (act relayId maxHops) (registry₁, job₁) rest = some (registry', .finished) ∧
      Meets (act relayId maxHops) ok (registry₁, job₁) rest := by
  cases choices with
  | nil =>
      rw [run_nil, Option.some.injEq, Prod.mk.injEq] at hrun
      exact absurd hrun.2 hjob
  | cons choice rest =>
      obtain ⟨⟨registry₁, job₁⟩, hact, hrest⟩ := run_cons_eq_some.mp hrun
      obtain ⟨changes, hstep⟩ := act_eq_some.mp hact
      obtain ⟨hchoice, hmeets⟩ := meets_cons.mp hok
      exact ⟨choice, rest, registry₁, job₁, changes, hstep, hchoice, hrest, hmeets _ hact⟩

end Act

end TermexoRelay
