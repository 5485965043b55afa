import TermexoRelay.Library.Interleaving
import TermexoRelay.Registry.Jobs

/-!
# Publishing changes after the lock

An update publishes its changes once the lock is gone, so two updates can reach the channel in
the other order. A pool of jobs is run here with the changes that are still on their way kept in
the order of the updates. A subscriber that replays the channel holds the announcements once
everything is published, provided no change overtakes an earlier one about the same device.
-/

namespace TermexoRelay

open Transition

/-- The registry, the changes that are updated but not published with the job that has to, in the
order of the updates, and everything sent on the channel. -/
structure PublishedRegistry where
  registry : Registry
  unpublished : List (Nat × RegistryChange)
  channel : List RegistryChange
deriving DecidableEq

abbrev PublicationLabel := PoolLabel Job JobChoice Empty
abbrev PublicationState := Pool PublishedRegistry Job

namespace Publication

/-- A job first publishes what its last action left behind, one change at a time. -/
def advance (relayId : String) (maxHops : Nat) (index : Nat) (shared : PublishedRegistry)
    (job : Job) (choice : JobChoice) : Option (PublishedRegistry × Job) :=
  match shared.unpublished.find? fun item => item.1 = index with
  | some item =>
      some
        ({ shared with
            unpublished := shared.unpublished.eraseP fun item => item.1 = index
            channel := shared.channel ++ [item.2] }, job)
  | none =>
      (job.step relayId maxHops shared.registry choice).map fun next =>
        ({ shared with
            registry := next.1
            unpublished := shared.unpublished ++ next.2.2.map fun change => (index, change) },
          next.2.1)

def step (relayId : String) (maxHops : Nat) :
    PublicationState → PublicationLabel → Option PublicationState :=
  poolStep (fun _ job => job.starts) (advance relayId maxHops) fun _ event => nomatch event

def init : PublicationState := ⟨⟨.new, [], []⟩, []⟩

def Quiescent (p : PublicationState) : Prop :=
  p.shared.unpublished = [] ∧ ∀ job ∈ p.tasks, job = .finished

instance (p : PublicationState) : Decidable (Quiescent p) :=
  inferInstanceAs (Decidable (_ ∧ ∀ job ∈ p.tasks, _))

/-- The change job `index` publishes next overtakes no earlier one about the same device. -/
def inOrder (index : Nat) (unpublished : List (Nat × RegistryChange)) : Bool :=
  match unpublished.find? fun item => item.1 = index with
  | some item => (unpublished.takeWhile fun other => other.1 ≠ index).all fun other =>
      other.2.deviceId ≠ item.2.deviceId
  | none => true

def InOrder (p : PublicationState) : PublicationLabel → Prop
  | .advance index _ => inOrder index p.shared.unpublished = true
  | .spawn _ => True
  | .environment _ => True

instance (p : PublicationState) : ∀ label, Decidable (InOrder p label)
  | .advance index _ => inferInstanceAs (Decidable (inOrder index p.shared.unpublished = true))
  | .spawn _ => .isTrue trivial
  | .environment _ => .isTrue trivial

/-- A list of announcements as a map. -/
def holding (devices : List AnnouncedDevice) (deviceId : String) : Option AnnouncedDevice :=
  devices.find? fun device => device.id = deviceId

/-- What a subscriber holds at `now` that started from the announcements at `since`. -/
def subscriber (relayId : String) (since now : PublicationState) :
    String → Option AnnouncedDevice :=
  Replica.replay RegistryChange.deviceId RegistryChange.value
    (holding (since.shared.registry.state.announcements relayId))
    (now.shared.channel.drop since.shared.channel.length)

abbrev itemKey (item : Nat × RegistryChange) : String := item.2.deviceId
abbrev itemValue (item : Nat × RegistryChange) : Option AnnouncedDevice := item.2.value

section Steps

variable {relayId : String} {maxHops : Nat} {index : Nat} {shared shared' : PublishedRegistry}
  {job job' : Job} {choice : JobChoice}

inductive StepCases (relayId : String) (p : PublicationState) :
    PublicationLabel → PublicationState → Prop
  | spawn {job : Job} : StepCases relayId p (.spawn job) ⟨p.shared, p.tasks ++ [job]⟩
  | publish {index : Nat} {choice : JobChoice} {before after : List (Nat × RegistryChange)}
      {item : Nat × RegistryChange} {tasks : List Job}
      (hsplit : p.shared.unpublished = before ++ item :: after)
      (hfirst : p.shared.unpublished.find? (fun item => decide (item.1 = index)) = some item)
      (hbefore : p.shared.unpublished.takeWhile (fun item => decide (item.1 ≠ index)) = before) :
      StepCases relayId p (.advance index choice)
        ⟨⟨p.shared.registry, before ++ after, p.shared.channel ++ [item.2]⟩, tasks⟩
  | update {index : Nat} {choice : JobChoice} {registry : Registry}
      {changes : List RegistryChange} {tasks : List Job}
      (h : TableUpdate relayId p.shared.registry.state registry.state changes) :
      StepCases relayId p (.advance index choice)
        ⟨⟨registry, p.shared.unpublished ++ changes.map fun change => (index, change),
          p.shared.channel⟩, tasks⟩

theorem advance_eq_some {p : PublicationState} {tasks : List Job}
    (h : advance relayId maxHops index p.shared job choice = some (shared', job')) :
    StepCases relayId p (.advance index choice) ⟨shared', tasks⟩ := by
  unfold advance at h
  cases hitem : p.shared.unpublished.find? fun item => decide (item.1 = index) with
  | some item =>
      rw [hitem] at h
      obtain ⟨hindex, before, after, hsplit, hbefore⟩ := List.find?_eq_some_iff_append.mp hitem
      rw [decide_eq_true_eq] at hindex
      simp only [Bool.not_eq_true', decide_eq_false_iff_not] at hbefore
      have herase : p.shared.unpublished.eraseP (fun item => decide (item.1 = index)) =
          before ++ after := by
        rw [hsplit, List.eraseP_append_right _ (by simpa using hbefore)]
        simp [hindex]
      have htake : p.shared.unpublished.takeWhile (fun item => decide (item.1 ≠ index)) =
          before := by
        rw [hsplit, List.takeWhile_append_of_pos (by simpa using hbefore)]
        simp [hindex]
      simp only [Option.some.injEq, Prod.mk.injEq, herase] at h
      rw [← h.1]
      exact .publish hsplit hitem htake
  | none =>
      rw [hitem] at h
      obtain ⟨next, hnext, heq⟩ := Option.map_eq_some_iff.mp h
      rw [Prod.mk.injEq] at heq
      rw [← heq.1]
      exact .update (Job.step_tableUpdate hnext)

theorem step_eq_some {p p' : PublicationState} {label : PublicationLabel}
    (h : step relayId maxHops p label = some p') : StepCases relayId p label p' := by
  cases label with
  | spawn job =>
      obtain ⟨-, rfl⟩ := poolStep_spawn h
      exact .spawn
  | environment event => cases event
  | advance index choice =>
      obtain ⟨job, shared, job', -, hadvance, rfl⟩ := poolStep_advance h
      exact advance_eq_some hadvance

theorem inOrder_publish {p : PublicationState} {before : List (Nat × RegistryChange)}
    {item : Nat × RegistryChange} (hok : InOrder p (.advance index choice))
    (hfirst : p.shared.unpublished.find? (fun item => decide (item.1 = index)) = some item)
    (hbefore : p.shared.unpublished.takeWhile (fun item => decide (item.1 ≠ index)) = before) :
    ∀ other ∈ before, itemKey other ≠ itemKey item := by
  simp only [InOrder, inOrder, hfirst, hbefore, List.all_eq_true, decide_eq_true_eq] at hok
  exact hok

end Steps

section Invariant

variable {relayId : String} {maxHops : Nat} {p p' : PublicationState}

/-- The table is well formed, and what is on its way to the channel is already in it. -/
structure Inv (relayId : String) (p : PublicationState) : Prop where
  wellFormed : p.shared.registry.state.WellFormed
  settled : Replica.Settled itemKey itemValue (p.shared.registry.state.offered relayId)
    p.shared.unpublished

theorem inv_init (relayId : String) : Inv relayId init where
  wellFormed := RegistryState.wellFormed_empty
  settled := rfl

private theorem replay_items {replica : String → Option AnnouncedDevice} {index : Nat}
    {changes : List RegistryChange} :
    Replica.replay itemKey itemValue replica (changes.map fun change => (index, change)) =
      Replica.replay RegistryChange.deviceId RegistryChange.value replica changes :=
  List.foldl_map

theorem inv_step {label : PublicationLabel} (h : Inv relayId p) (hok : InOrder p label)
    (hstep : step relayId maxHops p label = some p') : Inv relayId p' := by
  cases step_eq_some hstep with
  | spawn => exact ⟨h.wellFormed, h.settled⟩
  | publish hsplit hfirst hbefore =>
      have hkeys := inOrder_publish hok hfirst hbefore
      exact ⟨h.wellFormed, (hsplit ▸ h.settled).remove hkeys⟩
  | update hupdate =>
      exact ⟨hupdate.wellFormed h.wellFormed,
        h.settled.append (replay_items.trans hupdate.replay)⟩

/-- The replica and the changes that are on their way make up what the relay offers. -/
def Follows (relayId : String) (replica : String → Option AnnouncedDevice)
    (p : PublicationState) : Prop :=
  Replica.replay itemKey itemValue replica p.shared.unpublished =
    p.shared.registry.state.offered relayId

/-- One step keeps a replica that takes what the step sends following. -/
theorem follows_step {label : PublicationLabel} {replica : String → Option AnnouncedDevice}
    (h : Follows relayId replica p) (hok : InOrder p label)
    (hstep : step relayId maxHops p label = some p') :
    ∃ sent, p'.shared.channel = p.shared.channel ++ sent ∧
      Follows relayId
        (Replica.replay RegistryChange.deviceId RegistryChange.value replica sent) p' := by
  cases step_eq_some hstep with
  | spawn => exact ⟨[], (List.append_nil _).symm, h⟩
  | publish hsplit hfirst hbefore =>
      have hkeys := inOrder_publish hok hfirst hbefore
      refine ⟨_, rfl, ?_⟩
      rw [Follows, hsplit, Replica.replay_middle hkeys] at h
      exact h
  | update hupdate =>
      refine ⟨[], (List.append_nil _).symm, ?_⟩
      rw [Follows] at h ⊢
      rw [Replica.replay_nil, Replica.replay_append, h, replay_items, hupdate.replay]

theorem follows_run {labels : List PublicationLabel} {replica : String → Option AnnouncedDevice}
    (h : Follows relayId replica p) (hok : Meets (step relayId maxHops) InOrder p labels)
    (hrun : run (step relayId maxHops) p labels = some p') :
    ∃ sent, p'.shared.channel = p.shared.channel ++ sent ∧
      Follows relayId
        (Replica.replay RegistryChange.deviceId RegistryChange.value replica sent) p' := by
  induction labels generalizing p replica with
  | nil =>
      rw [run_nil, Option.some.injEq] at hrun
      subst hrun
      exact ⟨[], (List.append_nil _).symm, h⟩
  | cons label labels ih =>
      obtain ⟨m, hm, hrest⟩ := run_cons_eq_some.mp hrun
      obtain ⟨hlabel, hlabels⟩ := meets_cons.mp hok
      obtain ⟨first, hfirst, hfollows⟩ := follows_step h hlabel hm
      obtain ⟨sent, hsent, hfollows⟩ := ih hfollows (hlabels m hm) hrest
      refine ⟨first ++ sent, by rw [hsent, hfirst, List.append_assoc], ?_⟩
      rw [Replica.replay_append]
      exact hfollows

/-- In a well-formed table the announcements, as a map, are what the relay offers. -/
theorem holding_announcements {state : RegistryState} (h : state.WellFormed) :
    holding (state.announcements relayId) = state.offered relayId := by
  funext deviceId
  cases hfind : holding (state.announcements relayId) deviceId with
  | some device =>
      have hmem := List.mem_of_find?_eq_some hfind
      have hid : device.id = deviceId := by simpa using List.find?_some hfind
      rw [← hid]
      exact (h.mem_announcements.mp hmem).symm
  | none =>
      cases hoffer : state.offered relayId deviceId with
      | none => rfl
      | some device =>
          have hid := h.offered_id hoffer
          have hmem := h.mem_announcements.mpr (hid.symm ▸ hoffer)
          have hnot := List.find?_eq_none.mp hfind device hmem
          simp [hid] at hnot

end Invariant

/-- Once everything is published, a subscriber that started from the announcements at any earlier
point holds exactly the announcements, in every run in which no change overtakes one about the
same device. -/
theorem subscriber_announcements (relayId : String) (maxHops : Nat)
    (labels labels' : List PublicationLabel) (since now : PublicationState)
    (hsince : run (step relayId maxHops) init labels = some since)
    (hnow : run (step relayId maxHops) since labels' = some now)
    (hok : Meets (step relayId maxHops) InOrder init (labels ++ labels'))
    (hquiet : Quiescent now) (deviceId : String) (device : AnnouncedDevice) :
    subscriber relayId since now deviceId = some device ↔
      device ∈ now.shared.registry.state.announcements relayId ∧ device.id = deviceId := by
  obtain ⟨hok, hok'⟩ := (meets_append hsince).mp hok
  have hinv : Inv relayId since :=
    run_invariant (fun _ _ _ hs hlabel hstep => inv_step hs hlabel hstep) (inv_init relayId) hok
      hsince
  have hwell : now.shared.registry.state.WellFormed :=
    (run_invariant (fun _ _ _ hs hlabel hstep => inv_step hs hlabel hstep) hinv hok'
      hnow).wellFormed
  have hstart : Follows relayId (holding (since.shared.registry.state.announcements relayId))
      since := by
    rw [Follows, holding_announcements hinv.wellFormed]
    exact hinv.settled
  obtain ⟨sent, hsent, hfollows⟩ := follows_run hstart hok' hnow
  rw [Follows, hquiet.1, Replica.replay_nil] at hfollows
  have hheld : subscriber relayId since now = now.shared.registry.state.offered relayId := by
    rw [subscriber, hsent, List.drop_left, hfollows]
  rw [hheld, hwell.mem_announcements]
  constructor
  · intro hoffer
    have hid := hwell.offered_id hoffer
    exact ⟨hid.symm ▸ hoffer, hid⟩
  · rintro ⟨hoffer, hid⟩
    exact hid ▸ hoffer

def desktopPresence (channel : Nat) : DirectPresence :=
  ⟨"device-a", "desk", .desktop, none, none, none, ⟨"device-a", channel⟩⟩

def plainChoice : JobChoice := ⟨0, []⟩

def connectAlone : List PublicationLabel :=
  [.spawn (.connect (desktopPresence 0)), .advance 0 plainChoice, .advance 0 plainChoice,
    .advance 0 plainChoice]

theorem subscriber_announcements_connect :
    ∃ now, run (step "relay-a" 8) init connectAlone = some now ∧
    subscriber "relay-a" init now "device-a" = some ⟨"device-a", "desk", true, ["relay-a"]⟩ := by
  obtain ⟨now, hnow, hquiet, hmem⟩ := exists_run (step "relay-a" 8) init connectAlone
    (fun now => Quiescent now ∧ ⟨"device-a", "desk", true, ["relay-a"]⟩ ∈
      now.shared.registry.state.announcements "relay-a") (by decide)
  exact ⟨now, hnow, (subscriber_announcements "relay-a" 8 [] connectAlone init now rfl hnow
    (by decide) hquiet "device-a" _).mpr ⟨hmem, rfl⟩⟩

/-- The tunnel reconnects while the old session is between its update and its publication. -/
def reconnectLatePublish : List PublicationLabel :=
  connectAlone ++
  [.spawn (.disconnect "device-a" 0), .advance 1 plainChoice,
    .spawn (.connect (desktopPresence 1)), .advance 2 plainChoice, .advance 2 plainChoice,
    .advance 2 plainChoice, .advance 1 plainChoice]

/-- The old session's change arrives last and takes the device off the subscriber's list. -/
theorem subscriber_misses_reconnect :
    ¬ ∀ (relayId : String) (maxHops : Nat) (labels labels' : List PublicationLabel)
      (since now : PublicationState), run (step relayId maxHops) init labels = some since →
      run (step relayId maxHops) since labels' = some now → Quiescent now →
      ∀ deviceId device, subscriber relayId since now deviceId = some device ↔
        device ∈ now.shared.registry.state.announcements relayId ∧ device.id = deviceId := by
  intro h
  obtain ⟨now, hnow, hquiet, hmem, hlost⟩ := exists_run (step "relay-a" 8) init
    reconnectLatePublish (fun now => Quiescent now ∧
      ⟨"device-a", "desk", true, ["relay-a"]⟩ ∈
        now.shared.registry.state.announcements "relay-a" ∧
      subscriber "relay-a" init now "device-a" = none) (by decide)
  have hheld := (h "relay-a" 8 [] reconnectLatePublish init now rfl hnow hquiet "device-a" _).mpr
    ⟨hmem, rfl⟩
  rw [hlost] at hheld
  cases hheld

end Publication

end TermexoRelay
