import TermexoRelay.Upstream.Snapshot

/-!
# The loop that tells the upstream

A session subscribes to the changes before it takes its snapshot, so a change made in between is
told twice rather than missed. The channel keeps a bounded number of changes: a session that falls
behind by more skips to the oldest one that is kept and sends another snapshot. Once it has received
everything, the upstream holds what this relay offers, whatever was skipped. Only a device whose
route runs through the upstream itself may be held at an earlier route.
-/

namespace TermexoRelay

open Transition

/-- A session's place in the channel, and whether a snapshot is to be sent before the next
change. -/
structure Subscription where
  position : Nat
  owing : Bool
deriving DecidableEq, Repr

namespace Subscription

def start (channel : List RegistryChange) : Subscription := ⟨channel.length, true⟩

/-- One turn of the loop, with the frame it sends, if any; `none` while there is nothing to do. -/
def turn (capacity : Nat) (relayId upstreamRelayId : String) (shared : PublishedRegistry)
    (subscription : Subscription) : Option (Subscription × Option ControlFrame) :=
  if subscription.owing then
    some ({ subscription with owing := false },
      some (snapshotFrame relayId upstreamRelayId shared.registry.state))
  else if subscription.position + capacity < shared.channel.length then
    -- `RecvError::Lagged`: the receiver goes on at the oldest change that is kept.
    some (⟨shared.channel.length - capacity, true⟩, none)
  else
    shared.channel[subscription.position]?.map fun change =>
      ({ subscription with position := subscription.position + 1 },
        announcementFrame upstreamRelayId change)

inductive TurnCases (capacity : Nat) (relayId upstreamRelayId : String)
    (shared : PublishedRegistry) (subscription : Subscription) :
    Subscription → Option ControlFrame → Prop
  | snapshot (howing : subscription.owing = true) :
      TurnCases capacity relayId upstreamRelayId shared subscription
        { subscription with owing := false }
        (some (snapshotFrame relayId upstreamRelayId shared.registry.state))
  | lagged (hlag : subscription.position + capacity < shared.channel.length) :
      TurnCases capacity relayId upstreamRelayId shared subscription
        ⟨shared.channel.length - capacity, true⟩ none
  | received {change : RegistryChange} (howing : subscription.owing = false)
      (hchange : shared.channel[subscription.position]? = some change) :
      TurnCases capacity relayId upstreamRelayId shared subscription
        { subscription with position := subscription.position + 1 }
        (announcementFrame upstreamRelayId change)

theorem turn_eq_some {capacity : Nat} {relayId upstreamRelayId : String}
    {shared : PublishedRegistry} {subscription subscription' : Subscription}
    {frame : Option ControlFrame}
    (h : subscription.turn capacity relayId upstreamRelayId shared = some (subscription', frame)) :
    TurnCases capacity relayId upstreamRelayId shared subscription subscription' frame := by
  unfold turn at h
  split at h
  · next howing =>
      cases h
      exact .snapshot howing
  · next howing =>
      split at h
      · next hlag =>
          cases h
          exact .lagged hlag
      · obtain ⟨change, hchange, heq⟩ := Option.map_eq_some_iff.mp h
        cases heq
        exact .received (by simpa using howing) hchange

end Subscription

/-- A relay, its session with the upstream, and what the upstream holds from it. -/
structure Pump where
  relay : PublicationState
  subscription : Subscription
  told : Told

inductive PumpLabel where
  /-- The relay takes a step of its own. -/
  | relay (label : PublicationLabel)
  /-- The link comes up, for the first time or again; the upstream holds nothing from it yet. -/
  | connect
  | turn

namespace Pump

variable (capacity : Nat) (relayId upstreamRelayId : String) (maxHops : Nat)

def step (p : Pump) : PumpLabel → Option Pump
  | .relay label => (Publication.step relayId maxHops p.relay label).map fun relay =>
      { p with relay }
  | .connect => some ⟨p.relay, .start p.relay.shared.channel, Told.nothing⟩
  | .turn =>
      (p.subscription.turn capacity relayId upstreamRelayId p.relay.shared).map fun next =>
        { p with
          subscription := next.1
          told := next.2.toList.foldl Told.take p.told }

def init : Pump := ⟨Publication.init, .start [], Told.nothing⟩

/-- No change of the relay overtakes an earlier one about the same device. -/
def InOrder (p : Pump) : PumpLabel → Prop
  | .relay label => Publication.InOrder p.relay label
  | .connect => True
  | .turn => True

instance (p : Pump) : ∀ label, Decidable (InOrder p label)
  | .relay label => inferInstanceAs (Decidable (Publication.InOrder p.relay label))
  | .connect => .isTrue trivial
  | .turn => .isTrue trivial

def Drained (p : Pump) : Prop :=
  p.relay.shared.unpublished = [] ∧ p.subscription = ⟨p.relay.shared.channel.length, false⟩

instance (p : Pump) : Decidable (Drained p) := inferInstanceAs (Decidable (_ ∧ _))

/-- What a session at `position` has still to receive, in the order it will. -/
def pending (position : Nat) (shared : PublishedRegistry) : List RegistryChange :=
  shared.channel.drop position ++ shared.unpublished.map Prod.snd

/-- The upstream holds the usable part of the map, devices aside whose route in it runs through the
upstream. -/
def Agrees (upstreamRelayId : String) (told : Told) (map : String → Option AnnouncedDevice) :
    Prop :=
  ∀ deviceId, (∀ device, map deviceId = some device →
    isRoutableFor device upstreamRelayId = true) →
    told deviceId = Publication.usable upstreamRelayId map deviceId

section Steps

variable {capacity relayId upstreamRelayId maxHops} {p p' : PublicationState}
  {label : PublicationLabel} {position : Nat} {map : String → Option AnnouncedDevice} {told : Told}

theorem Agrees.take (h : Agrees upstreamRelayId told map) (change : RegistryChange) :
    Agrees upstreamRelayId
      ((announcementFrame upstreamRelayId change).toList.foldl Told.take told)
      (Replica.apply RegistryChange.deviceId RegistryChange.value map change) := by
  intro deviceId hroutable
  by_cases hid : deviceId = change.deviceId
  · subst hid
    have hleft : Replica.apply RegistryChange.deviceId RegistryChange.value map change
        change.deviceId = change.value := Replica.apply_self
    cases change with
    | offline id =>
        rw [Publication.usable_of_none hleft]
        simp [announcementFrame, Told.take, RegistryChange.deviceId]
    | online device =>
        have husable := hroutable device hleft
        rw [Publication.usable_of_some hleft, if_pos husable]
        simp [announcementFrame, husable, Told.take, RegistryChange.deviceId]
  · have hkept : Replica.apply RegistryChange.deviceId RegistryChange.value map change deviceId =
        map deviceId := Replica.apply_of_ne hid
    have hold := h deviceId fun device hdevice => hroutable device (hkept.trans hdevice)
    have husable : Publication.usable upstreamRelayId (Replica.apply RegistryChange.deviceId
        RegistryChange.value map change) deviceId =
        Publication.usable upstreamRelayId map deviceId := by
      rw [Publication.usable, hkept, Publication.usable]
    rw [husable, ← hold]
    cases change with
    | offline id =>
        have hne : deviceId ≠ id := hid
        simp [announcementFrame, Told.take, hne]
    | online device =>
        have hne : deviceId ≠ device.id := hid
        by_cases hdevice : isRoutableFor device upstreamRelayId = true
        · simp [announcementFrame, hdevice, Told.take, hne]
        · simp [announcementFrame, hdevice]

private theorem map_snd_items {index : Nat} {changes : List RegistryChange} :
    (changes.map fun change => (index, change)).map Prod.snd = changes := by
  rw [List.map_map]
  exact List.map_id changes

theorem length_channel_le (hstep : Publication.step relayId maxHops p label = some p') :
    p.shared.channel.length ≤ p'.shared.channel.length := by
  cases Publication.step_eq_some hstep with
  | spawn => exact le_rfl
  | publish hsplit hfirst hbefore => simp
  | update hupdate => exact le_rfl

/-- What is still to be received makes a replica what the relay offers, before and after a step of
the relay. -/
theorem replay_pending (hposition : position ≤ p.shared.channel.length)
    (h : Replica.replay RegistryChange.deviceId RegistryChange.value map
      (pending position p.shared) = p.shared.registry.state.offered relayId)
    (hok : Publication.InOrder p label)
    (hstep : Publication.step relayId maxHops p label = some p') :
    Replica.replay RegistryChange.deviceId RegistryChange.value map (pending position p'.shared) =
      p'.shared.registry.state.offered relayId := by
  cases Publication.step_eq_some hstep with
  | spawn => exact h
  | @publish index choice before after item tasks hsplit hfirst hbefore =>
      have hkeys := Publication.inOrder_publish hok hfirst hbefore
      have hovertake : ∀ change ∈ before.map Prod.snd, change.deviceId ≠ item.2.deviceId := by
        intro change hchange
        obtain ⟨other, hother, rfl⟩ := List.mem_map.mp hchange
        exact hkeys other hother
      rw [pending, hsplit, List.map_append, List.map_cons] at h
      rw [pending, List.drop_append_of_le_length hposition, List.map_append, List.append_assoc,
        List.singleton_append, Replica.replay_overtake hovertake]
      exact h
  | @update index choice registry changes tasks hupdate =>
      rw [pending] at h ⊢
      rw [List.map_append, map_snd_items, ← List.append_assoc, Replica.replay_append, h]
      exact hupdate.replay

theorem settled_pending
    (h : Replica.Settled RegistryChange.deviceId RegistryChange.value
      (p.shared.registry.state.offered relayId) (pending 0 p.shared))
    (hok : Publication.InOrder p label)
    (hstep : Publication.step relayId maxHops p label = some p') :
    Replica.Settled RegistryChange.deviceId RegistryChange.value
      (p'.shared.registry.state.offered relayId) (pending 0 p'.shared) := by
  cases Publication.step_eq_some hstep with
  | spawn => exact h
  | publish hsplit hfirst hbefore =>
      exact replay_pending (Nat.zero_le _) h hok hstep
  | @update index choice registry changes tasks hupdate =>
      have happended := h.append hupdate.replay
      rw [pending] at happended ⊢
      rw [List.map_append, map_snd_items, ← List.append_assoc]
      exact happended

end Steps

/-- The table is well formed and holds all that was published; a session that owes no snapshot has
told the upstream what the changes it has still to receive complete to what the relay offers. -/
structure Inv (relayId upstreamRelayId : String) (p : Pump) : Prop where
  wellFormed : p.relay.shared.registry.state.WellFormed
  settled : Replica.Settled RegistryChange.deviceId RegistryChange.value
    (p.relay.shared.registry.state.offered relayId) (pending 0 p.relay.shared)
  position : p.subscription.position ≤ p.relay.shared.channel.length
  told : p.subscription.owing = false → ∃ map,
    Replica.replay RegistryChange.deviceId RegistryChange.value map
        (pending p.subscription.position p.relay.shared) =
      p.relay.shared.registry.state.offered relayId ∧
    Agrees upstreamRelayId p.told map

section Invariant

variable {capacity relayId upstreamRelayId maxHops} {p p' : Pump}

theorem inv_init (relayId upstreamRelayId : String) : Inv relayId upstreamRelayId init where
  wellFormed := RegistryState.wellFormed_empty
  settled := rfl
  position := le_rfl
  told := fun h => by cases h

/-- A snapshot tells the upstream what the relay offers, and what was published before it changes
nothing more. -/
theorem Inv.snapshot (h : Inv relayId upstreamRelayId p) (told : Told) (position : Nat) :
    ∃ map, Replica.replay RegistryChange.deviceId RegistryChange.value map
        (pending position p.relay.shared) = p.relay.shared.registry.state.offered relayId ∧
      Agrees upstreamRelayId
        (told.take (snapshotFrame relayId upstreamRelayId p.relay.shared.registry.state)) map := by
  refine ⟨p.relay.shared.registry.state.offered relayId, ?_, ?_⟩
  · have hsettled := h.settled
    rw [pending, List.drop_zero,
      ← List.take_append_drop position p.relay.shared.channel, List.append_assoc] at hsettled
    exact hsettled.of_append
  · intro deviceId _
    rw [Publication.take_snapshotFrame h.wellFormed]

theorem inv_turn (h : Inv relayId upstreamRelayId p)
    (hstep : step capacity relayId upstreamRelayId maxHops p .turn = some p') :
    Inv relayId upstreamRelayId p' := by
  obtain ⟨⟨subscription, frame⟩, hturn, rfl⟩ := Option.map_eq_some_iff.mp hstep
  cases Subscription.turn_eq_some hturn with
  | snapshot howing => exact ⟨h.wellFormed, h.settled, h.position, fun _ => h.snapshot p.told _⟩
  | lagged hlag => exact ⟨h.wellFormed, h.settled, Nat.sub_le _ _, fun h => by cases h⟩
  | @received change howing hchange =>
      obtain ⟨hlt, hget⟩ := List.getElem?_eq_some_iff.mp hchange
      refine ⟨h.wellFormed, h.settled, hlt, fun _ => ?_⟩
      obtain ⟨map, hreplay, hagrees⟩ := h.told howing
      refine ⟨_, ?_, hagrees.take change⟩
      rw [pending, List.drop_eq_getElem_cons hlt, hget, List.cons_append,
        Replica.replay_cons] at hreplay
      exact hreplay

theorem inv_step {label : PumpLabel} (h : Inv relayId upstreamRelayId p) (hok : InOrder p label)
    (hstep : step capacity relayId upstreamRelayId maxHops p label = some p') :
    Inv relayId upstreamRelayId p' := by
  cases label with
  | turn => exact inv_turn h hstep
  | connect =>
      cases hstep
      exact ⟨h.wellFormed, h.settled, le_rfl, fun h => by cases h⟩
  | relay label =>
      obtain ⟨relay, hrelay, rfl⟩ := Option.map_eq_some_iff.mp hstep
      refine ⟨?_, settled_pending h.settled hok hrelay, ?_, fun howing => ?_⟩
      · cases Publication.step_eq_some hrelay with
        | spawn => exact h.wellFormed
        | publish => exact h.wellFormed
        | update hupdate => exact hupdate.wellFormed h.wellFormed
      · exact le_trans h.position (length_channel_le hrelay)
      · obtain ⟨map, hreplay, hagrees⟩ := h.told howing
        exact ⟨map, replay_pending h.position hreplay hok hrelay, hagrees⟩

end Invariant

/-- However often the link came up and however far its session fell behind, a session that has
received everything has told the upstream what a fresh snapshot would, about every device whose
route does not run through the upstream. -/
theorem told_eq_snapshot (capacity : Nat) (relayId upstreamRelayId : String) (maxHops : Nat)
    (labels : List PumpLabel) (p : Pump)
    (hrun : run (step capacity relayId upstreamRelayId maxHops) init labels = some p)
    (hok : Meets (step capacity relayId upstreamRelayId maxHops) InOrder init labels)
    (hdrained : Drained p) (deviceId : String)
    (hroutable : ∀ device ∈ p.relay.shared.registry.state.announcements relayId,
      device.id = deviceId → isRoutableFor device upstreamRelayId = true) :
    p.told deviceId = Told.nothing.take
      (snapshotFrame relayId upstreamRelayId p.relay.shared.registry.state) deviceId := by
  have hinv : Inv relayId upstreamRelayId p :=
    run_invariant (fun _ _ _ hs hlabel hstep => inv_step hs hlabel hstep)
      (inv_init relayId upstreamRelayId) hok hrun
  obtain ⟨hpublished, hsubscription⟩ := hdrained
  obtain ⟨map, hreplay, hagrees⟩ := hinv.told (by rw [hsubscription])
  rw [hsubscription, pending, hpublished, List.drop_length, List.map_nil, List.append_nil,
    Replica.replay_nil] at hreplay
  subst hreplay
  rw [Publication.take_snapshotFrame hinv.wellFormed]
  refine hagrees deviceId fun device hdevice => ?_
  have hid := hinv.wellFormed.offered_id hdevice
  exact hroutable device (hinv.wellFormed.mem_announcements.mpr (hid.symm ▸ hdevice)) hid

def fallBehind : List PumpLabel :=
  [.turn] ++
  ([.spawn (.connect (Publication.desktopPresence 0)), .advance 0 Publication.plainChoice,
    .advance 0 Publication.plainChoice, .advance 0 Publication.plainChoice,
    .spawn (.connect { Publication.desktopPresence 1 with deviceId := "device-b" }),
    .advance 1 Publication.plainChoice, .advance 1 Publication.plainChoice,
    .advance 1 Publication.plainChoice] : List PublicationLabel).map .relay ++
  [.turn, .turn, .turn]

theorem told_eq_snapshot_fallBehind :
    ∃ p, run (step 1 "relay-a" "relay-u" 8) init fallBehind = some p ∧
      p.told "device-a" = some ["relay-a"] := by
  obtain ⟨p, hrun, hdrained, hroutable, hsnapshot⟩ := exists_run (step 1 "relay-a" "relay-u" 8)
    init fallBehind (fun p => Drained p ∧
      (∀ device ∈ p.relay.shared.registry.state.announcements "relay-a",
        device.id = "device-a" → isRoutableFor device "relay-u" = true) ∧
      Told.nothing.take (snapshotFrame "relay-a" "relay-u" p.relay.shared.registry.state)
        "device-a" = some ["relay-a"]) (by decide)
  refine ⟨p, hrun, ?_⟩
  rw [told_eq_snapshot 1 "relay-a" "relay-u" 8 fallBehind p hrun (by decide) hdrained "device-a"
    hroutable]
  exact hsnapshot

end Pump

end TermexoRelay
