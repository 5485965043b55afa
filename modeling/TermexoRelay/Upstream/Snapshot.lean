import TermexoRelay.Registry.Publication

/-!
# What the upstream is told

A session sends a snapshot of the table when it comes up and one frame for each change published
afterwards. Both leave out routes that run through the upstream. A change to such a route is
skipped, also where the upstream holds an earlier route of the device.
-/

namespace TermexoRelay

open Transition

/-- Whether the upstream could use this announcement. -/
def isRoutableFor (device : AnnouncedDevice) (upstreamRelayId : String) : Bool :=
  decide (upstreamRelayId ∉ device.via)

/-- Everything this relay can offer the upstream right now. -/
def snapshotFrame (relayId upstreamRelayId : String) (state : RegistryState) : ControlFrame :=
  .announce ((state.announcements relayId).filter (isRoutableFor · upstreamRelayId))

/-- One change, as the increment the upstream is told about it. -/
def announcementFrame (upstreamRelayId : String) : RegistryChange → Option ControlFrame
  | .online device =>
      if isRoutableFor device upstreamRelayId then
        some (.deviceOnline device.id device.name device.via)
      else none
  | .offline deviceId => some (.deviceOffline deviceId)

/-- The routes an upstream has been told, by device id. -/
abbrev Told := String → Option (List String)

/-- What a frame does to them. -/
def Told.take (told : Told) : ControlFrame → Told
  | .announce devices => fun deviceId =>
      (devices.find? fun device => device.id = deviceId).map AnnouncedDevice.via
  | .deviceOnline id _ via => Function.update told id (some via)
  | .deviceOffline id => Function.update told id none
  | _ => told

def Told.nothing : Told := fun _ => none

/-- What the frames of the changes do to them. -/
def Told.follow (upstreamRelayId : String) (told : Told) (changes : List RegistryChange) : Told :=
  (changes.filterMap (announcementFrame upstreamRelayId)).foldl Told.take told

namespace Publication

/-- What the upstream holds at `now` that got its snapshot at `since`. -/
def told (relayId upstreamRelayId : String) (since now : PublicationState) : Told :=
  Told.follow upstreamRelayId
    (Told.nothing.take (snapshotFrame relayId upstreamRelayId since.shared.registry.state))
    (now.shared.channel.drop since.shared.channel.length)

/-- The change job `index` publishes next is not skipped while the upstream holds the device. -/
def unheld (relayId upstreamRelayId : String) (since p : PublicationState) (index : Nat) : Bool :=
  match p.shared.unpublished.find? fun item => item.1 = index with
  | some (_, .online device) =>
      isRoutableFor device upstreamRelayId ||
        (told relayId upstreamRelayId since p device.id).isNone
  | _ => true

/-- No change to a route through the upstream is published while the upstream holds the device. -/
def Unheld (relayId upstreamRelayId : String) (since p : PublicationState) :
    PublicationLabel → Prop
  | .advance index _ => unheld relayId upstreamRelayId since p index = true
  | .spawn _ => True
  | .environment _ => True

instance (relayId upstreamRelayId : String) (since p : PublicationState) :
    ∀ label, Decidable (Unheld relayId upstreamRelayId since p label)
  | .advance index _ => inferInstanceAs (Decidable (unheld _ _ since p index = true))
  | .spawn _ => .isTrue trivial
  | .environment _ => .isTrue trivial

/-- The part of what the relay offers that the upstream can use. -/
def usable (upstreamRelayId : String) (offered : String → Option AnnouncedDevice) : Told :=
  fun deviceId => ((offered deviceId).filter (isRoutableFor · upstreamRelayId)).map
    AnnouncedDevice.via

section Snapshot

variable {relayId upstreamRelayId : String} {maxHops : Nat}

theorem usable_of_none {offered : String → Option AnnouncedDevice} {deviceId : String}
    (h : offered deviceId = none) : usable upstreamRelayId offered deviceId = none := by
  rw [usable, h]
  rfl

theorem usable_of_some {offered : String → Option AnnouncedDevice} {deviceId : String}
    {device : AnnouncedDevice} (h : offered deviceId = some device) :
    usable upstreamRelayId offered deviceId =
      if isRoutableFor device upstreamRelayId then some device.via else none := by
  rw [usable, h, Option.filter_some]
  split <;> rfl

theorem take_snapshotFrame {state : RegistryState} (h : state.WellFormed) (told : Told) :
    told.take (snapshotFrame relayId upstreamRelayId state) =
      usable upstreamRelayId (state.offered relayId) := by
  funext deviceId
  simp only [snapshotFrame, Told.take]
  cases hfind : ((state.announcements relayId).filter (isRoutableFor · upstreamRelayId)).find?
      fun device => decide (device.id = deviceId) with
  | some device =>
      have hid : device.id = deviceId := by simpa using List.find?_some hfind
      obtain ⟨hmem, hroutable⟩ := List.mem_filter.mp (List.mem_of_find?_eq_some hfind)
      have hoffer := h.mem_announcements.mp hmem
      rw [hid] at hoffer
      rw [usable_of_some hoffer, if_pos hroutable]
      rfl
  | none =>
      cases hoffer : state.offered relayId deviceId with
      | none => exact (usable_of_none hoffer).symm
      | some device =>
          have hid := h.offered_id hoffer
          have hmem := h.mem_announcements.mpr (hid.symm ▸ hoffer)
          have hskipped : isRoutableFor device upstreamRelayId = false := by
            rw [Bool.eq_false_iff]
            intro hroutable
            have hnot := List.find?_eq_none.mp hfind device
              (List.mem_filter.mpr ⟨hmem, hroutable⟩)
            simp [hid] at hnot
          rw [usable_of_some hoffer, hskipped]
          rfl

/-- The frame of one change keeps the upstream at the usable part of what the change leaves, unless
it skips a device the upstream holds. -/
theorem follow_usable {offered : String → Option AnnouncedDevice} {change : RegistryChange}
    (h : ∀ device, change = .online device → isRoutableFor device upstreamRelayId = true ∨
      usable upstreamRelayId offered device.id = none) :
    Told.follow upstreamRelayId (usable upstreamRelayId offered) [change] =
      usable upstreamRelayId
        (Replica.apply RegistryChange.deviceId RegistryChange.value offered change) := by
  funext deviceId
  by_cases hid : deviceId = change.deviceId
  · subst hid
    cases change with
    | offline id =>
        have hleft : Replica.apply RegistryChange.deviceId RegistryChange.value offered
            (.offline id) (RegistryChange.offline id).deviceId = none := Replica.apply_self
        rw [usable_of_none hleft]
        simp [Told.follow, announcementFrame, Told.take, RegistryChange.deviceId]
    | online device =>
        have hleft : Replica.apply RegistryChange.deviceId RegistryChange.value offered
            (.online device) (RegistryChange.online device).deviceId = some device :=
          Replica.apply_self
        rw [usable_of_some hleft]
        by_cases hroutable : isRoutableFor device upstreamRelayId = true
        · simp [Told.follow, announcementFrame, Told.take, RegistryChange.deviceId, hroutable]
        · have hnone := (h device rfl).resolve_left hroutable
          simp [Told.follow, announcementFrame, RegistryChange.deviceId, hroutable, hnone]
  · have hkept : usable upstreamRelayId (Replica.apply RegistryChange.deviceId
        RegistryChange.value offered change) deviceId =
      usable upstreamRelayId offered deviceId := by
      rw [usable, Replica.apply_of_ne hid, usable]
    rw [hkept]
    cases change with
    | offline id =>
        have hne : deviceId ≠ id := hid
        simp [Told.follow, announcementFrame, Told.take, hne]
    | online device =>
        have hne : deviceId ≠ device.id := hid
        by_cases hroutable : isRoutableFor device upstreamRelayId = true
        · simp [Told.follow, announcementFrame, Told.take, hroutable, hne]
        · simp [Told.follow, announcementFrame, hroutable]

theorem follow_append (told : Told) (changes changes' : List RegistryChange) :
    Told.follow upstreamRelayId told (changes ++ changes') =
      Told.follow upstreamRelayId (Told.follow upstreamRelayId told changes) changes' := by
  rw [Told.follow, List.filterMap_append, List.foldl_append]
  rfl

/-- The channel has only grown since the snapshot, and the upstream holds the usable part of what a
subscriber that skips nothing would. -/
structure UpToDate (relayId upstreamRelayId : String) (since p : PublicationState) : Prop where
  grown : since.shared.channel <+: p.shared.channel
  usable : told relayId upstreamRelayId since p =
    usable upstreamRelayId (subscriber relayId since p)

theorem upToDate_refl {since : PublicationState}
    (h : since.shared.registry.state.WellFormed) :
    UpToDate relayId upstreamRelayId since since where
  grown := List.prefix_refl _
  usable := by
    rw [told, subscriber, List.drop_length, Replica.replay_nil, holding_announcements h]
    exact take_snapshotFrame h Told.nothing

theorem upToDate_step {since p p' : PublicationState} {label : PublicationLabel}
    (h : UpToDate relayId upstreamRelayId since p)
    (hok : Unheld relayId upstreamRelayId since p label)
    (hstep : step relayId maxHops p label = some p') :
    UpToDate relayId upstreamRelayId since p' := by
  obtain ⟨changes, hchanges⟩ := h.grown
  cases step_eq_some hstep with
  | spawn => exact ⟨h.grown, h.usable⟩
  | update _ => exact ⟨h.grown, h.usable⟩
  | @publish index choice before after item tasks hsplit hfirst hbefore =>
      refine ⟨⟨changes ++ [item.2], by rw [← List.append_assoc, hchanges]⟩, ?_⟩
      have hold := h.usable
      rw [told, subscriber, ← hchanges, List.drop_left] at hold
      rw [told, subscriber, ← hchanges, List.append_assoc, List.drop_left, follow_append, hold,
        Replica.replay_append, follow_usable]
      · rfl
      · intro device hdevice
        obtain ⟨owner, change⟩ := item
        subst hdevice
        simp only [Unheld, unheld, hfirst, Bool.or_eq_true, Option.isNone_iff_eq_none] at hok
        rw [told, ← hchanges, List.drop_left, hold] at hok
        exact hok

end Snapshot

/-- Once every change is published, the upstream holds what a fresh snapshot would tell it, in every
run in which no change overtakes one about the same device and none to a route through the upstream
is published while the upstream holds the device. -/
theorem changes_match_snapshot (relayId upstreamRelayId : String) (maxHops : Nat)
    (labels labels' : List PublicationLabel) (since now : PublicationState)
    (hsince : run (step relayId maxHops) init labels = some since)
    (hnow : run (step relayId maxHops) since labels' = some now)
    (horder : Meets (step relayId maxHops) InOrder init (labels ++ labels'))
    (hunheld : Meets (step relayId maxHops) (Unheld relayId upstreamRelayId since) since labels')
    (hpublished : now.shared.unpublished = []) :
    told relayId upstreamRelayId since now =
      Told.nothing.take (snapshotFrame relayId upstreamRelayId now.shared.registry.state) := by
  obtain ⟨horder, horder'⟩ := (meets_append hsince).mp horder
  have hinv : Inv relayId since :=
    run_invariant (fun _ _ _ hs hlabel hstep => inv_step hs hlabel hstep) (inv_init relayId) horder
      hsince
  have hwell : now.shared.registry.state.WellFormed :=
    (run_invariant (fun _ _ _ hs hlabel hstep => inv_step hs hlabel hstep) hinv horder'
      hnow).wellFormed
  have hstart : Follows relayId (holding (since.shared.registry.state.announcements relayId))
      since := by
    rw [Follows, holding_announcements hinv.wellFormed]
    exact hinv.settled
  obtain ⟨sent, hsent, hfollows⟩ := follows_run hstart horder' hnow
  rw [Follows, hpublished, Replica.replay_nil] at hfollows
  have hsubscriber : subscriber relayId since now = now.shared.registry.state.offered relayId := by
    rw [subscriber, hsent, List.drop_left, hfollows]
  have huptodate : UpToDate relayId upstreamRelayId since now :=
    run_invariant (fun _ _ _ hs hlabel hstep => upToDate_step hs hlabel hstep)
      (upToDate_refl hinv.wellFormed) hunheld hnow
  rw [huptodate.usable, hsubscriber, take_snapshotFrame hwell]

theorem changes_match_snapshot_connect :
    ∃ now, run (step "relay-a" 8) init connectAlone = some now ∧
      told "relay-a" "relay-u" init now "device-a" = some ["relay-a"] := by
  obtain ⟨now, hnow, hpublished, hsnapshot⟩ := exists_run (step "relay-a" 8) init connectAlone
    (fun now => now.shared.unpublished = [] ∧ Told.nothing.take
      (snapshotFrame "relay-a" "relay-u" now.shared.registry.state) "device-a" = some ["relay-a"])
    (by decide)
  refine ⟨now, hnow, ?_⟩
  rw [changes_match_snapshot "relay-a" "relay-u" 8 [] connectAlone init now rfl hnow (by decide)
    (by decide) hpublished]
  exact hsnapshot

def announceThroughUpstream : List PublicationLabel :=
  [.spawn (.announce "link-x" ⟨"link-x", 0⟩ ⟨"device-a", "desk", true, ["relay-x"]⟩ none),
    .advance 0 plainChoice, .advance 0 plainChoice, .advance 0 plainChoice,
    .spawn (.announce "link-u" ⟨"link-u", 1⟩ ⟨"device-a", "desk", true, ["relay-u"]⟩ none),
    .advance 1 plainChoice, .advance 1 plainChoice, .advance 1 plainChoice]

/-- The upstream keeps the first route, which no snapshot would tell it any more. -/
theorem changes_keep_replaced_route :
    ¬ ∀ (relayId upstreamRelayId : String) (maxHops : Nat) (labels labels' : List PublicationLabel)
      (since now : PublicationState), run (step relayId maxHops) init labels = some since →
      run (step relayId maxHops) since labels' = some now → now.shared.unpublished = [] →
      Meets (step relayId maxHops) InOrder init (labels ++ labels') →
      told relayId upstreamRelayId since now =
        Told.nothing.take (snapshotFrame relayId upstreamRelayId now.shared.registry.state) := by
  intro h
  obtain ⟨now, hnow, hpublished, htold, hsnapshot⟩ := exists_run (step "relay-a" 8) init
    announceThroughUpstream (fun now => now.shared.unpublished = [] ∧
      told "relay-a" "relay-u" init now "device-a" = some ["relay-a", "relay-x"] ∧
      Told.nothing.take (snapshotFrame "relay-a" "relay-u" now.shared.registry.state) "device-a" =
        none) (by decide)
  have hsame := congrFun (h "relay-a" "relay-u" 8 [] announceThroughUpstream init now rfl hnow
    hpublished (by decide)) "device-a"
  rw [htold, hsnapshot] at hsame
  cases hsame

end Publication

end TermexoRelay
