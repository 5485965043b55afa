import TermexoRelay.Registry.Registrations

/-!
# Reachable or remembered

A device the registry can route to stands in one table, a device it only remembers in another.
Whichever operations are called, and whichever of them takes the lock next, no device stands in
both, and a link that is disconnected leaves nothing of its own in any table.
-/

namespace TermexoRelay

open Transition

namespace RegistryState

/-- No device that can be routed to is remembered as gone. -/
def Apart (state : RegistryState) : Prop :=
  ∀ deviceId ∈ state.entries, deviceId ∉ state.withdrawn

/-- Nothing belongs to the link: it has no entry, announced none and withdrew none, and no relay is
reached through it. -/
structure OwnsNothing (state : RegistryState) (linkDeviceId : String) : Prop where
  entry : linkDeviceId ∉ state.entries
  announced : ∀ deviceId entry, state.entries.lookup deviceId = some entry →
    entry.origin ≠ .announced linkDeviceId
  withdrawn : ∀ deviceId device, state.withdrawn.lookup deviceId = some device →
    device.linkDeviceId ≠ linkDeviceId
  relayLinks : ∀ relayId owner, state.relayLinks.lookup relayId = some owner →
    owner ≠ linkDeviceId

section Tables

variable {relayId deviceId linkDeviceId : String} {serial : Nat} {announced : List String}
  {now : Int} {state state' : RegistryState} {entry : Entry} {changes : List RegistryChange}
  {change : Option RegistryChange}

theorem apart_empty : empty.Apart := by
  intro deviceId h
  exact absurd h (AList.notMem_empty deviceId)

theorem Apart.insert (h : state.Apart)
    (hentries : state'.entries = state.entries.insert deviceId entry)
    (hwithdrawn : state'.withdrawn = state.withdrawn.erase deviceId) : state'.Apart := by
  intro id hid
  rw [hentries, AList.mem_insert] at hid
  rw [hwithdrawn, AList.mem_erase]
  rintro ⟨hne, hgone⟩
  exact h id (hid.resolve_left hne) hgone

theorem Apart.subset (h : state.Apart) (hentries : ∀ id ∈ state'.entries, id ∈ state.entries)
    (hwithdrawn : ∀ id ∈ state'.withdrawn, id ∈ state.withdrawn) : state'.Apart := by
  intro id hid hgone
  exact h id (hentries id hid) (hwithdrawn id hgone)

theorem Apart.disconnectLocked (h : state.Apart)
    (hlocked : state.disconnectLocked relayId deviceId serial announced = some (state', changes)) :
    state'.Apart := by
  obtain ⟨-, -, hwithdrawn, -⟩ := disconnectLocked_eq_some hlocked
  apply h.subset
  · intro id hid
    obtain ⟨entry, hentry⟩ := Option.isSome_iff_exists.mp (AList.lookup_isSome.mpr hid)
    have hold := lookup_of_disconnectLocked hlocked hentry
    exact AList.lookup_isSome.mp (Option.isSome_of_eq_some hold)
  · intro id hid
    rw [← AList.lookup_isSome, hwithdrawn] at hid
    exact AList.lookup_isSome.mp (Option.isSome_of_isSome_filter _ _ hid)

theorem Apart.withdrawLocked (h : state.Apart)
    (hlocked : state.withdrawLocked relayId linkDeviceId deviceId now = some (state', change)) :
    state'.Apart := by
  obtain ⟨_, -, -, hentries, hwithdrawn, -⟩ := withdrawLocked_eq_some hlocked
  intro id hid hgone
  rw [hentries, AList.mem_erase] at hid
  rw [hwithdrawn, AList.mem_insert] at hgone
  exact h id hid.2 (hgone.resolve_left hid.1)

theorem ownsNothing_of_disconnectLocked (hperm : announced.Perm (state.announcedIdsOf deviceId))
    (hlocked : state.disconnectLocked relayId deviceId serial announced = some (state', changes)) :
    state'.OwnsNothing deviceId := by
  obtain ⟨-, hentries, hwithdrawn, -⟩ := disconnectLocked_eq_some hlocked
  constructor
  · rw [← AList.lookup_eq_none, hentries, if_pos List.mem_cons_self]
  · intro id entry hentry horigin
    rw [hentries] at hentry
    split at hentry
    · cases hentry
    · next hkept =>
        have hmem : id ∈ state.announcedIdsOf deviceId :=
          mem_announcedIdsOf.mpr ⟨entry, hentry, horigin⟩
        exact hkept (List.mem_cons_of_mem _ (hperm.mem_iff.mpr hmem))
  · intro id device hdevice
    rw [hwithdrawn, Option.filter_eq_some_iff] at hdevice
    exact of_decide_eq_true hdevice.2
  · intro id owner howner
    rw [disconnectLocked_relayLinks hlocked, Table.lookup_retain_eq_some] at howner
    exact of_decide_eq_true howner.2

end Tables

end RegistryState

theorem TableUpdate.apart {relayId : String} {state state' : RegistryState}
    {changes : List RegistryChange} (h : TableUpdate relayId state state' changes)
    (hs : state.Apart) : state'.Apart := by
  cases h with
  | unchanged => exact hs
  | connect presence serial now => exact hs.insert rfl rfl
  | disconnect hperm hlocked => exact hs.disconnectLocked hlocked
  | announce hlocked =>
      obtain ⟨-, hentries, hwithdrawn, -⟩ := RegistryState.announceLocked_eq_some hlocked
      exact hs.insert hentries hwithdrawn
  | withdraw hlocked => exact hs.withdrawLocked hlocked

/-- Every entry is filed under its own id, and no device is both routable and remembered. -/
structure RegistryState.Kept (state : RegistryState) : Prop where
  wellFormed : state.WellFormed
  apart : state.Apart

theorem RegistryState.Kept.lastKnown_eq_none {state : RegistryState} (h : state.Kept)
    {deviceId : String} (honline : state.isOnline deviceId = true) :
    state.lastKnown deviceId = none := by
  have hentry : deviceId ∈ state.entries := AList.lookup_isSome.mp honline
  rw [lastKnown, AList.lookup_eq_none.mpr (h.apart deviceId hentry), Option.map_none]

theorem RegistryState.kept_empty : empty.Kept := ⟨wellFormed_empty, apart_empty⟩

/-- Every update of the table keeps it so, whichever job makes it. -/
theorem TableUpdate.kept {relayId : String} {state state' : RegistryState}
    {changes : List RegistryChange} (h : TableUpdate relayId state state' changes)
    (hs : state.Kept) : state'.Kept :=
  ⟨h.wellFormed hs.wellFormed, h.apart hs.apart⟩

namespace Registrations

variable {relayId : String} {maxHops : Nat} {p p' : RegistrationState} {label : RegistrationLabel}

theorem kept_step (hs : p.shared.registry.state.Kept)
    (h : step relayId maxHops p label = some p') : p'.shared.registry.state.Kept := by
  cases label with
  | environment event => cases event
  | spawn job =>
      obtain ⟨-, rfl⟩ := poolStep_spawn h
      exact hs
  | advance index choice =>
      obtain ⟨job, shared, job', -, hadvance, rfl⟩ := poolStep_advance h
      obtain ⟨changes, hstep, -⟩ := advance_eq_some hadvance
      exact (Job.step_tableUpdate hstep).kept hs

theorem disconnectLocked_of_returned {deviceId : String} {serial : Nat}
    (h : step relayId maxHops p label = some p')
    (hreturned : p'.shared.returned =
      p.shared.returned ++ [.disconnected deviceId serial true]) :
    ∃ announced changes, announced.Perm (p.shared.registry.state.announcedIdsOf deviceId) ∧
      p.shared.registry.state.disconnectLocked relayId deviceId serial announced =
        some (p'.shared.registry.state, changes) := by
  cases label with
  | environment event => cases event
  | spawn job =>
      obtain ⟨-, rfl⟩ := poolStep_spawn h
      simp at hreturned
  | advance index choice =>
      obtain ⟨job, ⟨registry, returned⟩, job', -, hadvance, rfl⟩ := poolStep_advance h
      obtain ⟨changes, hstep, hlog⟩ := advance_eq_some hadvance
      rw [hlog, List.append_cancel_left_eq, Option.toList_eq_singleton_iff] at hreturned
      dsimp only at hstep
      cases Job.step_cases hstep with
      | disconnected hperm hlocked =>
          rw [Job.returns, hlocked] at hreturned
          cases hreturned
          exact ⟨choice.order, changes, hperm, hlocked⟩
      | displaced hlocked =>
          rw [Job.returns, hlocked] at hreturned
          cases hreturned
      | _ => cases hreturned

end Registrations

/-- In every run of registry operations, with their actions in any order, every entry is filed under
its own id and no device is both routable and remembered as gone. When a `disconnect` returns
`true`, nothing is left that its link owned. -/
theorem registry_tables_kept (relayId : String) (maxHops : Nat) (labels : List RegistrationLabel)
    (p : RegistrationState)
    (hrun : run (Registrations.step relayId maxHops) Registrations.init labels = some p) :
    p.shared.registry.state.Kept ∧
      ∀ label p' deviceId serial, Registrations.step relayId maxHops p label = some p' →
        p'.shared.returned = p.shared.returned ++ [.disconnected deviceId serial true] →
        p'.shared.registry.state.OwnsNothing deviceId := by
  have hreachable : Reachable (Registrations.step relayId maxHops) Registrations.init p :=
    ⟨labels, hrun⟩
  constructor
  · apply hreachable.invariant RegistryState.kept_empty
    intro p label p' hs hstep
    exact Registrations.kept_step hs hstep
  · intro label p' deviceId serial hstep hreturned
    obtain ⟨announced, changes, hperm, hlocked⟩ :=
      Registrations.disconnectLocked_of_returned hstep hreturned
    exact RegistryState.ownsNothing_of_disconnectLocked hperm hlocked

namespace Registrations

def announceAndWithdraw : List RegistrationLabel :=
  [.spawn (.connect ⟨"link-b", "relay", .relay, some "relay-b", none, none, ⟨"link-b", 0⟩⟩),
    .advance 0 ⟨0, []⟩, .advance 0 ⟨0, []⟩,
    .spawn (.announce "link-b" ⟨"link-b", 0⟩ ⟨"device-d", "desk", true, ["relay-b"]⟩ none),
    .advance 1 ⟨0, []⟩, .advance 1 ⟨0, []⟩,
    .spawn (.withdraw "link-b" "device-d" []), .advance 2 ⟨5, []⟩]

def linkEnds : List RegistrationLabel :=
  announceAndWithdraw ++ [.spawn (.disconnect "link-b" 0)]

end Registrations

theorem registry_tables_kept_link : ∃ p p',
    run (Registrations.step "relay-a" 8) Registrations.init Registrations.linkEnds = some p ∧
    p.shared.registry.state.lastKnown "device-d" = some ⟨"desk", 5⟩ ∧
    Registrations.step "relay-a" 8 p (.advance 3 ⟨9, []⟩) = some p' ∧
    p.shared.registry.state.Kept ∧ p'.shared.registry.state.OwnsNothing "link-b" := by
  obtain ⟨p, hrun, hknown, hends⟩ := exists_run (Registrations.step "relay-a" 8)
    Registrations.init Registrations.linkEnds
    (fun p => p.shared.registry.state.lastKnown "device-d" = some ⟨"desk", 5⟩ ∧
      (Registrations.step "relay-a" 8 p (.advance 3 ⟨9, []⟩)).any (fun p' =>
        p'.shared.returned = p.shared.returned ++ [.disconnected "link-b" 0 true]) = true)
    (by decide)
  obtain ⟨p', hstep, hreturned⟩ := (Option.any_eq_true _ _).mp hends
  obtain ⟨hkept, hgone⟩ := registry_tables_kept "relay-a" 8 Registrations.linkEnds p hrun
  exact ⟨p, p', hrun, hknown, hstep, hkept,
    hgone _ p' "link-b" 0 hstep (of_decide_eq_true hreturned)⟩

end TermexoRelay
