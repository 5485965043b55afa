import TermexoRelay.Library.Replica
import TermexoRelay.Registry.State

/-!
# What a locked update does to the table

For each locked update: which entry every id has afterwards, that entries stay filed under their
own id, and that the changes it returns carry what the relay offered before over to what it offers
afterwards.
-/

namespace TermexoRelay

/-- The entry is filed under its own id, and its origin and its route are of the same kind. -/
structure Entry.Formed (deviceId : String) (entry : Entry) : Prop where
  named : entry.device.deviceId = deviceId
  direct : ∀ serial, entry.origin = .direct serial → ∃ handle, entry.device.route = .direct handle
  announced : ∀ linkDeviceId, entry.origin = .announced linkDeviceId →
    ∃ link hops, entry.device.route = .via link hops

theorem DirectPresence.entry_formed (presence : DirectPresence) (serial : Nat) (now : Int) :
    (presence.entry serial now).Formed presence.deviceId where
  named := rfl
  direct _ _ := ⟨presence.handle, rfl⟩
  announced _ h := by cases h

theorem AnnouncedDevice.entry_formed (device : AnnouncedDevice) (linkDeviceId : String)
    (link : TunnelHandle) (sequence : Nat) (now : Int) :
    (device.entry linkDeviceId link sequence now).Formed device.id where
  named := rfl
  direct _ h := by cases h
  announced _ _ := ⟨link, device.via, rfl⟩

theorem announcementOf_id {relayId : String} {entry : Entry} {device : AnnouncedDevice}
    (h : announcementOf relayId entry = some device) : device.id = entry.device.deviceId := by
  unfold announcementOf at h
  split at h
  · cases h
  · rw [← Option.some.inj h]

/-- The value a change leaves under its id. -/
def RegistryChange.value : RegistryChange → Option AnnouncedDevice
  | online device => some device
  | offline _ => none

theorem replay_transition {relayId deviceId : String} {previous current : Option Entry}
    {offered : String → Option AnnouncedDevice}
    (hprevious : offered deviceId = previous.bind (announcementOf relayId))
    (hcurrent : ∀ entry, current = some entry → entry.device.deviceId = deviceId) :
    Replica.replay RegistryChange.deviceId RegistryChange.value offered
        (transition relayId deviceId previous current).toList =
      Function.update offered deviceId (current.bind (announcementOf relayId)) := by
  unfold transition
  cases hann : current.bind (announcementOf relayId) with
  | some device =>
      obtain ⟨entry, hentry, hdevice⟩ := Option.bind_eq_some_iff.mp hann
      have hid : device.id = deviceId := (announcementOf_id hdevice).trans (hcurrent entry hentry)
      subst hid
      rfl
  | none =>
      cases hprev : previous.bind (announcementOf relayId) with
      | some device => rfl
      | none =>
          rw [hprev] at hprevious
          exact (Function.update_eq_self_iff.mpr hprevious.symm).symm

theorem replaces_via {link link' : TunnelHandle} {hops hops' : List String}
    {sequence sequence' : Nat} :
    replaces (.via link hops) sequence (.via link' hops') sequence' = true ↔
      hops'.length < hops.length ∨ hops'.length = hops.length ∧ sequence < sequence' := by
  simp only [replaces, Bool.or_eq_true, Bool.and_eq_true, decide_eq_true_eq]
  rfl

namespace RegistryState

/-- What this relay offers an upstream under one id. -/
def offered (relayId : String) (state : RegistryState) (deviceId : String) :
    Option AnnouncedDevice :=
  (state.entries.lookup deviceId).bind (announcementOf relayId)

def WellFormed (state : RegistryState) : Prop :=
  ∀ deviceId entry, state.entries.lookup deviceId = some entry → entry.Formed deviceId

theorem wellFormed_empty : empty.WellFormed := by
  intro deviceId entry h
  rw [empty, AList.lookup_empty] at h
  cases h

theorem mem_announcedIdsOf {state : RegistryState} {linkDeviceId deviceId : String} :
    deviceId ∈ state.announcedIdsOf linkDeviceId ↔ ∃ entry,
      state.entries.lookup deviceId = some entry ∧ entry.origin = .announced linkDeviceId := by
  simp only [announcedIdsOf, Table.mem_keysWhere, decide_eq_true_eq]

theorem registered_iff {state : RegistryState} {deviceId : String} {serial : Nat} :
    state.registered deviceId serial = true ↔ ∃ entry,
      state.entries.lookup deviceId = some entry ∧ entry.origin = .direct serial := by
  unfold registered
  cases state.entries.lookup deviceId <;> simp

theorem WellFormed.mem_announcements {relayId : String} {state : RegistryState}
    (h : state.WellFormed) {device : AnnouncedDevice} :
    device ∈ state.announcements relayId ↔ state.offered relayId device.id = some device := by
  simp only [announcements, offered, List.mem_filterMap, Table.mem_rows, Option.bind_eq_some_iff]
  constructor
  · rintro ⟨entry, ⟨deviceId, hentry⟩, hdevice⟩
    have hid : device.id = deviceId := (announcementOf_id hdevice).trans (h _ _ hentry).named
    exact ⟨entry, hid ▸ hentry, hdevice⟩
  · rintro ⟨entry, hentry, hdevice⟩
    exact ⟨entry, ⟨device.id, hentry⟩, hdevice⟩

theorem WellFormed.offered_id {relayId : String} {state : RegistryState} (h : state.WellFormed)
    {deviceId : String} {device : AnnouncedDevice}
    (hoffer : state.offered relayId deviceId = some device) : device.id = deviceId := by
  obtain ⟨entry, hentry, hdevice⟩ := Option.bind_eq_some_iff.mp hoffer
  exact (announcementOf_id hdevice).trans (h _ _ hentry).named

section Insert

theorem WellFormed.insert {state state' : RegistryState} (h : state.WellFormed)
    {deviceId : String} {entry : Entry} (hentry : entry.Formed deviceId)
    (hinsert : state'.entries = state.entries.insert deviceId entry) : state'.WellFormed := by
  intro id row hrow
  rw [hinsert] at hrow
  rcases Table.lookup_insert_cases hrow with ⟨rfl, rfl⟩ | ⟨_, hrow⟩
  · exact hentry
  · exact h id row hrow

theorem WellFormed.subset {state state' : RegistryState} (h : state.WellFormed)
    (hsubset : ∀ id row, state'.entries.lookup id = some row →
      state.entries.lookup id = some row) : state'.WellFormed :=
  fun id row hrow => h id row (hsubset id row hrow)

theorem offered_insert {relayId deviceId : String} {state state' : RegistryState} {entry : Entry}
    (hinsert : state'.entries = state.entries.insert deviceId entry) :
    state'.offered relayId = Function.update (state.offered relayId) deviceId
      (announcementOf relayId entry) := by
  funext id
  by_cases hid : id = deviceId
  · subst hid
    rw [Function.update_self, offered, hinsert, AList.lookup_insert, Option.bind_some]
  · rw [Function.update_of_ne hid, offered, hinsert, AList.lookup_insert_ne hid, offered]

end Insert

section Connect

variable (relayId : String) (presence : DirectPresence) (serial : Nat) (now : Int)
  (state : RegistryState)

theorem connectLocked_entries : (state.connectLocked relayId presence serial now).1.entries =
    state.entries.insert presence.deviceId (presence.entry serial now) := rfl

theorem connectLocked_withdrawn : (state.connectLocked relayId presence serial now).1.withdrawn =
    state.withdrawn.erase presence.deviceId := rfl

variable {state} in
theorem WellFormed.connectLocked (h : state.WellFormed) :
    (state.connectLocked relayId presence serial now).1.WellFormed :=
  h.insert (presence.entry_formed serial now) rfl

theorem replay_connectLocked :
    Replica.replay RegistryChange.deviceId RegistryChange.value (state.offered relayId)
        (state.connectLocked relayId presence serial now).2.2.toList =
      (state.connectLocked relayId presence serial now).1.offered relayId := by
  rw [offered_insert (connectLocked_entries relayId presence serial now state)]
  exact replay_transition rfl fun entry hentry => Option.some.inj hentry ▸ rfl

end Connect

section Disconnect

variable {relayId deviceId : String} {serial : Nat} {announced : List String}
  {state state' : RegistryState} {changes : List RegistryChange}

theorem disconnectLocked_eq_some
    (h : state.disconnectLocked relayId deviceId serial announced = some (state', changes)) :
    state.registered deviceId serial = true ∧
      (∀ id, state'.entries.lookup id =
        if id ∈ deviceId :: announced then none else state.entries.lookup id) ∧
      (∀ id, state'.withdrawn.lookup id = (state.withdrawn.lookup id).filter fun device =>
        decide (device.linkDeviceId ≠ deviceId)) ∧
      changes = (deviceId :: announced).filterMap fun id =>
        (state.entries.lookup id).bind fun entry => transition relayId id (some entry) none := by
  unfold disconnectLocked at h
  split at h
  · next hregistered =>
      simp only [Option.some.injEq, Prod.mk.injEq] at h
      obtain ⟨rfl, rfl⟩ := h
      exact ⟨hregistered, fun id => Table.lookup_eraseAll _ _ id,
        fun id => Table.lookup_retain _ _ id, rfl⟩
  · cases h

theorem lookup_of_disconnectLocked
    (h : state.disconnectLocked relayId deviceId serial announced = some (state', changes))
    {id : String} {entry : Entry} (hentry : state'.entries.lookup id = some entry) :
    state.entries.lookup id = some entry := by
  rw [(disconnectLocked_eq_some h).2.1] at hentry
  split at hentry
  · cases hentry
  · exact hentry

theorem disconnectLocked_relayLinks
    (h : state.disconnectLocked relayId deviceId serial announced = some (state', changes)) :
    state'.relayLinks =
      state.relayLinks.retain fun _ linkDeviceId => decide (linkDeviceId ≠ deviceId) := by
  simp only [disconnectLocked, Option.ite_none_right_eq_some, Option.some.injEq,
    Prod.mk.injEq] at h
  obtain ⟨-, rfl, -⟩ := h
  rfl

theorem WellFormed.disconnectLocked (hs : state.WellFormed)
    (h : state.disconnectLocked relayId deviceId serial announced = some (state', changes)) :
    state'.WellFormed := by
  apply hs.subset
  intro id row hrow
  exact lookup_of_disconnectLocked h hrow

theorem replay_disconnectLocked
    (h : state.disconnectLocked relayId deviceId serial announced = some (state', changes)) :
    Replica.replay RegistryChange.deviceId RegistryChange.value (state.offered relayId) changes =
      state'.offered relayId := by
  obtain ⟨-, hentries, -, rfl⟩ := disconnectLocked_eq_some h
  have hgone : ∀ id change, (state.entries.lookup id).bind (fun entry =>
      transition relayId id (some entry) none) = some change ↔
        change = .offline id ∧ (state.offered relayId id).isSome = true := by
    intro id change
    unfold offered
    cases state.entries.lookup id with
    | none => simp
    | some entry =>
        simp only [Option.bind_some, transition, Option.bind_none]
        by_cases hann : (announcementOf relayId entry).isSome = true
        · simp [hann, eq_comm]
        · simp [hann]
  funext id
  rw [Replica.replay_removals fun change hchange => by
    obtain ⟨id', _, hid'⟩ := List.mem_filterMap.mp hchange
    rw [((hgone id' change).mp hid').1]
    rfl]
  have hmem : (∃ change ∈ (deviceId :: announced).filterMap fun id =>
      (state.entries.lookup id).bind fun entry => transition relayId id (some entry) none,
        change.deviceId = id) ↔ id ∈ deviceId :: announced ∧
          (state.offered relayId id).isSome = true := by
    simp only [List.mem_filterMap, hgone]
    constructor
    · rintro ⟨_, ⟨id', hid', rfl, hsome⟩, rfl⟩
      exact ⟨hid', hsome⟩
    · rintro ⟨hid, hsome⟩
      exact ⟨.offline id, ⟨id, hid, rfl, hsome⟩, rfl⟩
  rw [if_congr hmem rfl rfl]
  by_cases hid : id ∈ deviceId :: announced
  · have hnone : state'.offered relayId id = none := by
      rw [offered, hentries, if_pos hid, Option.bind_none]
    rw [hnone]
    cases hoffer : state.offered relayId id <;> simp [hid]
  · rw [if_neg fun hand => hid hand.1, offered, offered, hentries, if_neg hid]

end Disconnect

section Announce

variable {relayId linkDeviceId : String} {link : TunnelHandle} {device : AnnouncedDevice}
  {sequence : Nat} {now : Int} {state state' : RegistryState} {change : Option RegistryChange}

theorem announceLocked_eq_some
    (h : state.announceLocked relayId linkDeviceId link device sequence now =
      some (state', change)) :
    (∀ existing, state.entries.lookup device.id = some existing →
        replaces existing.device.route existing.sequence (.via link device.via) sequence = true) ∧
      state'.entries =
        state.entries.insert device.id (device.entry linkDeviceId link sequence now) ∧
      state'.withdrawn = state.withdrawn.erase device.id ∧
      change = transition relayId device.id (state.entries.lookup device.id)
        (some (device.entry linkDeviceId link sequence now)) := by
  simp only [announceLocked, Option.ite_none_right_eq_some, Option.some.injEq,
    Prod.mk.injEq] at h
  obtain ⟨hwins, rfl, rfl⟩ := h
  refine ⟨fun existing hexisting => ?_, rfl, rfl, rfl⟩
  rwa [hexisting] at hwins

theorem announceLocked_eq_none
    (h : state.announceLocked relayId linkDeviceId link device sequence now = none) :
    ∃ existing, state.entries.lookup device.id = some existing ∧
      replaces existing.device.route existing.sequence (.via link device.via) sequence = false := by
  unfold announceLocked at h
  cases hexisting : state.entries.lookup device.id with
  | none => simp [hexisting] at h
  | some existing =>
      refine ⟨existing, rfl, ?_⟩
      simpa [hexisting, AnnouncedDevice.entry] using h

theorem WellFormed.announceLocked (hs : state.WellFormed)
    (h : state.announceLocked relayId linkDeviceId link device sequence now =
      some (state', change)) : state'.WellFormed :=
  hs.insert (device.entry_formed linkDeviceId link sequence now) (announceLocked_eq_some h).2.1

theorem replay_announceLocked
    (h : state.announceLocked relayId linkDeviceId link device sequence now =
      some (state', change)) :
    Replica.replay RegistryChange.deviceId RegistryChange.value (state.offered relayId)
      change.toList = state'.offered relayId := by
  obtain ⟨-, hentries, -, rfl⟩ := announceLocked_eq_some h
  rw [offered_insert hentries]
  exact replay_transition rfl fun entry hentry => Option.some.inj hentry ▸ rfl

end Announce

section Withdraw

variable {relayId linkDeviceId deviceId : String} {now : Int} {state state' : RegistryState}
  {change : Option RegistryChange}

theorem withdrawLocked_eq_some
    (h : state.withdrawLocked relayId linkDeviceId deviceId now = some (state', change)) :
    ∃ entry, state.entries.lookup deviceId = some entry ∧
      entry.origin = .announced linkDeviceId ∧
      state'.entries = state.entries.erase deviceId ∧
      state'.withdrawn =
        state.withdrawn.insert deviceId ⟨linkDeviceId, entry.device.name, now⟩ ∧
      change = transition relayId deviceId (some entry) none := by
  unfold withdrawLocked at h
  cases hentry : state.entries.lookup deviceId with
  | none => simp [hentry] at h
  | some entry =>
      simp only [hentry, Option.ite_none_right_eq_some, Option.some.injEq, Prod.mk.injEq] at h
      obtain ⟨horigin, rfl, rfl⟩ := h
      exact ⟨entry, rfl, horigin, rfl, rfl, rfl⟩

theorem lookup_of_withdrawLocked
    (h : state.withdrawLocked relayId linkDeviceId deviceId now = some (state', change))
    {id : String} {entry : Entry} (hentry : state'.entries.lookup id = some entry) :
    state.entries.lookup id = some entry := by
  obtain ⟨_, -, -, hentries, -⟩ := withdrawLocked_eq_some h
  rw [hentries] at hentry
  exact (Table.lookup_erase_cases hentry).2

theorem withdrawLocked_eq_none (h : state.withdrawLocked relayId linkDeviceId deviceId now = none) :
    deviceId ∉ state.announcedIdsOf linkDeviceId := by
  rw [mem_announcedIdsOf]
  rintro ⟨entry, hentry, horigin⟩
  simp [withdrawLocked, hentry, horigin] at h

theorem WellFormed.withdrawLocked (hs : state.WellFormed)
    (h : state.withdrawLocked relayId linkDeviceId deviceId now = some (state', change)) :
    state'.WellFormed := by
  apply hs.subset
  intro id row hrow
  exact lookup_of_withdrawLocked h hrow

theorem replay_withdrawLocked
    (h : state.withdrawLocked relayId linkDeviceId deviceId now = some (state', change)) :
    Replica.replay RegistryChange.deviceId RegistryChange.value (state.offered relayId)
      change.toList = state'.offered relayId := by
  obtain ⟨entry, hentry, -, hentries, -, rfl⟩ := withdrawLocked_eq_some h
  have hoffered : state.offered relayId deviceId = (some entry).bind (announcementOf relayId) := by
    rw [offered, hentry]
  rw [replay_transition hoffered fun _ hnone => (by cases hnone), Option.bind_none]
  funext id
  by_cases hid : id = deviceId
  · subst hid
    rw [Function.update_self, offered, hentries, AList.lookup_erase, Option.bind_none]
  · rw [Function.update_of_ne hid, offered, offered, hentries, AList.lookup_erase_ne hid]

end Withdraw

end RegistryState

end TermexoRelay
