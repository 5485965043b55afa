import TermexoRelay.Registry.Operations

/-!
# The table against what the links offer

The table keeps one entry per device, while every downstream link may offer the same device. The
abstract state here is the latest report of every link; a run of whole operations is followed on
both sides, and the table shows a shortest offer as long as no offer that lost is needed later.
-/

namespace TermexoRelay

open Transition

/-- What every link offers under every id: the tunnel to use and the relays behind it. -/
abbrev Reports := String → String → Option (TunnelHandle × List String)

def Reports.set (reports : Reports) (linkDeviceId deviceId : String)
    (offer : Option (TunnelHandle × List String)) : Reports :=
  Function.update reports linkDeviceId (Function.update (reports linkDeviceId) deviceId offer)

@[simp] theorem Reports.set_self (reports : Reports) (linkDeviceId deviceId : String)
    (offer : Option (TunnelHandle × List String)) :
    reports.set linkDeviceId deviceId offer linkDeviceId deviceId = offer := by
  rw [set, Function.update_self, Function.update_self]

theorem Reports.set_of_ne {reports : Reports} {linkDeviceId deviceId : String}
    {offer : Option (TunnelHandle × List String)} {link id : String}
    (h : ¬ (link = linkDeviceId ∧ id = deviceId)) :
    reports.set linkDeviceId deviceId offer link id = reports link id := by
  by_cases hlink : link = linkDeviceId
  · subst hlink
    rw [set, Function.update_self, Function.update_of_ne fun hid => h ⟨rfl, hid⟩]
  · rw [set, Function.update_of_ne hlink]

/-- The devices of a snapshot that count: online, and with a chain a stream can cross. -/
def listings (relayId : String) (maxHops : Nat) (devices : List AnnouncedDevice) :
    List AnnouncedDevice :=
  devices.filter fun device => device.online && isAnnouncementRoutable relayId maxHops device.via

abbrev AnnouncedDevice.offer (link : TunnelHandle) (device : AnnouncedDevice) :
    Option (TunnelHandle × List String) := some (link, device.via)

/-- What an operation says about the offers. -/
def Reports.after (relayId : String) (maxHops : Nat) (registry : Registry) (reports : Reports) :
    Job → Reports
  | .announce linkDeviceId link device _ =>
      reports.set linkDeviceId device.id
        (if isAnnouncementRoutable relayId maxHops device.via then device.offer link else none)
  | .withdraw linkDeviceId deviceId _ => reports.set linkDeviceId deviceId none
  | .apply linkDeviceId link devices =>
      Function.update reports linkDeviceId
        (Replica.replay AnnouncedDevice.id (AnnouncedDevice.offer link) (fun _ => none)
          (listings relayId maxHops devices))
  | .disconnect deviceId serial =>
      if registry.state.registered deviceId serial then
        Function.update reports deviceId fun _ => none
      else reports
  | .connect _ => reports
  | .connecting _ _ => reports
  | .announcing _ _ _ _ _ => reports
  | .finished => reports

/-- The registry with the reports it was given. -/
structure ReportedRegistry where
  registry : Registry
  reports : Reports

def ReportedRegistry.new : ReportedRegistry := ⟨.new, fun _ _ => none⟩

def ReportedRegistry.step (relayId : String) (maxHops : Nat) (s : ReportedRegistry)
    (operation : Operation) : Option ReportedRegistry :=
  (s.registry.call relayId maxHops operation).map fun registry =>
    ⟨registry, s.reports.after relayId maxHops s.registry operation.job⟩

/-- No other registered link offers the device. -/
def SoleOffer (reports : Reports) (registry : Registry) (linkDeviceId deviceId : String) : Prop :=
  ∀ other ∈ registry.state.tunnelIds, other ≠ linkDeviceId → reports other deviceId = none

/-- What one action has to respect: announcements come from registered links, the link whose route
is installed does not make it longer or unroutable, and an installed route is only removed when
no other link offers the device. -/
def ActionOk (relayId : String) (maxHops : Nat) (reports : Reports) (registry : Registry) :
    Job → Prop
  | .announce linkDeviceId _ device batch =>
      batch = none → registry.state.hasTunnel linkDeviceId = true ∧
        (device.id ∈ registry.state.announcedIdsOf linkDeviceId →
          isAnnouncementRoutable relayId maxHops device.via = true)
  | .announcing linkDeviceId _ device _ _ =>
      ∀ entry ∈ registry.state.entries.lookup device.id,
        entry.origin = .announced linkDeviceId →
          device.via.length ≤ entry.device.route.hopCount
  | .withdraw linkDeviceId deviceId _ =>
      deviceId ∈ registry.state.announcedIdsOf linkDeviceId →
        SoleOffer reports registry linkDeviceId deviceId
  | .disconnect deviceId serial =>
      registry.state.registered deviceId serial = true →
        ∀ id ∈ deviceId :: registry.state.announcedIdsOf deviceId,
          SoleOffer reports registry deviceId id
  | .apply linkDeviceId _ _ => registry.state.hasTunnel linkDeviceId = true
  | .connect _ => True
  | .connecting _ _ => True
  | .finished => True

instance (reports : Reports) (registry : Registry) (linkDeviceId deviceId : String) :
    Decidable (SoleOffer reports registry linkDeviceId deviceId) :=
  inferInstanceAs (Decidable (∀ other ∈ registry.state.tunnelIds, _))

instance (relayId : String) (maxHops : Nat) (reports : Reports) (registry : Registry) :
    ∀ job, Decidable (ActionOk relayId maxHops reports registry job)
  | .announce _ _ _ _ => inferInstanceAs (Decidable (_ → _))
  | .announcing _ _ _ _ _ => inferInstanceAs (Decidable (∀ entry ∈ (_ : Option Entry), _))
  | .withdraw _ _ _ => inferInstanceAs (Decidable (_ → _))
  | .disconnect _ _ => inferInstanceAs (Decidable (_ → ∀ id ∈ (_ : List String), _))
  | .apply _ _ _ => inferInstanceAs (Decidable (_ = _))
  | .connect _ => .isTrue trivial
  | .connecting _ _ => .isTrue trivial
  | .finished => .isTrue trivial

/-- Every action of the operation respects it. -/
def OperationOk (relayId : String) (maxHops : Nat) (s : ReportedRegistry)
    (operation : Operation) : Prop :=
  Meets (act relayId maxHops)
    (fun state _ => ActionOk relayId maxHops s.reports state.1 state.2)
    (s.registry, operation.job) operation.choices

instance (relayId : String) (maxHops : Nat) (s : ReportedRegistry) (operation : Operation) :
    Decidable (OperationOk relayId maxHops s operation) :=
  inferInstanceAs (Decidable (Meets _ _ _ _))

/-- The table shows, for every device, its direct tunnel or a shortest offer. -/
structure Tracks (registry : Registry) (reports : Reports) : Prop where
  formed : registry.state.WellFormed
  bounded : ∀ deviceId entry, registry.state.entries.lookup deviceId = some entry →
    entry.sequence < registry.sequence
  linked : ∀ linkDeviceId deviceId, reports linkDeviceId deviceId ≠ none →
    registry.state.hasTunnel linkDeviceId = true
  absent : ∀ deviceId, registry.state.entries.lookup deviceId = none →
    ∀ linkDeviceId, reports linkDeviceId deviceId = none
  installed : ∀ deviceId entry linkDeviceId,
    registry.state.entries.lookup deviceId = some entry →
    entry.origin = .announced linkDeviceId → ∃ link hops, entry.device.route = .via link hops ∧
      reports linkDeviceId deviceId = some (link, hops) ∧
      ∀ other offer, reports other deviceId = some offer → hops.length ≤ offer.2.length

theorem tracks_new : Tracks .new fun _ _ => none where
  formed := RegistryState.wellFormed_empty
  bounded _ _ h := by cases h
  linked _ _ h := absurd rfl h
  absent _ _ _ := rfl
  installed _ _ _ h := by cases h

section Updates

variable {relayId : String} {maxHops : Nat} {registry : Registry} {reports reports' : Reports}
  {state : RegistryState}

theorem Tracks.drop (h : Tracks registry reports)
    (hdrop : ∀ linkDeviceId deviceId, reports' linkDeviceId deviceId = reports linkDeviceId deviceId
      ∨ reports' linkDeviceId deviceId = none ∧
        deviceId ∉ registry.state.announcedIdsOf linkDeviceId) : Tracks registry reports' where
  formed := h.formed
  bounded := h.bounded
  linked linkDeviceId deviceId hoffer := by
    rcases hdrop linkDeviceId deviceId with hkeep | ⟨hnone, -⟩
    · exact h.linked linkDeviceId deviceId (hkeep ▸ hoffer)
    · exact absurd hnone hoffer
  absent deviceId hentry linkDeviceId := by
    rcases hdrop linkDeviceId deviceId with hkeep | ⟨hnone, -⟩
    · rw [hkeep]
      exact h.absent deviceId hentry linkDeviceId
    · exact hnone
  installed deviceId entry linkDeviceId hentry horigin := by
    obtain ⟨link, hops, hroute, hoffer, hshort⟩ :=
      h.installed deviceId entry linkDeviceId hentry horigin
    refine ⟨link, hops, hroute, ?_, fun other offer hother => ?_⟩
    · rcases hdrop linkDeviceId deviceId with hkeep | ⟨-, hnot⟩
      · rw [hkeep, hoffer]
      · exact absurd (RegistryState.mem_announcedIdsOf.mpr ⟨entry, hentry, horigin⟩) hnot
    · rcases hdrop other deviceId with hkeep | ⟨hnone, -⟩
      · exact hshort other offer (hkeep ▸ hother)
      · rw [hnone] at hother
        cases hother

theorem Tracks.draw (h : Tracks registry reports) :
    Tracks { registry with sequence := registry.sequence + 1 } reports where
  formed := h.formed
  bounded deviceId entry hentry := Nat.lt_succ_of_lt (h.bounded deviceId entry hentry)
  linked := h.linked
  absent := h.absent
  installed := h.installed

private theorem hasTunnel_of_lookup {state state' : RegistryState} {deviceId : String}
    (h : state.hasTunnel deviceId = true)
    (hlookup : ∀ entry, state.entries.lookup deviceId = some entry → entry.origin.isDirect = true →
      ∃ entry', state'.entries.lookup deviceId = some entry' ∧ entry'.origin.isDirect = true) :
    state'.hasTunnel deviceId = true := by
  obtain ⟨entry, hentry, hdirect⟩ := (Option.any_eq_true _ _).mp h
  exact (Option.any_eq_true _ _).mpr (hlookup entry hentry hdirect)

theorem Tracks.connect (h : Tracks registry reports) {presence : DirectPresence} {serial : Nat}
    {now : Int} (hserial : serial < registry.sequence) :
    Tracks { registry with
      state := (registry.state.connectLocked relayId presence serial now).1 } reports where
  formed := h.formed.connectLocked relayId presence serial now
  bounded deviceId entry hentry := by
    rcases Table.lookup_insert_cases hentry with ⟨-, rfl⟩ | ⟨-, hentry⟩
    · exact hserial
    · exact h.bounded deviceId entry hentry
  linked linkDeviceId deviceId hoffer := by
    refine hasTunnel_of_lookup (h.linked linkDeviceId deviceId hoffer)
      fun entry hentry hdirect => ?_
    rw [RegistryState.connectLocked_entries]
    by_cases hid : linkDeviceId = presence.deviceId
    · subst hid
      exact ⟨_, AList.lookup_insert _, rfl⟩
    · exact ⟨entry, by rw [AList.lookup_insert_ne hid, hentry], hdirect⟩
  absent deviceId hentry linkDeviceId := by
    rw [RegistryState.connectLocked_entries] at hentry
    by_cases hid : deviceId = presence.deviceId
    · subst hid
      rw [AList.lookup_insert] at hentry
      cases hentry
    · rw [AList.lookup_insert_ne hid] at hentry
      exact h.absent deviceId hentry linkDeviceId
  installed deviceId entry linkDeviceId hentry horigin := by
    rcases Table.lookup_insert_cases hentry with ⟨-, rfl⟩ | ⟨-, hentry⟩
    · cases horigin
    · exact h.installed deviceId entry linkDeviceId hentry horigin

theorem Tracks.disconnect (h : Tracks registry reports) {deviceId : String} {serial : Nat}
    {announced : List String} {changes : List RegistryChange}
    (hannounced : announced.Perm (registry.state.announcedIdsOf deviceId))
    (hlocked : registry.state.disconnectLocked relayId deviceId serial announced =
      some (state, changes))
    (hsole : ∀ id ∈ deviceId :: registry.state.announcedIdsOf deviceId,
      SoleOffer reports registry deviceId id) :
    Tracks { registry with state } (Function.update reports deviceId fun _ => none) := by
  obtain ⟨-, hentries, -, -⟩ := RegistryState.disconnectLocked_eq_some hlocked
  have hgone : ∀ id, id ∈ deviceId :: announced ↔
      id ∈ deviceId :: registry.state.announcedIdsOf deviceId := fun id => by
    rw [List.mem_cons, List.mem_cons, hannounced.mem_iff]
  have hkept : ∀ id entry, state.entries.lookup id = some entry →
      registry.state.entries.lookup id = some entry ∧ id ∉ deviceId :: announced := by
    intro id entry hentry
    rw [hentries] at hentry
    split at hentry
    · cases hentry
    · next hid => exact ⟨hentry, hid⟩
  refine ⟨h.formed.disconnectLocked hlocked, ?_, ?_, ?_, ?_⟩
  · intro id entry hentry
    exact h.bounded id entry (hkept id entry hentry).1
  · intro linkDeviceId id hoffer
    by_cases hlink : linkDeviceId = deviceId
    · subst hlink
      rw [Function.update_self] at hoffer
      exact absurd rfl hoffer
    · rw [Function.update_of_ne hlink] at hoffer
      refine hasTunnel_of_lookup (h.linked linkDeviceId id hoffer) fun entry hentry hdirect => ?_
      refine ⟨entry, ?_, hdirect⟩
      have hstays : linkDeviceId ∉ deviceId :: announced := by
        rw [hgone, List.mem_cons, not_or]
        refine ⟨hlink, fun hmem => ?_⟩
        obtain ⟨entry', hentry', horigin⟩ := RegistryState.mem_announcedIdsOf.mp hmem
        rw [hentry, Option.some.injEq] at hentry'
        subst hentry'
        rw [horigin] at hdirect
        cases hdirect
      rw [hentries, if_neg hstays, hentry]
  · intro id hentry linkDeviceId
    by_cases hlink : linkDeviceId = deviceId
    · rw [hlink, Function.update_self]
    · rw [Function.update_of_ne hlink]
      rw [hentries] at hentry
      split at hentry
      · next hid =>
          by_contra hoffer
          exact hoffer (hsole id ((hgone id).mp hid) linkDeviceId
            (RegistryState.mem_tunnelIds.mpr (h.linked linkDeviceId id hoffer)) hlink)
      · exact h.absent id hentry linkDeviceId
  · intro id entry linkDeviceId hentry horigin
    obtain ⟨hentry, hid⟩ := hkept id entry hentry
    obtain ⟨link, hops, hroute, hoffer, hshort⟩ := h.installed id entry linkDeviceId hentry horigin
    have hlink : linkDeviceId ≠ deviceId := by
      rintro rfl
      rw [hgone, List.mem_cons, not_or] at hid
      exact hid.2 (RegistryState.mem_announcedIdsOf.mpr ⟨entry, hentry, horigin⟩)
    refine ⟨link, hops, hroute, by rw [Function.update_of_ne hlink, hoffer], ?_⟩
    intro other offer hother
    by_cases hsame : other = deviceId
    · rw [hsame, Function.update_self] at hother
      cases hother
    · rw [Function.update_of_ne hsame] at hother
      exact hshort other offer hother

section Announce

variable {linkDeviceId : String} {link : TunnelHandle} {device : AnnouncedDevice}
  {sequence : Nat} {now : Int} {change : Option RegistryChange}

private theorem not_direct_of_announced {existing : Entry}
    (hformed : existing.Formed device.id)
    (hwins : replaces existing.device.route existing.sequence (.via link device.via) sequence =
      true) : ∃ owner, existing.origin = .announced owner := by
  cases horigin : existing.origin with
  | announced owner => exact ⟨owner, rfl⟩
  | direct serial =>
      obtain ⟨handle, hroute⟩ := hformed.direct serial horigin
      rw [hroute] at hwins
      cases hwins

theorem hasTunnel_announceLocked (hs : registry.state.WellFormed)
    (hlocked : registry.state.announceLocked relayId linkDeviceId link device sequence now =
      some (state, change)) {id : String} (h : registry.state.hasTunnel id = true) :
    state.hasTunnel id = true := by
  obtain ⟨hwins, hentries, -, -⟩ := RegistryState.announceLocked_eq_some hlocked
  refine hasTunnel_of_lookup h fun entry hentry hdirect => ⟨entry, ?_, hdirect⟩
  have hid : id ≠ device.id := by
    rintro rfl
    obtain ⟨owner, horigin⟩ := not_direct_of_announced (hs _ _ hentry) (hwins entry hentry)
    rw [horigin] at hdirect
    cases hdirect
  rw [hentries, AList.lookup_insert_ne hid, hentry]

theorem Tracks.announce (h : Tracks registry reports)
    (hlink : registry.state.hasTunnel linkDeviceId = true) (hdrawn : sequence < registry.sequence)
    (hlocked : registry.state.announceLocked relayId linkDeviceId link device sequence now =
      some (state, change)) :
    Tracks { registry with state } (reports.set linkDeviceId device.id (device.offer link)) := by
  obtain ⟨hwins, hentries, -, -⟩ := RegistryState.announceLocked_eq_some hlocked
  refine ⟨h.formed.announceLocked hlocked, ?_, ?_, ?_, ?_⟩
  · intro id entry hentry
    rw [hentries] at hentry
    rcases Table.lookup_insert_cases hentry with ⟨-, rfl⟩ | ⟨-, hentry⟩
    · exact hdrawn
    · exact h.bounded id entry hentry
  · intro other id hoffer
    by_cases hset : other = linkDeviceId ∧ id = device.id
    · exact hset.1 ▸ hasTunnel_announceLocked h.formed hlocked hlink
    · rw [Reports.set_of_ne hset] at hoffer
      exact hasTunnel_announceLocked h.formed hlocked (h.linked other id hoffer)
  · intro id hentry other
    have hid : id ≠ device.id := by
      rintro rfl
      rw [hentries, AList.lookup_insert] at hentry
      cases hentry
    rw [hentries, AList.lookup_insert_ne hid] at hentry
    rw [Reports.set_of_ne fun hset => hid hset.2]
    exact h.absent id hentry other
  · intro id entry owner hentry horigin
    rw [hentries] at hentry
    rcases Table.lookup_insert_cases hentry with ⟨rfl, rfl⟩ | ⟨hid, hentry⟩
    · obtain rfl : linkDeviceId = owner := by
        simpa [AnnouncedDevice.entry] using horigin
      refine ⟨link, device.via, rfl, Reports.set_self _ _ _ _, fun other offer hother => ?_⟩
      by_cases hsame : other = linkDeviceId
      · rw [hsame, Reports.set_self, Option.some.injEq] at hother
        rw [← hother]
      · rw [Reports.set_of_ne fun hset => hsame hset.1] at hother
        cases hexisting : registry.state.entries.lookup device.id with
        | none =>
            rw [h.absent device.id hexisting other] at hother
            cases hother
        | some existing =>
            obtain ⟨owner, howner⟩ :=
              not_direct_of_announced (h.formed _ _ hexisting) (hwins existing hexisting)
            obtain ⟨link', hops, hroute, -, hshort⟩ :=
              h.installed device.id existing owner hexisting howner
            have hlen := hwins existing hexisting
            rw [hroute, replaces_via] at hlen
            have hother := hshort other offer hother
            omega
    · obtain ⟨link', hops, hroute, hoffer, hshort⟩ := h.installed id entry owner hentry horigin
      refine ⟨link', hops, hroute, ?_, fun other offer hother => ?_⟩
      · rw [Reports.set_of_ne fun hset => hid hset.2, hoffer]
      · rw [Reports.set_of_ne fun hset => hid hset.2] at hother
        exact hshort other offer hother

theorem Tracks.outdone (h : Tracks registry reports)
    (hlink : registry.state.hasTunnel linkDeviceId = true)
    (hnewest : ∀ id entry, registry.state.entries.lookup id = some entry →
      entry.sequence < sequence)
    (hshorter : ∀ entry ∈ registry.state.entries.lookup device.id,
      entry.origin = .announced linkDeviceId → device.via.length ≤ entry.device.route.hopCount)
    (hlocked : registry.state.announceLocked relayId linkDeviceId link device sequence now =
      none) :
    Tracks registry (reports.set linkDeviceId device.id (device.offer link)) ∧
      device.id ∉ registry.state.announcedIdsOf linkDeviceId := by
  obtain ⟨existing, hexisting, hloses⟩ := RegistryState.announceLocked_eq_none hlocked
  have hlonger : ∀ link' hops, existing.device.route = .via link' hops →
      hops.length < device.via.length := by
    intro link' hops hroute
    have hseq := hnewest device.id existing hexisting
    have hnot : ¬ (device.via.length < hops.length ∨
        device.via.length = hops.length ∧ existing.sequence < sequence) := by
      intro hwins
      rw [hroute, replaces_via.mpr hwins] at hloses
      cases hloses
    omega
  have hothers : ∀ owner, existing.origin = .announced owner → owner ≠ linkDeviceId := by
    rintro owner howner rfl
    obtain ⟨link', hops, hroute⟩ := (h.formed _ _ hexisting).announced owner howner
    have hle := hshorter existing hexisting howner
    have hlt := hlonger link' hops hroute
    rw [hroute] at hle
    simp only [Route.hopCount, Route.hops] at hle
    omega
  refine ⟨⟨h.formed, h.bounded, ?_, ?_, ?_⟩, ?_⟩
  · intro other id hoffer
    by_cases hset : other = linkDeviceId ∧ id = device.id
    · exact hset.1 ▸ hlink
    · rw [Reports.set_of_ne hset] at hoffer
      exact h.linked other id hoffer
  · intro id hentry other
    have hid : id ≠ device.id := by
      rintro rfl
      rw [hexisting] at hentry
      cases hentry
    rw [Reports.set_of_ne fun hset => hid hset.2]
    exact h.absent id hentry other
  · intro id entry owner hentry horigin
    obtain ⟨link', hops, hroute, hoffer, hshort⟩ := h.installed id entry owner hentry horigin
    refine ⟨link', hops, hroute, ?_, fun other offer hother => ?_⟩
    · rw [Reports.set_of_ne, hoffer]
      rintro ⟨rfl, rfl⟩
      rw [hexisting, Option.some.injEq] at hentry
      exact hothers owner (hentry ▸ horigin) rfl
    · by_cases hset : other = linkDeviceId ∧ id = device.id
      · obtain ⟨rfl, rfl⟩ := hset
        rw [Reports.set_self, Option.some.injEq] at hother
        rw [hexisting, Option.some.injEq] at hentry
        have hlt := hlonger link' hops (hentry ▸ hroute)
        rw [← hother]
        exact Nat.le_of_lt hlt
      · rw [Reports.set_of_ne hset] at hother
        exact hshort other offer hother
  · intro hmem
    obtain ⟨entry, hentry, horigin⟩ := RegistryState.mem_announcedIdsOf.mp hmem
    rw [hexisting, Option.some.injEq] at hentry
    exact hothers linkDeviceId (hentry ▸ horigin) rfl

theorem mem_announcedIdsOf_announceLocked
    (hlocked : registry.state.announceLocked relayId linkDeviceId link device sequence now =
      some (state, change)) {id : String} :
    id ∈ state.announcedIdsOf linkDeviceId ↔
      id = device.id ∨ id ∈ registry.state.announcedIdsOf linkDeviceId := by
  obtain ⟨-, hentries, -, -⟩ := RegistryState.announceLocked_eq_some hlocked
  rw [RegistryState.mem_announcedIdsOf, RegistryState.mem_announcedIdsOf, hentries]
  by_cases hid : id = device.id
  · subst hid
    simp only [AList.lookup_insert, Option.some.injEq, true_or, iff_true]
    exact ⟨_, rfl, rfl⟩
  · simp only [AList.lookup_insert_ne hid, hid, false_or]

end Announce

section Withdraw

variable {linkDeviceId deviceId : String} {now : Int} {change : Option RegistryChange}

theorem hasTunnel_withdrawLocked
    (hlocked : registry.state.withdrawLocked relayId linkDeviceId deviceId now =
      some (state, change)) {id : String} (h : registry.state.hasTunnel id = true) :
    state.hasTunnel id = true := by
  obtain ⟨entry, hentry, horigin, hentries, -, -⟩ := RegistryState.withdrawLocked_eq_some hlocked
  refine hasTunnel_of_lookup h fun entry' hentry' hdirect => ⟨entry', ?_, hdirect⟩
  have hid : id ≠ deviceId := by
    rintro rfl
    rw [hentry, Option.some.injEq] at hentry'
    rw [← hentry', horigin] at hdirect
    cases hdirect
  rw [hentries, AList.lookup_erase_ne hid, hentry']

theorem mem_announcedIdsOf_withdrawLocked
    (hlocked : registry.state.withdrawLocked relayId linkDeviceId deviceId now =
      some (state, change)) {id : String} :
    id ∈ state.announcedIdsOf linkDeviceId ↔
      id ≠ deviceId ∧ id ∈ registry.state.announcedIdsOf linkDeviceId := by
  obtain ⟨-, -, -, hentries, -, -⟩ := RegistryState.withdrawLocked_eq_some hlocked
  rw [RegistryState.mem_announcedIdsOf, RegistryState.mem_announcedIdsOf, hentries]
  by_cases hid : id = deviceId
  · subst hid
    simp
  · simp only [AList.lookup_erase_ne hid, hid, ne_eq, not_false_eq_true, true_and]

theorem Tracks.withdraw (h : Tracks registry reports)
    (hsole : SoleOffer reports registry linkDeviceId deviceId)
    (hlocked : registry.state.withdrawLocked relayId linkDeviceId deviceId now =
      some (state, change)) :
    Tracks { registry with state } (reports.set linkDeviceId deviceId none) := by
  obtain ⟨-, -, -, hentries, -, -⟩ := RegistryState.withdrawLocked_eq_some hlocked
  have hkept : ∀ id entry, state.entries.lookup id = some entry →
      id ≠ deviceId ∧ registry.state.entries.lookup id = some entry := by
    intro id entry hentry
    rw [hentries] at hentry
    exact Table.lookup_erase_cases hentry
  refine ⟨h.formed.withdrawLocked hlocked, ?_, ?_, ?_, ?_⟩
  · intro id entry hentry
    exact h.bounded id entry (hkept id entry hentry).2
  · intro other id hoffer
    by_cases hset : other = linkDeviceId ∧ id = deviceId
    · obtain ⟨rfl, rfl⟩ := hset
      rw [Reports.set_self] at hoffer
      exact absurd rfl hoffer
    · rw [Reports.set_of_ne hset] at hoffer
      exact hasTunnel_withdrawLocked hlocked (h.linked other id hoffer)
  · intro id hentry other
    by_cases hset : other = linkDeviceId ∧ id = deviceId
    · obtain ⟨rfl, rfl⟩ := hset
      exact Reports.set_self _ _ _ _
    · rw [Reports.set_of_ne hset]
      by_cases hid : id = deviceId
      · subst hid
        by_contra hoffer
        exact hoffer (hsole other (RegistryState.mem_tunnelIds.mpr (h.linked other id hoffer))
          fun hother => hset ⟨hother, rfl⟩)
      · rw [hentries, AList.lookup_erase_ne hid] at hentry
        exact h.absent id hentry other
  · intro id entry owner hentry horigin
    obtain ⟨hid, hentry⟩ := hkept id entry hentry
    obtain ⟨link, hops, hroute, hoffer, hshort⟩ := h.installed id entry owner hentry horigin
    refine ⟨link, hops, hroute, ?_, fun other offer hother => ?_⟩
    · rw [Reports.set_of_ne fun hset => hid hset.2, hoffer]
    · rw [Reports.set_of_ne fun hset => hid hset.2] at hother
      exact hshort other offer hother

theorem Tracks.withdraw_other (h : Tracks registry reports)
    (hlocked : registry.state.withdrawLocked relayId linkDeviceId deviceId now = none) :
    Tracks registry (reports.set linkDeviceId deviceId none) := by
  have hnot := RegistryState.withdrawLocked_eq_none hlocked
  refine h.drop fun other id => ?_
  by_cases hset : other = linkDeviceId ∧ id = deviceId
  · obtain ⟨rfl, rfl⟩ := hset
    exact .inr ⟨Reports.set_self _ _ _ _, hnot⟩
  · exact .inl (Reports.set_of_ne hset)

end Withdraw

end Updates

end TermexoRelay
