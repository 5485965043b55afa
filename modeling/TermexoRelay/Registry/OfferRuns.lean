import TermexoRelay.Registry.Offers

/-!
# Runs against the offers

A snapshot is followed device by device: the link's reports are overwritten by the listings, and
what was installed before and is not listed any more is withdrawn at the end. With that every
operation keeps the table on a shortest offer, and so does every run.
-/

namespace TermexoRelay

open Transition

section Snapshot

variable {relayId : String} {maxHops : Nat} {registry registry' : Registry}
  {reports old : Reports} {linkDeviceId : String} {link : TunnelHandle}
  {choices : List JobChoice}

private theorem soleOffer_congr {deviceId : String}
    (hothers : ∀ other, other ≠ linkDeviceId → reports other = old other)
    (h : SoleOffer old registry linkDeviceId deviceId) :
    SoleOffer reports registry linkDeviceId deviceId := by
  intro other hother hne
  rw [hothers other hne]
  exact h other hother hne

private theorem set_others {deviceId : String} {offer : Option (TunnelHandle × List String)}
    (hothers : ∀ other, other ≠ linkDeviceId → reports other = old other) :
    ∀ other, other ≠ linkDeviceId → reports.set linkDeviceId deviceId offer other = old other := by
  intro other hne
  rw [Reports.set, Function.update_of_ne hne, hothers other hne]

theorem Tracks.sweep {stale : List String} (h : Tracks registry reports)
    (hothers : ∀ other, other ≠ linkDeviceId → reports other = old other)
    (hrun : run (act relayId maxHops) (registry, Job.sweep linkDeviceId stale) choices =
      some (registry', .finished))
    (hok : Meets (act relayId maxHops)
      (fun state _ => ActionOk relayId maxHops old state.1 state.2)
      (registry, Job.sweep linkDeviceId stale) choices) :
    ∃ reports', Tracks registry' reports' ∧
      (∀ other, other ≠ linkDeviceId → reports' other = old other) ∧
      (∀ id, id ∉ stale → reports' linkDeviceId id = reports linkDeviceId id) ∧
      ∀ id ∈ registry'.state.announcedIdsOf linkDeviceId,
        id ∈ registry.state.announcedIdsOf linkDeviceId ∧ id ∉ stale := by
  induction stale generalizing registry reports choices with
  | nil =>
      obtain rfl := run_act_finished hrun
      exact ⟨reports, h, hothers, fun _ _ => rfl, fun id hid => ⟨hid, List.not_mem_nil⟩⟩
  | cons deviceId stale ih =>
      obtain ⟨choice, rest, registry₁, job₁, changes, hstep, haction, hrest, hmeets⟩ :=
        run_act_cons (by rw [Job.sweep]; exact Job.noConfusion) hrun hok
      rw [Job.sweep] at hstep
      cases Job.step_cases hstep with
      | absent hlocked =>
          have hnot := RegistryState.withdrawLocked_eq_none hlocked
          obtain ⟨reports', htracks, hothers', hkept, howned⟩ :=
            ih (h.withdraw_other hlocked) (set_others hothers) hrest hmeets
          refine ⟨reports', htracks, hothers', fun id hid => ?_, fun id hid => ?_⟩
          · rw [List.mem_cons, not_or] at hid
            rw [hkept id hid.2, Reports.set_of_ne fun hset => hid.1 hset.2]
          · obtain ⟨hid, hstale⟩ := howned id hid
            refine ⟨hid, ?_⟩
            rw [List.mem_cons, not_or]
            exact ⟨fun heq => hnot (heq ▸ hid), hstale⟩
      | withdrawn hlocked =>
          obtain ⟨entry, hentry, horigin, -⟩ := RegistryState.withdrawLocked_eq_some hlocked
          have hsole : SoleOffer reports registry linkDeviceId deviceId :=
            soleOffer_congr hothers
              (haction (RegistryState.mem_announcedIdsOf.mpr ⟨entry, hentry, horigin⟩))
          obtain ⟨reports', htracks, hothers', hkept, howned⟩ :=
            ih (h.withdraw hsole hlocked) (set_others hothers) hrest hmeets
          refine ⟨reports', htracks, hothers', fun id hid => ?_, fun id hid => ?_⟩
          · rw [List.mem_cons, not_or] at hid
            rw [hkept id hid.2, Reports.set_of_ne fun hset => hid.1 hset.2]
          · obtain ⟨hid, hstale⟩ := howned id hid
            obtain ⟨hne, hid⟩ := (mem_announcedIdsOf_withdrawLocked hlocked).mp hid
            exact ⟨hid, by rw [List.mem_cons, not_or]; exact ⟨hne, hstale⟩⟩

/-- How far a snapshot is: what was listed is installed where the link had a route before, and
every route of the link is an old one or an installed one. -/
structure Progress (registry : Registry) (linkDeviceId : String)
    (previous installed seen : List String) : Prop where
  counted : ∀ id ∈ installed, id ∈ seen
  listed : ∀ id ∈ previous, id ∈ seen → id ∈ installed
  routes : ∀ id ∈ registry.state.announcedIdsOf linkDeviceId, id ∈ previous ∨ id ∈ installed
  kept : ∀ id ∈ previous, id ∉ installed → id ∈ registry.state.announcedIdsOf linkDeviceId

private theorem Progress.accepted {previous installed seen : List String} {state : RegistryState}
    {device : AnnouncedDevice} {sequence : Nat} {now : Int} {change : Option RegistryChange}
    (h : Progress registry linkDeviceId previous installed seen)
    (hlocked : registry.state.announceLocked relayId linkDeviceId link device sequence now =
      some (state, change)) (drawn : Nat) :
    Progress ⟨state, drawn⟩ linkDeviceId previous (installed ++ [device.id])
      (device.id :: seen) where
  counted id hid := by
    rcases List.mem_append.mp hid with hid | hid
    · exact List.mem_cons_of_mem _ (h.counted id hid)
    · rw [List.mem_singleton.mp hid]
      exact List.mem_cons_self
  listed id hprevious hid := by
    rcases List.mem_cons.mp hid with rfl | hid
    · exact List.mem_append_right _ (List.mem_singleton.mpr rfl)
    · exact List.mem_append_left _ (h.listed id hprevious hid)
  routes id hid := by
    rcases (mem_announcedIdsOf_announceLocked hlocked).mp hid with rfl | hid
    · exact .inr (List.mem_append_right _ (List.mem_singleton.mpr rfl))
    · exact (h.routes id hid).imp_right (List.mem_append_left _)
  kept id hprevious hid := by
    rw [List.mem_append, not_or] at hid
    exact (mem_announcedIdsOf_announceLocked hlocked).mpr (.inr (h.kept id hprevious hid.1))

private theorem Progress.rejected {previous installed seen : List String} {deviceId : String}
    (h : Progress registry linkDeviceId previous installed seen)
    (hnot : deviceId ∉ registry.state.announcedIdsOf linkDeviceId) (drawn : Nat) :
    Progress ⟨registry.state, drawn⟩ linkDeviceId previous installed (deviceId :: seen) where
  counted id hid := List.mem_cons_of_mem _ (h.counted id hid)
  listed id hprevious hid := by
    rcases List.mem_cons.mp hid with rfl | hid
    · by_contra hinstalled
      exact hnot (h.kept id hprevious hinstalled)
    · exact h.listed id hprevious hid
  routes := h.routes
  kept := h.kept

theorem proceed_offline {previous installed : List String} {device : AnnouncedDevice}
    {remaining : List AnnouncedDevice} (h : device.online = false) :
    Job.proceed linkDeviceId link ⟨previous, installed, device :: remaining⟩ =
      Job.proceed linkDeviceId link ⟨previous, installed, remaining⟩ := by
  simp [Job.proceed, h]

theorem proceed_online {previous installed : List String} {device : AnnouncedDevice}
    {remaining : List AnnouncedDevice} (h : device.online = true) :
    Job.proceed linkDeviceId link ⟨previous, installed, device :: remaining⟩ =
      .announce linkDeviceId link device (some ⟨previous, installed, remaining⟩) := by
  simp [Job.proceed, h]

/-- Where a snapshot ends of which `listed` is left: the link reports what it listed, and has routes
for nothing else. -/
structure BatchOutcome (linkDeviceId : String) (link : TunnelHandle) (old : Reports)
    (seen : List String) (listed : List AnnouncedDevice) (reports : Reports) (registry' : Registry)
    (reports' : Reports) : Prop where
  tracks : Tracks registry' reports'
  others : ∀ other, other ≠ linkDeviceId → reports' other = old other
  routes : ∀ id ∈ registry'.state.announcedIdsOf linkDeviceId,
    id ∈ seen ∨ ∃ device ∈ listed, device.id = id
  replayed : ∀ id, (id ∈ seen ∨ ∃ device ∈ listed, device.id = id) →
    reports' linkDeviceId id = Replica.replay AnnouncedDevice.id (AnnouncedDevice.offer link)
      (reports linkDeviceId) listed id

theorem BatchOutcome.cons {seen : List String} {listed : List AnnouncedDevice}
    {device : AnnouncedDevice} {reports' : Reports}
    (h : BatchOutcome linkDeviceId link old (device.id :: seen) listed
      (reports.set linkDeviceId device.id (device.offer link)) registry' reports') :
    BatchOutcome linkDeviceId link old seen (device :: listed) reports registry' reports' := by
  have hmem : ∀ id, (id ∈ seen ∨ ∃ listing ∈ device :: listed, listing.id = id) ↔
      (id ∈ device.id :: seen ∨ ∃ listing ∈ listed, listing.id = id) := by
    intro id
    simp only [List.mem_cons, exists_eq_or_imp]
    rw [eq_comm (a := id)]
    tauto
  have hset : Function.update (reports linkDeviceId) device.id (device.offer link) =
      reports.set linkDeviceId device.id (device.offer link) linkDeviceId := by
    rw [Reports.set, Function.update_self]
  refine ⟨h.tracks, h.others, fun id hid => (hmem id).mpr (h.routes id hid), fun id hid => ?_⟩
  rw [h.replayed id ((hmem id).mp hid), Replica.replay_cons, Replica.apply, hset]

theorem Tracks.batch {previous installed seen : List String} {remaining : List AnnouncedDevice}
    (h : Tracks registry reports) (hlink : registry.state.hasTunnel linkDeviceId = true)
    (hothers : ∀ other, other ≠ linkDeviceId → reports other = old other)
    (hprogress : Progress registry linkDeviceId previous installed seen)
    (hrun : run (act relayId maxHops)
      (registry, Job.proceed linkDeviceId link ⟨previous, installed, remaining⟩) choices =
        some (registry', .finished))
    (hok : Meets (act relayId maxHops)
      (fun state _ => ActionOk relayId maxHops old state.1 state.2)
      (registry, Job.proceed linkDeviceId link ⟨previous, installed, remaining⟩) choices) :
    ∃ reports', BatchOutcome linkDeviceId link old seen (listings relayId maxHops remaining) reports
      registry' reports' := by
  induction remaining generalizing registry reports installed seen choices with
  | nil =>
      obtain ⟨reports', htracks, hothers', hkept, howned⟩ := h.sweep hothers hrun hok
      refine ⟨reports', htracks, hothers', fun id hid => ?_, fun id hid => ?_⟩
      · obtain ⟨hid, hstale⟩ := howned id hid
        rcases hprogress.routes id hid with hprevious | hinstalled
        · by_contra hseen
          refine hstale (List.mem_filter.mpr ⟨hprevious, decide_eq_true fun hinstalled => ?_⟩)
          exact hseen (.inl (hprogress.counted id hinstalled))
        · exact .inl (hprogress.counted id hinstalled)
      · have hseen : id ∈ seen := by
          rcases hid with hid | ⟨device, hdevice, -⟩
          · exact hid
          · cases hdevice
        have hstays : id ∉ previous.filter fun id => decide (id ∉ installed) := by
          rw [List.mem_filter, decide_eq_true_eq]
          rintro ⟨hprevious, hinstalled⟩
          exact hinstalled (hprogress.listed id hprevious hseen)
        rw [hkept id hstays]
        rfl
  | cons device remaining ih =>
      by_cases honline : device.online = true
      · rw [proceed_online honline] at hrun hok
        obtain ⟨choice, rest, registry₁, job₁, changes, hstep, -, hrest, hmeets⟩ :=
          run_act_cons Job.noConfusion hrun hok
        cases Job.step_cases hstep with
        | routable hroutable =>
            obtain ⟨choice, rest, registry₂, job₂, changes, hstep, haction, hrest, hmeets⟩ :=
              run_act_cons Job.noConfusion hrest hmeets
            have hlisted : listings relayId maxHops (device :: remaining) =
                device :: listings relayId maxHops remaining := by
              simp [listings, honline, hroutable]
            rw [hlisted]
            cases Job.step_cases hstep with
            | outrun hlocked =>
                obtain ⟨htracks, hnot⟩ := h.draw.outdone hlink h.bounded haction hlocked
                obtain ⟨reports', houtcome⟩ := ih htracks hlink (set_others hothers)
                  (hprogress.rejected hnot _) hrest hmeets
                exact ⟨reports', houtcome.cons⟩
            | installed hlocked =>
                obtain ⟨reports', houtcome⟩ := ih
                  (h.draw.announce hlink (Nat.lt_succ_self _) hlocked)
                  (hasTunnel_announceLocked h.formed hlocked hlink) (set_others hothers)
                  (hprogress.accepted hlocked _) hrest hmeets
                exact ⟨reports', houtcome.cons⟩
        | unroutable hroutable =>
            have hlisted : listings relayId maxHops (device :: remaining) =
                listings relayId maxHops remaining := by
              simp [listings, hroutable]
            rw [hlisted]
            exact ih h hlink hothers hprogress hrest hmeets
      · rw [Bool.not_eq_true] at honline
        have hlisted : listings relayId maxHops (device :: remaining) =
            listings relayId maxHops remaining := by
          simp [listings, honline]
        rw [proceed_offline honline] at hrun hok
        rw [hlisted]
        exact ih h hlink hothers hprogress hrun hok

end Snapshot

section Operations

variable {relayId : String} {maxHops : Nat} {s s' : ReportedRegistry} {operation : Operation}

/-- One operation keeps the table on what the links offer. -/
theorem Tracks.step (h : Tracks s.registry s.reports)
    (hok : OperationOk relayId maxHops s operation)
    (hstep : s.step relayId maxHops operation = some s') : Tracks s'.registry s'.reports := by
  obtain ⟨registry', hcall, rfl⟩ := Option.map_eq_some_iff.mp hstep
  obtain ⟨hstarts, hrun⟩ := Registry.call_eq_some.mp hcall
  obtain ⟨job, choices⟩ := operation
  change Meets _ _ (s.registry, job) choices at hok
  change run _ (s.registry, job) choices = _ at hrun
  change Tracks registry' (s.reports.after relayId maxHops s.registry job)
  cases job with
  | finished => cases hstarts
  | connecting presence serial => cases hstarts
  | announcing linkDeviceId link device batch sequence => cases hstarts
  | connect presence =>
      obtain ⟨choice, rest, registry₁, job₁, changes, hdraw, -, hrest, hmeets⟩ :=
        run_act_cons Job.noConfusion hrun hok
      cases Job.step_cases hdraw
      obtain ⟨choice, rest, registry₂, job₂, changes, hlock, -, hrest, -⟩ :=
        run_act_cons Job.noConfusion hrest hmeets
      cases Job.step_cases hlock
      obtain rfl := run_act_finished hrest
      exact h.draw.connect (Nat.lt_succ_self _)
  | disconnect deviceId serial =>
      obtain ⟨choice, rest, registry₁, job₁, changes, haction, hsole, hrest, -⟩ :=
        run_act_cons Job.noConfusion hrun hok
      cases Job.step_cases haction with
      | displaced hlocked =>
          obtain rfl := run_act_finished hrest
          have hnot : s.registry.state.registered deviceId serial = false := by
            simpa [RegistryState.disconnectLocked] using hlocked
          simp only [Reports.after, hnot, Bool.false_eq_true, if_false]
          exact h
      | disconnected hperm hlocked =>
          obtain rfl := run_act_finished hrest
          have hregistered := (RegistryState.disconnectLocked_eq_some hlocked).1
          simp only [Reports.after, hregistered, if_true]
          exact h.disconnect hperm hlocked (hsole hregistered)
  | announce linkDeviceId link device batch =>
      obtain rfl : batch = none := by simpa [Job.starts] using hstarts
      obtain ⟨choice, rest, registry₁, job₁, changes, hdraw, hregistered, hrest, hmeets⟩ :=
        run_act_cons Job.noConfusion hrun hok
      obtain ⟨hlink, hroutable⟩ := hregistered rfl
      cases Job.step_cases hdraw with
      | routable hvia =>
          obtain ⟨choice, rest, registry₂, job₂, changes, hlock, hshorter, hrest, -⟩ :=
            run_act_cons Job.noConfusion hrest hmeets
          simp only [Reports.after, hvia, if_true]
          cases Job.step_cases hlock with
          | outrun hlocked =>
              obtain rfl := run_act_finished hrest
              exact (h.draw.outdone hlink h.bounded hshorter hlocked).1
          | installed hlocked =>
              obtain rfl := run_act_finished hrest
              exact h.draw.announce hlink (Nat.lt_succ_self _) hlocked
      | unroutable hvia =>
          obtain rfl := run_act_finished hrest
          simp only [Reports.after, hvia, Bool.false_eq_true, if_false]
          refine h.drop fun other id => ?_
          by_cases hset : other = linkDeviceId ∧ id = device.id
          · obtain ⟨rfl, rfl⟩ := hset
            exact .inr ⟨Reports.set_self _ _ _ _, fun hmem => hvia (hroutable hmem)⟩
          · exact .inl (Reports.set_of_ne hset)
  | withdraw linkDeviceId deviceId stale =>
      obtain rfl : stale = [] := by simpa [Job.starts] using hstarts
      obtain ⟨choice, rest, registry₁, job₁, changes, haction, hsole, hrest, -⟩ :=
        run_act_cons Job.noConfusion hrun hok
      cases Job.step_cases haction with
      | absent hlocked =>
          obtain rfl := run_act_finished hrest
          exact h.withdraw_other hlocked
      | withdrawn hlocked =>
          obtain rfl := run_act_finished hrest
          obtain ⟨entry, hentry, horigin, -⟩ := RegistryState.withdrawLocked_eq_some hlocked
          exact h.withdraw
            (hsole (RegistryState.mem_announcedIdsOf.mpr ⟨entry, hentry, horigin⟩)) hlocked
  | apply linkDeviceId link devices =>
      obtain ⟨choice, rest, registry₁, job₁, changes, hread, hlink, hrest, hmeets⟩ :=
        run_act_cons Job.noConfusion hrun hok
      cases Job.step_cases hread with
      | listed hperm =>
          have hprogress : Progress s.registry linkDeviceId choice.order [] [] :=
            ⟨fun _ hid => hid, fun _ _ hid => hid, fun id hid => .inl (hperm.mem_iff.mpr hid),
              fun id hid _ => hperm.mem_iff.mp hid⟩
          obtain ⟨reports', htracks, hothers, howned, hlisted⟩ :=
            h.batch hlink (fun _ _ => rfl) hprogress hrest hmeets
          refine htracks.drop fun other id => ?_
          by_cases hother : other = linkDeviceId
          · subst hother
            simp only [Reports.after, Function.update_self]
            by_cases hid : ∃ device ∈ listings relayId maxHops devices, device.id = id
            · rw [hlisted id (.inr hid)]
              exact .inl (Replica.replay_of_mem hid)
            · refine .inr ⟨Replica.replay_of_not_mem (by simpa using hid), fun hmem => ?_⟩
              exact hid ((howned id hmem).resolve_left List.not_mem_nil)
          · simp only [Reports.after, Function.update_of_ne hother]
            exact .inl (by rw [hothers other hother])

/-- What a route has to be to show a shortest offer. -/
def ShortestOffer (registry : Registry) (reports : Reports) (deviceId : String) (route : Route) :
    Prop :=
  if registry.state.hasTunnel deviceId then route.isDirect = true
  else ∃ linkDeviceId link hops, registry.state.hasTunnel linkDeviceId = true ∧
    reports linkDeviceId deviceId = some (link, hops) ∧ route = .via link hops ∧
    ∀ other offer, registry.state.hasTunnel other = true → reports other deviceId = some offer →
      hops.length ≤ offer.2.length

theorem Tracks.isOnline_iff {registry : Registry} {reports : Reports}
    (h : Tracks registry reports) (deviceId : String) :
    registry.state.isOnline deviceId = true ↔ registry.state.hasTunnel deviceId = true ∨
      ∃ linkDeviceId, registry.state.hasTunnel linkDeviceId = true ∧
        (reports linkDeviceId deviceId).isSome = true := by
  constructor
  · intro honline
    obtain ⟨entry, hentry⟩ := Option.isSome_iff_exists.mp honline
    cases horigin : entry.origin with
    | direct serial =>
        exact .inl (RegistryState.hasTunnel_iff.mpr ⟨entry, serial, hentry, horigin⟩)
    | announced linkDeviceId =>
        obtain ⟨link, hops, -, hoffer, -⟩ := h.installed deviceId entry linkDeviceId hentry horigin
        have hsome : reports linkDeviceId deviceId ≠ none := by
          rw [hoffer]
          exact Option.some_ne_none _
        exact .inr ⟨linkDeviceId, h.linked linkDeviceId deviceId hsome, by rw [hoffer]; rfl⟩
  · rintro (htunnel | ⟨linkDeviceId, -, hoffer⟩)
    · obtain ⟨entry, serial, hentry, -⟩ := RegistryState.hasTunnel_iff.mp htunnel
      rw [RegistryState.isOnline, hentry]
      rfl
    · by_contra hoffline
      rw [RegistryState.isOnline, Option.not_isSome_iff_eq_none] at hoffline
      rw [h.absent deviceId hoffline linkDeviceId] at hoffer
      cases hoffer

theorem Tracks.shortestOffer {registry : Registry} {reports : Reports}
    (h : Tracks registry reports) {deviceId : String} {route : Route}
    (hroute : registry.state.route deviceId = some route) :
    ShortestOffer registry reports deviceId route := by
  obtain ⟨entry, hentry, rfl⟩ := Option.map_eq_some_iff.mp hroute
  unfold ShortestOffer
  split
  · next htunnel =>
      obtain ⟨entry', serial, hentry', horigin⟩ := RegistryState.hasTunnel_iff.mp htunnel
      rw [hentry, Option.some.injEq] at hentry'
      subst hentry'
      obtain ⟨handle, hdirect⟩ := (h.formed _ _ hentry).direct serial horigin
      rw [hdirect]
      rfl
  · next htunnel =>
      cases horigin : entry.origin with
      | direct serial =>
          exact absurd (RegistryState.hasTunnel_iff.mpr ⟨entry, serial, hentry, horigin⟩) htunnel
      | announced linkDeviceId =>
          obtain ⟨link, hops, hvia, hoffer, hshort⟩ :=
            h.installed deviceId entry linkDeviceId hentry horigin
          have hsome : reports linkDeviceId deviceId ≠ none := by
            rw [hoffer]
            exact Option.some_ne_none _
          exact ⟨linkDeviceId, link, hops, h.linked linkDeviceId deviceId hsome, hoffer, hvia,
            fun other offer _ hother => hshort other offer hother⟩

end Operations

/-- At the end of a run of whole operations that all respect the offers, a device is online
exactly when it has a direct tunnel or some registered link offers it, and its route is a
shortest one. -/
theorem isOnline_iff_offered (relayId : String) (maxHops : Nat) (operations : List Operation)
    (s : ReportedRegistry)
    (hrun : run (ReportedRegistry.step relayId maxHops) .new operations = some s)
    (hok : Meets (ReportedRegistry.step relayId maxHops) (OperationOk relayId maxHops) .new
      operations) (deviceId : String) :
    (s.registry.state.isOnline deviceId = true ↔ s.registry.state.hasTunnel deviceId = true ∨
      ∃ linkDeviceId, s.registry.state.hasTunnel linkDeviceId = true ∧
        (s.reports linkDeviceId deviceId).isSome = true) ∧
    ∀ route, s.registry.state.route deviceId = some route →
      ShortestOffer s.registry s.reports deviceId route := by
  have htracks : Tracks s.registry s.reports :=
    run_invariant (fun _ _ _ hs hok hstep => Tracks.step hs hok hstep) tracks_new hok hrun
  exact ⟨htracks.isOnline_iff deviceId, fun _ hroute => htracks.shortestOffer hroute⟩

def linkUp (linkDeviceId : String) (channel : Nat) : Operation :=
  ⟨.connect ⟨linkDeviceId, linkDeviceId, .relay, none, none, none, ⟨linkDeviceId, channel⟩⟩,
    [⟨0, []⟩, ⟨0, []⟩]⟩

def linkAnnounces (linkDeviceId : String) (channel : Nat) (via : List String) : Operation :=
  ⟨.announce linkDeviceId ⟨linkDeviceId, channel⟩ ⟨"device-d", "desk", true, via⟩ none,
    [⟨0, []⟩, ⟨0, []⟩]⟩

theorem isOnline_iff_offered_one_link : ∃ s, run (ReportedRegistry.step "relay-a" 8) .new
    [linkUp "link-b" 0, linkAnnounces "link-b" 0 ["relay-b"]] = some s ∧
    s.registry.state.isOnline "device-d" = true := by
  obtain ⟨s, hrun, htunnel, hoffer⟩ := exists_run (ReportedRegistry.step "relay-a" 8) .new
    [linkUp "link-b" 0, linkAnnounces "link-b" 0 ["relay-b"]]
    (fun s => s.registry.state.hasTunnel "link-b" = true ∧
      (s.reports "link-b" "device-d").isSome = true) (by decide)
  exact ⟨s, hrun, (isOnline_iff_offered "relay-a" 8 _ s hrun (by decide)
    "device-d").1.mpr (.inr ⟨"link-b", htunnel, hoffer⟩)⟩

/-- The longer offer was dropped when it lost, so the shorter one's withdrawal takes the device
offline although another link still offers it. -/
theorem isOnline_lost_with_shortest_offer :
    ¬ ∀ (relayId : String) (maxHops : Nat) (operations : List Operation) (s : ReportedRegistry),
      run (ReportedRegistry.step relayId maxHops) .new operations = some s → ∀ deviceId,
      (s.registry.state.isOnline deviceId = true ↔ s.registry.state.hasTunnel deviceId = true ∨
        ∃ linkDeviceId, s.registry.state.hasTunnel linkDeviceId = true ∧
          (s.reports linkDeviceId deviceId).isSome = true) ∧
      ∀ route, s.registry.state.route deviceId = some route →
        ShortestOffer s.registry s.reports deviceId route := by
  intro h
  obtain ⟨s, hrun, hoffline, htunnel, hoffer⟩ := exists_run (ReportedRegistry.step "relay-a" 8)
    .new [linkUp "link-b" 0, linkUp "link-c" 1, linkAnnounces "link-b" 0 ["relay-b"],
      linkAnnounces "link-c" 1 ["relay-c", "relay-d"],
      ⟨.withdraw "link-b" "device-d" [], [⟨0, []⟩]⟩]
    (fun s => s.registry.state.isOnline "device-d" = false ∧
      s.registry.state.hasTunnel "link-c" = true ∧
      (s.reports "link-c" "device-d").isSome = true) (by decide)
  have honline := (h "relay-a" 8 _ s hrun "device-d").1.mpr (.inr ⟨"link-c", htunnel, hoffer⟩)
  rw [hoffline] at honline
  cases honline

end TermexoRelay
