import TermexoRelay.Registry.Numbers
import TermexoRelay.Registry.OfferRuns

/-!
# Two snapshots in a row

A snapshot installs before it withdraws, so that a device both snapshots list does not go offline
in between. What is withdrawn is what was not installed, and a listing can be refused: against a
direct tunnel, against a shorter route of another link, and against a shorter route the same link
announced before.
-/

namespace TermexoRelay

open Transition

theorem replaces_later {existing : Route} {link : TunnelHandle} {hops : List String}
    {sequence sequence' : Nat} (hlater : sequence < sequence') :
    replaces existing sequence (.via link hops) sequence' = true ↔
      existing.isDirect = false ∧ hops.length ≤ existing.hopCount := by
  cases existing with
  | direct handle => simp [replaces, Route.isDirect]
  | via link' hops' =>
      rw [replaces_via]
      simp only [Route.isDirect, Route.hopCount, Route.hops, true_and]
      omega

section Publishing

variable (relayId : String) (maxHops : Nat)

def actPublishing (state : (Registry × Job) × List RegistryChange) (choice : JobChoice) :
    Option ((Registry × Job) × List RegistryChange) :=
  (state.1.2.step relayId maxHops state.1.1 choice).map fun next =>
    ((next.1, next.2.1), state.2 ++ next.2.2)

variable {relayId maxHops} {registry registry' : Registry} {job : Job} {choice : JobChoice}
  {choices : List JobChoice} {sent sent' : List RegistryChange}

theorem run_actPublishing_finished
    (hrun : run (actPublishing relayId maxHops) ((registry, .finished), sent) choices =
      some ((registry', .finished), sent')) : registry' = registry ∧ sent' = sent := by
  cases choices with
  | nil =>
      simp only [run_nil, Option.some.injEq, Prod.mk.injEq, and_true] at hrun
      exact ⟨hrun.1.symm, hrun.2.symm⟩
  | cons choice choices =>
      obtain ⟨m, hm, -⟩ := run_cons_eq_some.mp hrun
      cases hm

theorem run_actPublishing_cons (hjob : job ≠ .finished)
    (hrun : run (actPublishing relayId maxHops) ((registry, job), sent) choices =
      some ((registry', .finished), sent')) :
    ∃ choice rest registry₁ job₁ changes,
      job.step relayId maxHops registry choice = some (registry₁, job₁, changes) ∧
      run (actPublishing relayId maxHops) ((registry₁, job₁), sent ++ changes) rest =
        some ((registry', .finished), sent') := by
  cases choices with
  | nil =>
      simp only [run_nil, Option.some.injEq, Prod.mk.injEq] at hrun
      exact absurd hrun.1.2 hjob
  | cons choice rest =>
      obtain ⟨m, hact, hrest⟩ := run_cons_eq_some.mp hrun
      obtain ⟨⟨registry₁, job₁, changes⟩, hstep, rfl⟩ := Option.map_eq_some_iff.mp hact
      exact ⟨choice, rest, registry₁, job₁, changes, hstep, hrest⟩

/-- The job can be run to its end from here. -/
def Finishes (relayId : String) (maxHops : Nat) (registry : Registry) (job : Job)
    (sent : List RegistryChange) : Prop :=
  ∃ choices registry' sent', run (actPublishing relayId maxHops) ((registry, job), sent) choices =
    some ((registry', .finished), sent')

theorem Finishes.step {registry₁ : Registry} {job₁ : Job} {changes : List RegistryChange}
    (hstep : job.step relayId maxHops registry choice = some (registry₁, job₁, changes))
    (h : Finishes relayId maxHops registry₁ job₁ (sent ++ changes)) :
    Finishes relayId maxHops registry job sent := by
  obtain ⟨choices, registry', sent', hrun⟩ := h
  refine ⟨choice :: choices, registry', sent', run_cons_eq_some.mpr ⟨_, ?_, hrun⟩⟩
  rw [actPublishing, hstep, Option.map_some]

theorem finishes_sweep (registry : Registry) (linkDeviceId : String) (stale : List String)
    (sent : List RegistryChange) :
    Finishes relayId maxHops registry (Job.sweep linkDeviceId stale) sent := by
  induction stale generalizing registry sent with
  | nil => exact ⟨[], registry, sent, rfl⟩
  | cons deviceId stale ih =>
      have hstep : ∃ registry₁ changes, (Job.sweep linkDeviceId (deviceId :: stale)).step relayId
          maxHops registry ⟨0, []⟩ = some (registry₁, Job.sweep linkDeviceId stale, changes) := by
        simp only [Job.sweep, Job.step]
        split <;> exact ⟨_, _, rfl⟩
      obtain ⟨registry₁, changes, hstep⟩ := hstep
      exact Finishes.step hstep (ih registry₁ _)

theorem finishes_proceed (registry : Registry) (linkDeviceId : String) (link : TunnelHandle)
    (previous installed : List String) (remaining : List AnnouncedDevice)
    (sent : List RegistryChange) :
    Finishes relayId maxHops registry
      (Job.proceed linkDeviceId link ⟨previous, installed, remaining⟩) sent := by
  induction remaining generalizing registry installed sent with
  | nil => exact finishes_sweep registry linkDeviceId _ sent
  | cons device remaining ih =>
      have hresume : ∀ registry accepted sent, Finishes relayId maxHops registry
          (Job.resume linkDeviceId link device.id
            (some ⟨previous, installed, remaining⟩) accepted) sent :=
        fun registry accepted sent => ih registry _ sent
      cases honline : device.online with
      | false =>
          rw [proceed_offline honline]
          exact ih registry installed sent
      | true =>
          rw [proceed_online honline]
          have hannounce : ∃ registry₁ job₁ changes, (Job.announce linkDeviceId link device
              (some ⟨previous, installed, remaining⟩)).step relayId maxHops registry ⟨0, []⟩ =
                some (registry₁, job₁, changes) ∧
              ∀ sent, Finishes relayId maxHops registry₁ job₁ sent := by
            simp only [Job.step]
            split
            · refine ⟨_, _, _, rfl, fun sent => ?_⟩
              have hinstall : ∃ registry₂ accepted changes, (Job.announcing linkDeviceId link device
                  (some ⟨previous, installed, remaining⟩) registry.sequence).step relayId maxHops
                    { registry with sequence := registry.sequence + 1 } ⟨0, []⟩ =
                  some (registry₂, Job.resume linkDeviceId link device.id
                    (some ⟨previous, installed, remaining⟩) accepted, changes) := by
                simp only [Job.step]
                split <;> exact ⟨_, _, _, rfl⟩
              obtain ⟨registry₂, accepted, changes, hinstall⟩ := hinstall
              exact Finishes.step hinstall (hresume registry₂ accepted _)
            · exact ⟨_, _, _, rfl, hresume registry false⟩
          obtain ⟨registry₁, job₁, changes, hstep, hfinishes⟩ := hannounce
          exact Finishes.step hstep (hfinishes _)

end Publishing

section Snapshot

variable {relayId : String} {maxHops : Nat} {before registry registry' : Registry}
  {linkDeviceId : String} {link : TunnelHandle} {choices : List JobChoice}
  {sent sent' : List RegistryChange}

theorem withdrawLocked_change {deviceId : String} {now : Int} {state : RegistryState}
    {change : Option RegistryChange} (hs : registry.state.WellFormed)
    (hlocked : registry.state.withdrawLocked relayId linkDeviceId deviceId now =
      some (state, change)) : change = some (.offline deviceId) := by
  obtain ⟨entry, hentry, horigin, -, -, rfl⟩ := RegistryState.withdrawLocked_eq_some hlocked
  obtain ⟨link, hops, hroute⟩ := (hs deviceId entry hentry).announced linkDeviceId horigin
  simp [transition, announcementOf, hroute, Route.isDirect]

theorem sweep_spec {stale : List String} (hs : registry.state.WellFormed)
    (hrun : run (actPublishing relayId maxHops) ((registry, Job.sweep linkDeviceId stale), sent)
      choices = some ((registry', .finished), sent')) :
    (∀ id, registry'.state.entries.lookup id =
      if id ∈ stale ∧ id ∈ registry.state.announcedIdsOf linkDeviceId then none
      else registry.state.entries.lookup id) ∧
    ∀ id, .offline id ∈ sent' ↔ .offline id ∈ sent ∨
      id ∈ stale ∧ id ∈ registry.state.announcedIdsOf linkDeviceId := by
  induction stale generalizing registry sent choices with
  | nil =>
      obtain ⟨rfl, rfl⟩ := run_actPublishing_finished hrun
      simp
  | cons deviceId stale ih =>
      obtain ⟨choice, rest, registry₁, job₁, changes, hstep, hrest⟩ :=
        run_actPublishing_cons (by rw [Job.sweep]; exact Job.noConfusion) hrun
      rw [Job.sweep] at hstep
      cases Job.step_cases hstep with
      | absent hlocked =>
          have hnot := RegistryState.withdrawLocked_eq_none hlocked
          obtain ⟨hlookup, hoffline⟩ := ih hs hrest
          have hmem : ∀ id, id ∈ deviceId :: stale ∧
              id ∈ registry.state.announcedIdsOf linkDeviceId ↔
                id ∈ stale ∧ id ∈ registry.state.announcedIdsOf linkDeviceId := by
            intro id
            rw [List.mem_cons]
            constructor
            · rintro ⟨rfl | hid, howned⟩
              · exact absurd howned hnot
              · exact ⟨hid, howned⟩
            · rintro ⟨hid, howned⟩
              exact ⟨.inr hid, howned⟩
          simp only [hmem]
          exact ⟨hlookup, fun id => by rw [hoffline id, List.append_nil]⟩
      | withdrawn hlocked =>
          obtain rfl := withdrawLocked_change hs hlocked
          obtain ⟨entry, hentry, horigin, hentries, -⟩ :=
            RegistryState.withdrawLocked_eq_some hlocked
          have howned : deviceId ∈ registry.state.announcedIdsOf linkDeviceId :=
            RegistryState.mem_announcedIdsOf.mpr ⟨entry, hentry, horigin⟩
          obtain ⟨hlookup, hoffline⟩ := ih (hs.withdrawLocked hlocked) hrest
          simp only [mem_announcedIdsOf_withdrawLocked hlocked] at hlookup hoffline
          refine ⟨fun id => ?_, fun id => ?_⟩
          · rw [hlookup id, hentries]
            by_cases hid : id = deviceId
            · subst hid
              simp [howned]
            · simp only [AList.lookup_erase_ne hid, List.mem_cons, hid, ne_eq, not_false_eq_true,
                true_and, false_or]
          · rw [hoffline id, List.mem_append, Option.toList_some, List.mem_singleton,
              RegistryChange.offline.injEq]
            by_cases hid : id = deviceId
            · subst hid
              simp [howned]
            · simp only [hid, or_false, ne_eq, not_false_eq_true, true_and, List.mem_cons, false_or]

theorem proceed_cons_cases {previous installed : List String} {device : AnnouncedDevice}
    {remaining : List AnnouncedDevice}
    (hrun : run (actPublishing relayId maxHops) ((registry,
      Job.proceed linkDeviceId link ⟨previous, installed, device :: remaining⟩), sent) choices =
        some ((registry', .finished), sent')) :
    (∃ rest, listings relayId maxHops (device :: remaining) = listings relayId maxHops remaining ∧
      run (actPublishing relayId maxHops) ((registry,
        Job.proceed linkDeviceId link ⟨previous, installed, remaining⟩), sent) rest =
          some ((registry', .finished), sent')) ∨
    listings relayId maxHops (device :: remaining) =
      device :: listings relayId maxHops remaining ∧ ∃ now rest,
        (registry.state.announceLocked relayId linkDeviceId link device registry.sequence now =
            none ∧
          run (actPublishing relayId maxHops) (({ registry with sequence := registry.sequence + 1 },
            Job.proceed linkDeviceId link ⟨previous, installed, remaining⟩), sent) rest =
              some ((registry', .finished), sent')) ∨
        ∃ state change,
          registry.state.announceLocked relayId linkDeviceId link device registry.sequence now =
            some (state, change) ∧
          run (actPublishing relayId maxHops) ((⟨state, registry.sequence + 1⟩,
            Job.proceed linkDeviceId link ⟨previous, installed ++ [device.id], remaining⟩),
              sent ++ change.toList) rest = some ((registry', .finished), sent') := by
  cases honline : device.online with
  | false =>
      rw [proceed_offline honline] at hrun
      exact .inl ⟨choices, by simp [listings, honline], hrun⟩
  | true =>
      rw [proceed_online honline] at hrun
      obtain ⟨choice, rest, registry₁, job₁, changes, hstep, hrest⟩ :=
        run_actPublishing_cons Job.noConfusion hrun
      cases Job.step_cases hstep with
      | routable hroutable =>
          obtain ⟨choice, rest, registry₂, job₂, changes, hstep, hrest⟩ :=
            run_actPublishing_cons Job.noConfusion hrest
          rw [List.append_nil] at hrest
          refine .inr ⟨by simp [listings, honline, hroutable], choice.now, rest, ?_⟩
          cases Job.step_cases hstep with
          | outrun hlocked =>
              rw [List.append_nil] at hrest
              exact .inl ⟨hlocked, hrest⟩
          | installed hlocked => exact .inr ⟨_, _, hlocked, hrest⟩
      | unroutable hroutable =>
          rw [List.append_nil] at hrest
          exact .inl ⟨rest, by simp [listings, hroutable], hrest⟩

/-- How far a snapshot has been installed over the table `before` it: `seen` are the listings so
far. -/
structure Installing (before : Registry) (linkDeviceId : String) (installed : List String)
    (seen : List AnnouncedDevice) (registry : Registry) (sent : List RegistryChange) : Prop where
  sound : registry.Sound
  counted : ∀ id ∈ installed, ∃ device ∈ seen, device.id = id
  owned : ∀ id ∈ installed, id ∈ registry.state.announcedIdsOf linkDeviceId
  untouched : ∀ id, id ∉ installed →
    registry.state.entries.lookup id = before.state.entries.lookup id
  refused : ∀ device ∈ seen, device.id ∉ installed → ∃ existing,
    before.state.entries.lookup device.id = some existing ∧
      (existing.device.route.isDirect = false →
        existing.device.route.hopCount < device.via.length)
  shorter : ∀ id ∈ installed, ∀ existing, before.state.entries.lookup id = some existing →
    ∃ device ∈ seen, device.id = id ∧ device.via.length ≤ existing.device.route.hopCount
  online : ∀ id, .offline id ∉ sent

section Installing

variable {installed : List String} {seen : List AnnouncedDevice} {device : AnnouncedDevice}
  {now : Int}

theorem Installing.reject (h : Installing before linkDeviceId installed seen registry sent)
    (hlocked : registry.state.announceLocked relayId linkDeviceId link device registry.sequence
      now = none) :
    Installing before linkDeviceId installed (seen ++ [device])
      { registry with sequence := registry.sequence + 1 } sent where
  sound := ⟨h.sound.formed, fun id entry hentry =>
    Nat.lt_succ_of_lt (h.sound.bounded id entry hentry)⟩
  counted id hid := by
    obtain ⟨listing, hlisting, hsame⟩ := h.counted id hid
    exact ⟨listing, List.mem_append_left _ hlisting, hsame⟩
  owned := h.owned
  untouched := h.untouched
  refused listing hlisting hid := by
    rcases List.mem_append.mp hlisting with hlisting | hlisting
    · exact h.refused listing hlisting hid
    · obtain rfl := List.mem_singleton.mp hlisting
      obtain ⟨existing, hexisting, hloses⟩ := RegistryState.announceLocked_eq_none hlocked
      refine ⟨existing, (h.untouched _ hid).symm.trans hexisting, fun hannounced => ?_⟩
      by_contra hle
      rw [(replaces_later (h.sound.bounded _ _ hexisting)).mpr ⟨hannounced, not_lt.mp hle⟩]
        at hloses
      cases hloses
  shorter id hid existing hexisting := by
    obtain ⟨listing, hlisting, hsame, hle⟩ := h.shorter id hid existing hexisting
    exact ⟨listing, List.mem_append_left _ hlisting, hsame, hle⟩
  online := h.online

theorem Installing.accept {state : RegistryState} {change : Option RegistryChange}
    (h : Installing before linkDeviceId installed seen registry sent)
    (hlocked : registry.state.announceLocked relayId linkDeviceId link device registry.sequence
      now = some (state, change)) :
    Installing before linkDeviceId (installed ++ [device.id]) (seen ++ [device])
      ⟨state, registry.sequence + 1⟩ (sent ++ change.toList) := by
  obtain ⟨hwins, hentries, -, hchange⟩ := RegistryState.announceLocked_eq_some hlocked
  have hshorter : device.id ∉ installed → ∀ existing,
      before.state.entries.lookup device.id = some existing →
        device.via.length ≤ existing.device.route.hopCount := by
    intro hid existing hexisting
    rw [← h.untouched _ hid] at hexisting
    exact ((replaces_later (h.sound.bounded _ _ hexisting)).mp (hwins existing hexisting)).2
  refine ⟨⟨h.sound.formed.announceLocked hlocked, ?_⟩, ?_, ?_, ?_, ?_, ?_, ?_⟩
  · intro id entry hentry
    rw [hentries] at hentry
    rcases Table.lookup_insert_cases hentry with ⟨-, rfl⟩ | ⟨-, hold⟩
    · exact Nat.lt_succ_self _
    · exact Nat.lt_succ_of_lt (h.sound.bounded id entry hold)
  · intro id hid
    rcases List.mem_append.mp hid with hid | hid
    · obtain ⟨listing, hlisting, hsame⟩ := h.counted id hid
      exact ⟨listing, List.mem_append_left _ hlisting, hsame⟩
    · exact ⟨device, List.mem_append_right _ (List.mem_singleton.mpr rfl),
        (List.mem_singleton.mp hid).symm⟩
  · intro id hid
    rw [mem_announcedIdsOf_announceLocked hlocked]
    rcases List.mem_append.mp hid with hid | hid
    · exact .inr (h.owned id hid)
    · exact .inl (List.mem_singleton.mp hid)
  · intro id hid
    rw [List.mem_append, not_or, List.mem_singleton] at hid
    rw [hentries, AList.lookup_insert_ne hid.2, h.untouched id hid.1]
  · intro listing hlisting hid
    rw [List.mem_append, not_or, List.mem_singleton] at hid
    rcases List.mem_append.mp hlisting with hlisting | hlisting
    · exact h.refused listing hlisting hid.1
    · exact absurd (congrArg AnnouncedDevice.id (List.mem_singleton.mp hlisting)) hid.2
  · intro id hid existing hexisting
    by_cases hinstalled : id ∈ installed
    · obtain ⟨listing, hlisting, hsame, hle⟩ := h.shorter id hinstalled existing hexisting
      exact ⟨listing, List.mem_append_left _ hlisting, hsame, hle⟩
    · obtain rfl : id = device.id := by simpa [hinstalled] using hid
      exact ⟨device, List.mem_append_right _ (List.mem_singleton.mpr rfl), rfl,
        hshorter hinstalled existing hexisting⟩
  · intro id hmem
    rcases List.mem_append.mp hmem with hmem | hmem
    · exact h.online id hmem
    · simp [hchange, transition, announcementOf, AnnouncedDevice.entry] at hmem

end Installing

theorem Installing.proceed {previous installed : List String}
    {seen remaining : List AnnouncedDevice}
    (h : Installing before linkDeviceId installed seen registry sent)
    (hrun : run (actPublishing relayId maxHops) ((registry,
      Job.proceed linkDeviceId link ⟨previous, installed, remaining⟩), sent) choices =
        some ((registry', .finished), sent')) :
    ∃ registry₁ installed₁ sent₁ rest,
      Installing before linkDeviceId installed₁ (seen ++ listings relayId maxHops remaining)
        registry₁ sent₁ ∧
      run (actPublishing relayId maxHops) ((registry₁, Job.sweep linkDeviceId
        (previous.filter fun id => decide (id ∉ installed₁))), sent₁) rest =
          some ((registry', .finished), sent') := by
  induction remaining generalizing registry installed seen sent choices with
  | nil => exact ⟨registry, installed, sent, choices, by simpa [listings] using h, hrun⟩
  | cons device remaining ih =>
      rcases proceed_cons_cases hrun with ⟨rest, hlisted, hrest⟩ | ⟨hlisted, now, rest, hnext⟩
      · rw [hlisted]
        exact ih h hrest
      · rw [hlisted, List.append_cons]
        rcases hnext with ⟨hlocked, hrest⟩ | ⟨state, change, hlocked, hrest⟩
        · exact ih (h.reject hlocked) hrest
        · exact ih (h.accept hlocked) hrest

end Snapshot

/-- The snapshot lists the device as online and routable. -/
def Listed (relayId : String) (maxHops : Nat) (devices : List AnnouncedDevice) (id : String) :
    Prop :=
  ∃ device ∈ listings relayId maxHops devices, device.id = id

/-- What a snapshot is for: what it lists can be reached and was not taken away in between, and
nothing else of the link is left. -/
structure SnapshotKept (relayId : String) (maxHops : Nat) (linkDeviceId : String)
    (devices : List AnnouncedDevice) (registry : Registry) (published : List RegistryChange) :
    Prop where
  present : ∀ id, Listed relayId maxHops devices id → registry.state.isOnline id = true
  replaced : ∀ id ∈ registry.state.announcedIdsOf linkDeviceId, Listed relayId maxHops devices id
  steady : ∀ id, Listed relayId maxHops devices id → .offline id ∉ published

/-- No device the link announced before is listed over longer chains only. -/
def NotLonger (relayId : String) (maxHops : Nat) (registry : Registry) (linkDeviceId : String)
    (devices : List AnnouncedDevice) : Prop :=
  ∀ id entry, registry.state.entries.lookup id = some entry →
    entry.origin = .announced linkDeviceId → Listed relayId maxHops devices id →
      ∃ device ∈ listings relayId maxHops devices, device.id = id ∧
        device.via.length ≤ entry.device.route.hopCount

section Applied

variable {relayId linkDeviceId : String} {maxHops : Nat} {link : TunnelHandle}
  {devices : List AnnouncedDevice} {choices : List JobChoice}
  {before installing registry' : Registry} {installed : List String}
  {sent published : List RegistryChange}

/-- A snapshot installs what it lists, and then withdraws what the link had announced before and
was not installed. -/
theorem applyAnnouncement_spec (hsound : before.Sound)
    (hrun : run (actPublishing relayId maxHops)
      ((before, .apply linkDeviceId link devices), []) choices =
        some ((registry', .finished), published)) :
    ∃ installed installing sent,
      Installing before linkDeviceId installed (listings relayId maxHops devices) installing sent ∧
      (∀ id, registry'.state.entries.lookup id =
        if id ∈ before.state.announcedIdsOf linkDeviceId ∧ id ∉ installed then none
        else installing.state.entries.lookup id) ∧
      ∀ id, .offline id ∈ published ↔ .offline id ∈ sent ∨
        id ∈ before.state.announcedIdsOf linkDeviceId ∧ id ∉ installed := by
  obtain ⟨choice, rest, registry₁, job₁, changes, hread, hrest⟩ :=
    run_actPublishing_cons Job.noConfusion hrun
  simp only [Job.step, Option.ite_none_right_eq_some, Option.some.injEq, Prod.mk.injEq] at hread
  obtain ⟨hperm, rfl, rfl, rfl⟩ := hread
  have hstart : Installing before linkDeviceId [] [] before ([] ++ []) :=
    ⟨hsound, by simp, by simp, fun _ _ => rfl, by simp, by simp, by simp⟩
  obtain ⟨installing, installed, sent, rest, hinstalling, hsweep⟩ := hstart.proceed hrest
  rw [List.nil_append] at hinstalling
  obtain ⟨hlookup, hoffline⟩ := sweep_spec hinstalling.sound.formed hsweep
  have hswept : ∀ id, (id ∈ choice.order.filter (fun id => decide (id ∉ installed)) ∧
      id ∈ installing.state.announcedIdsOf linkDeviceId) ↔
        id ∈ before.state.announcedIdsOf linkDeviceId ∧ id ∉ installed := by
    intro id
    rw [List.mem_filter, hperm.mem_iff, decide_eq_true_eq]
    constructor
    · exact fun h => h.1
    · intro h
      refine ⟨h, ?_⟩
      rw [RegistryState.mem_announcedIdsOf, hinstalling.untouched id h.2,
        ← RegistryState.mem_announcedIdsOf]
      exact h.1
  simp only [hswept] at hlookup hoffline
  exact ⟨installed, installing, sent, hinstalling, hlookup, hoffline⟩

theorem SnapshotKept.notLonger
    (hkept : SnapshotKept relayId maxHops linkDeviceId devices registry' published)
    (hinstalling : Installing before linkDeviceId installed (listings relayId maxHops devices)
      installing sent)
    (hoffline : ∀ id, .offline id ∈ published ↔ .offline id ∈ sent ∨
      id ∈ before.state.announcedIdsOf linkDeviceId ∧ id ∉ installed) :
    NotLonger relayId maxHops before linkDeviceId devices := by
  intro id entry hentry horigin hlisted
  have howned : id ∈ before.state.announcedIdsOf linkDeviceId :=
    RegistryState.mem_announcedIdsOf.mpr ⟨entry, hentry, horigin⟩
  have hinstalled : id ∈ installed := by
    by_contra hid
    exact hkept.steady id hlisted ((hoffline id).mpr (.inr ⟨howned, hid⟩))
  exact hinstalling.shorter id hinstalled entry hentry

/-- Where no listing is only longer, every listed device of the link is installed anew. -/
theorem NotLonger.mem_installed (hlengths : NotLonger relayId maxHops before linkDeviceId devices)
    (hsound : before.Sound)
    (hinstalling : Installing before linkDeviceId installed (listings relayId maxHops devices)
      installing sent) {id : String} (hlisted : Listed relayId maxHops devices id)
    (howned : id ∈ before.state.announcedIdsOf linkDeviceId) : id ∈ installed := by
  obtain ⟨entry, hentry, horigin⟩ := RegistryState.mem_announcedIdsOf.mp howned
  obtain ⟨device, hdevice, rfl, hle⟩ := hlengths id entry hentry horigin hlisted
  by_contra hid
  obtain ⟨existing, hexisting, hlonger⟩ := hinstalling.refused device hdevice hid
  rw [hentry, Option.some.injEq] at hexisting
  subst hexisting
  obtain ⟨link', hops, hroute⟩ := (hsound.formed _ _ hentry).announced linkDeviceId horigin
  have hlt := hlonger (by rw [hroute, Route.isDirect])
  omega

theorem NotLonger.snapshotKept (hlengths : NotLonger relayId maxHops before linkDeviceId devices)
    (hsound : before.Sound)
    (hinstalling : Installing before linkDeviceId installed (listings relayId maxHops devices)
      installing sent)
    (hlookup : ∀ id, registry'.state.entries.lookup id =
      if id ∈ before.state.announcedIdsOf linkDeviceId ∧ id ∉ installed then none
      else installing.state.entries.lookup id)
    (hoffline : ∀ id, .offline id ∈ published ↔ .offline id ∈ sent ∨
      id ∈ before.state.announcedIdsOf linkDeviceId ∧ id ∉ installed) :
    SnapshotKept relayId maxHops linkDeviceId devices registry' published := by
  have hinstalled : ∀ id, Listed relayId maxHops devices id →
      id ∈ before.state.announcedIdsOf linkDeviceId → id ∈ installed := fun _ hlisted howned =>
    hlengths.mem_installed hsound hinstalling hlisted howned
  refine ⟨fun id hlisted => ?_, fun id howned => ?_, fun id hlisted hmem => ?_⟩
  · by_cases hid : id ∈ installed
    · obtain ⟨entry, hentry, -⟩ := RegistryState.mem_announcedIdsOf.mp (hinstalling.owned id hid)
      rw [RegistryState.isOnline, hlookup, if_neg fun h => h.2 hid, hentry, Option.isSome_some]
    · obtain ⟨device, hdevice, rfl⟩ := hlisted
      obtain ⟨existing, hexisting, -⟩ := hinstalling.refused device hdevice hid
      have hnot : device.id ∉ before.state.announcedIdsOf linkDeviceId :=
        fun howned => hid (hinstalled _ ⟨device, hdevice, rfl⟩ howned)
      rw [RegistryState.isOnline, hlookup, if_neg fun h => hnot h.1,
        hinstalling.untouched _ hid, hexisting, Option.isSome_some]
  · by_cases hid : id ∈ installed
    · exact hinstalling.counted id hid
    · obtain ⟨entry, hentry, horigin⟩ := RegistryState.mem_announcedIdsOf.mp howned
      rw [hlookup] at hentry
      split at hentry
      · cases hentry
      · next hstays =>
          rw [hinstalling.untouched id hid] at hentry
          exact absurd ⟨RegistryState.mem_announcedIdsOf.mpr ⟨entry, hentry, horigin⟩, hid⟩ hstays
  · rcases (hoffline id).mp hmem with hsent | ⟨howned, hid⟩
    · exact hinstalling.online id hsent
    · exact hid (hinstalled id hlisted howned)

end Applied

/-- A snapshot keeps what it lists exactly when it lists no device of the link over longer chains
only. -/
theorem applyAnnouncement_kept_iff {relayId : String} {maxHops : Nat} {p : PublicationState}
    (hreachable : Reachable (Publication.step relayId maxHops) Publication.init p)
    (linkDeviceId : String) (link : TunnelHandle) (devices : List AnnouncedDevice) :
    (∃ choices registry' published, run (actPublishing relayId maxHops)
      ((p.shared.registry, .apply linkDeviceId link devices), []) choices =
        some ((registry', .finished), published)) ∧
    ∀ choices registry' published, run (actPublishing relayId maxHops)
        ((p.shared.registry, .apply linkDeviceId link devices), []) choices =
          some ((registry', .finished), published) →
      (SnapshotKept relayId maxHops linkDeviceId devices registry' published ↔
        NotLonger relayId maxHops p.shared.registry linkDeviceId devices) := by
  generalize hbefore : p.shared.registry = before
  have hsound : before.Sound := hbefore ▸ sound_of_reachable hreachable
  constructor
  · have hread : (Job.apply linkDeviceId link devices).step relayId maxHops before
        ⟨0, before.state.announcedIdsOf linkDeviceId⟩ = some (before, Job.proceed linkDeviceId link
          ⟨before.state.announcedIdsOf linkDeviceId, [], devices⟩, []) := by
      rw [Job.step, if_pos (List.Perm.refl _)]
    exact Finishes.step hread (finishes_proceed _ _ _ _ _ _ _)
  · intro choices registry' published hrun
    obtain ⟨installed, installing, sent, hinstalling, hlookup, hoffline⟩ :=
      applyAnnouncement_spec hsound hrun
    exact ⟨fun hkept => hkept.notLonger hinstalling hoffline,
      fun hlengths => hlengths.snapshotKept hsound hinstalling hlookup hoffline⟩

def officeSnapshot (via : List String) : List AnnouncedDevice := [⟨"device-b", "office", true, via⟩]

def linkHandle : TunnelHandle := ⟨"relay-link", 0⟩

def firstSnapshot (via : List String) : List PublicationLabel :=
  .spawn (.apply "relay-link" linkHandle (officeSnapshot via)) ::
    List.replicate 4 (.advance 0 Publication.plainChoice)

def nextSnapshot : List JobChoice := ⟨1, ["device-b"]⟩ :: List.replicate 2 ⟨1, []⟩

theorem applyAnnouncement_kept_iff_repeated :
    ∃ p, run (Publication.step "relay-a" 8) Publication.init
      (firstSnapshot ["relay-b"]) = some p ∧
      ∃ registry' published, run (actPublishing "relay-a" 8) ((p.shared.registry,
          .apply "relay-link" linkHandle (officeSnapshot ["relay-b"])), []) nextSnapshot =
            some ((registry', .finished), published) ∧
        SnapshotKept "relay-a" 8 "relay-link" (officeSnapshot ["relay-b"]) registry' published := by
  obtain ⟨p, hp, hfinished, hlisted⟩ := exists_run (Publication.step "relay-a" 8) Publication.init
    (firstSnapshot ["relay-b"]) (fun p => (run (actPublishing "relay-a" 8) ((p.shared.registry,
        .apply "relay-link" linkHandle (officeSnapshot ["relay-b"])), []) nextSnapshot).any
          (fun next => decide (next.1.2 = .finished)) = true ∧
      p.shared.registry.state.entries.lookup "device-b" = some
        ⟨⟨"device-b", "office", .desktop, 0, none, none, .via linkHandle ["relay-b"]⟩,
          .announced "relay-link", 0⟩) (by decide)
  obtain ⟨⟨⟨registry', job⟩, published⟩, hrun, hjob⟩ := (Option.any_eq_true _ _).mp hfinished
  obtain rfl : job = .finished := of_decide_eq_true hjob
  refine ⟨p, hp, registry', published, hrun, ?_⟩
  refine ((applyAnnouncement_kept_iff ⟨_, hp⟩ _ _ _).2 _ _ _ hrun).mpr ?_
  rintro id entry hentry - ⟨device, hdevice, rfl⟩
  obtain rfl : device = ⟨"device-b", "office", true, ["relay-b"]⟩ := by
    have hmem := (List.mem_filter.mp hdevice).1
    rwa [officeSnapshot, List.mem_singleton] at hmem
  rw [hlisted, Option.some.injEq] at hentry
  subst hentry
  exact ⟨_, hdevice, rfl, le_rfl⟩

/-- A device that is listed over a longer chain than before goes offline. -/
theorem applyAnnouncement_withdraws_listed :
    ¬ ∀ (relayId : String) (maxHops : Nat) (p : PublicationState),
      Reachable (Publication.step relayId maxHops) Publication.init p →
      ∀ (linkDeviceId : String) (link : TunnelHandle) (devices : List AnnouncedDevice)
        (choices : List JobChoice) (registry' : Registry) (published : List RegistryChange),
      run (actPublishing relayId maxHops)
        ((p.shared.registry, .apply linkDeviceId link devices), []) choices =
          some ((registry', .finished), published) →
      SnapshotKept relayId maxHops linkDeviceId devices registry' published := by
  intro hkept
  obtain ⟨p, hp, hfinished⟩ := exists_run (Publication.step "relay-a" 8) Publication.init
    (firstSnapshot ["relay-b"]) (fun p => (run (actPublishing "relay-a" 8) ((p.shared.registry,
        .apply "relay-link" linkHandle (officeSnapshot ["relay-b", "relay-c"])), [])
          (nextSnapshot ++ [⟨1, []⟩])).any (fun next => decide (next.1.2 = .finished ∧
            .offline "device-b" ∈ next.2)) = true) (by decide)
  obtain ⟨⟨⟨registry', job⟩, published⟩, hrun, hnext⟩ := (Option.any_eq_true _ _).mp hfinished
  obtain ⟨rfl, hoffline⟩ := of_decide_eq_true hnext
  have hlisted : Listed "relay-a" 8 (officeSnapshot ["relay-b", "relay-c"]) "device-b" :=
    ⟨⟨"device-b", "office", true, ["relay-b", "relay-c"]⟩, by decide, rfl⟩
  have hsnapshot := hkept "relay-a" 8 p ⟨_, hp⟩ _ _ _ _ _ _ hrun
  exact hsnapshot.steady "device-b" hlisted hoffline

end TermexoRelay
