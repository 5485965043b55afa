import TermexoRelay.Registry.Operations

/-!
# What the frames of one tunnel do to the table

The frames of a downstream relay become jobs that announce and withdraw devices over the handle of
the tunnel they arrive on. None of them touches a registered direct tunnel, and a snapshot leaves no
entry of its link that it has not installed anew.
-/

namespace TermexoRelay

/-- The job comes from a frame of the tunnel `link`. -/
def Job.SpeaksFor (link : TunnelHandle) : Job → Prop
  | .finished => True
  | .announce linkDeviceId link' _ _ => linkDeviceId = link.deviceId ∧ link' = link
  | .announcing linkDeviceId link' _ _ _ => linkDeviceId = link.deviceId ∧ link' = link
  | .withdraw linkDeviceId _ _ => linkDeviceId = link.deviceId
  | .apply linkDeviceId link' _ => linkDeviceId = link.deviceId ∧ link' = link
  | .connect _ => False
  | .connecting _ _ => False
  | .disconnect _ _ => False

/-- The actions of the jobs of one tunnel: the registry before, the job, and what they become. -/
inductive LinkStep (relayId : String) (link : TunnelHandle) (choice : JobChoice)
    (registry : Registry) : Job → Registry → Job → Prop
  | snapshot {devices : List AnnouncedDevice}
      (h : choice.order.Perm (registry.state.announcedIdsOf link.deviceId)) :
      LinkStep relayId link choice registry (.apply link.deviceId link devices) registry
        (.proceed link.deviceId link ⟨choice.order, [], devices⟩)
  | numbered {device : AnnouncedDevice} {batch : Option Batch} :
      LinkStep relayId link choice registry (.announce link.deviceId link device batch)
        { registry with sequence := registry.sequence + 1 }
        (.announcing link.deviceId link device batch registry.sequence)
  | unroutable {device : AnnouncedDevice} {batch : Option Batch} :
      LinkStep relayId link choice registry (.announce link.deviceId link device batch) registry
        (.resume link.deviceId link device.id batch false)
  | installed {device : AnnouncedDevice} {batch : Option Batch} {sequence : Nat}
      {state : RegistryState} {change : Option RegistryChange}
      (h : registry.state.announceLocked relayId link.deviceId link device sequence choice.now =
        some (state, change)) :
      LinkStep relayId link choice registry (.announcing link.deviceId link device batch sequence)
        { registry with state } (.resume link.deviceId link device.id batch true)
  | outrun {device : AnnouncedDevice} {batch : Option Batch} {sequence : Nat}
      (h : registry.state.announceLocked relayId link.deviceId link device sequence choice.now =
        none) :
      LinkStep relayId link choice registry (.announcing link.deviceId link device batch sequence)
        registry (.resume link.deviceId link device.id batch false)
  | withdrawn {deviceId : String} {stale : List String} {state : RegistryState}
      {change : Option RegistryChange}
      (h : registry.state.withdrawLocked relayId link.deviceId deviceId choice.now =
        some (state, change)) :
      LinkStep relayId link choice registry (.withdraw link.deviceId deviceId stale)
        { registry with state } (.sweep link.deviceId stale)
  | absent {deviceId : String} {stale : List String}
      (h : registry.state.withdrawLocked relayId link.deviceId deviceId choice.now = none) :
      LinkStep relayId link choice registry (.withdraw link.deviceId deviceId stale) registry
        (.sweep link.deviceId stale)

section Jobs

variable {relayId : String} {maxHops : Nat} {link : TunnelHandle} {choice : JobChoice}
  {registry registry' : Registry} {job job' : Job} {changes : List RegistryChange}

theorem Job.SpeaksFor.step (hjob : job.SpeaksFor link)
    (h : job.step relayId maxHops registry choice = some (registry', job', changes)) :
    LinkStep relayId link choice registry job registry' job' := by
  cases Job.step_cases h with
  | numbered => cases hjob
  | connected => cases hjob
  | disconnected hperm hlocked => cases hjob
  | displaced hlocked => cases hjob
  | routable hroutable =>
      obtain ⟨rfl, rfl⟩ := hjob
      exact .numbered
  | unroutable hroutable =>
      obtain ⟨rfl, rfl⟩ := hjob
      exact .unroutable
  | installed hlocked =>
      obtain ⟨rfl, rfl⟩ := hjob
      exact .installed hlocked
  | outrun hlocked =>
      obtain ⟨rfl, rfl⟩ := hjob
      exact .outrun hlocked
  | withdrawn hlocked =>
      cases hjob
      exact .withdrawn hlocked
  | absent hlocked =>
      cases hjob
      exact .absent hlocked
  | listed hperm =>
      obtain ⟨rfl, rfl⟩ := hjob
      exact .snapshot hperm

theorem Job.speaksFor_sweep (link : TunnelHandle) (stale : List String) :
    (Job.sweep link.deviceId stale).SpeaksFor link := by
  cases stale with
  | nil => trivial
  | cons id stale => exact rfl

theorem Job.speaksFor_proceed (link : TunnelHandle) (batch : Batch) :
    (Job.proceed link.deviceId link batch).SpeaksFor link := by
  unfold Job.proceed
  split
  · exact ⟨rfl, rfl⟩
  · exact Job.speaksFor_sweep link _

theorem Job.speaksFor_resume (link : TunnelHandle) (deviceId : String) (batch : Option Batch)
    (accepted : Bool) : (Job.resume link.deviceId link deviceId batch accepted).SpeaksFor link := by
  cases batch with
  | none => trivial
  | some batch => exact Job.speaksFor_proceed link _

theorem LinkStep.speaksFor (h : LinkStep relayId link choice registry job registry' job') :
    job'.SpeaksFor link := by
  cases h with
  | snapshot => exact Job.speaksFor_proceed link _
  | numbered => exact ⟨rfl, rfl⟩
  | unroutable => exact Job.speaksFor_resume link _ _ _
  | installed => exact Job.speaksFor_resume link _ _ _
  | outrun => exact Job.speaksFor_resume link _ _ _
  | withdrawn => exact Job.speaksFor_sweep link _
  | absent => exact Job.speaksFor_sweep link _

theorem LinkStep.state_cases (h : LinkStep relayId link choice registry job registry' job') :
    registry'.state = registry.state ∨
      (∃ device batch sequence change,
        job = .announcing link.deviceId link device batch sequence ∧
        registry.state.announceLocked relayId link.deviceId link device sequence choice.now =
          some (registry'.state, change)) ∨
      ∃ deviceId stale change, job = .withdraw link.deviceId deviceId stale ∧
        registry.state.withdrawLocked relayId link.deviceId deviceId choice.now =
          some (registry'.state, change) := by
  cases h with
  | installed h => exact .inr (.inl ⟨_, _, _, _, rfl, h⟩)
  | withdrawn h => exact .inr (.inr ⟨_, _, _, rfl, h⟩)
  | _ => exact .inl rfl

theorem LinkStep.wellFormed (h : LinkStep relayId link choice registry job registry' job')
    (hs : registry.state.WellFormed) : registry'.state.WellFormed := by
  rcases h.state_cases with hsame | ⟨_, _, _, _, -, hlocked⟩ | ⟨_, _, _, -, hlocked⟩
  · rwa [hsame]
  · exact hs.announceLocked hlocked
  · exact hs.withdrawLocked hlocked

theorem RegistryState.WellFormed.not_direct_of_announceLocked {state state' : RegistryState}
    (hs : state.WellFormed) {linkDeviceId : String} {device : AnnouncedDevice} {sequence : Nat}
    {now : Int} {change : Option RegistryChange}
    (h : state.announceLocked relayId linkDeviceId link device sequence now =
      some (state', change)) {entry : Entry} {serial : Nat}
    (hentry : state.entries.lookup device.id = some entry) : entry.origin ≠ .direct serial := by
  intro horigin
  obtain ⟨handle, hroute⟩ := (hs _ _ hentry).direct serial horigin
  have hwins := (RegistryState.announceLocked_eq_some h).1 entry hentry
  rw [hroute] at hwins
  cases hwins

theorem LinkStep.lookup_direct (h : LinkStep relayId link choice registry job registry' job')
    (hs : registry.state.WellFormed) {deviceId : String} {entry : Entry} {serial : Nat}
    (horigin : entry.origin = .direct serial) :
    registry'.state.entries.lookup deviceId = some entry ↔
      registry.state.entries.lookup deviceId = some entry := by
  rcases h.state_cases with hsame | ⟨device, _, _, _, -, hlocked⟩ | ⟨id, _, _, -, hlocked⟩
  · rw [hsame]
  · obtain ⟨-, hentries, -⟩ := RegistryState.announceLocked_eq_some hlocked
    rw [hentries]
    by_cases hid : deviceId = device.id
    · subst hid
      rw [AList.lookup_insert]
      constructor
      · intro hentry
        rw [← Option.some.inj hentry] at horigin
        cases horigin
      · intro hentry
        exact absurd horigin (hs.not_direct_of_announceLocked hlocked hentry)
    · rw [AList.lookup_insert_ne hid]
  · obtain ⟨old, hold, hannounced, hentries, -⟩ := RegistryState.withdrawLocked_eq_some hlocked
    rw [hentries]
    by_cases hid : deviceId = id
    · subst hid
      rw [AList.lookup_erase, hold]
      constructor
      · intro hentry
        cases hentry
      · intro hentry
        rw [← Option.some.inj hentry, hannounced] at horigin
        cases horigin
    · rw [AList.lookup_erase_ne hid]

end Jobs

/-! ## What is left of a snapshot -/

section Leaves

variable {relayId : String} {link : TunnelHandle} {choice : JobChoice}
  {registry registry' : Registry} {job job' : Job}

/-- Whether a snapshot still has to install the id anew or to withdraw it. -/
def Job.leaves (deviceId : String) : Job → Bool
  | .apply _ _ _ => true
  | .announce _ _ _ batch => batch.any fun batch =>
      decide (deviceId ∈ batch.previous ∧ deviceId ∉ batch.installed)
  | .announcing _ _ _ batch _ => batch.any fun batch =>
      decide (deviceId ∈ batch.previous ∧ deviceId ∉ batch.installed)
  | .withdraw _ id stale => decide (deviceId ∈ id :: stale)
  | _ => false

theorem Job.leaves_sweep (linkDeviceId deviceId : String) (stale : List String) :
    (Job.sweep linkDeviceId stale).leaves deviceId = decide (deviceId ∈ stale) := by
  cases stale with
  | nil => rfl
  | cons id stale => rfl

theorem Job.leaves_proceed (linkDeviceId deviceId : String) (batch : Batch) :
    (Job.proceed linkDeviceId link batch).leaves deviceId =
      decide (deviceId ∈ batch.previous ∧ deviceId ∉ batch.installed) := by
  unfold Job.proceed
  split
  · rfl
  · rw [Job.leaves_sweep]
    simp only [List.mem_filter, decide_eq_true_eq]

theorem Job.leaves_resume {linkDeviceId id deviceId : String} {batch : Option Batch}
    {accepted : Bool} (h : accepted = true → deviceId ≠ id) :
    (Job.resume linkDeviceId link id batch accepted).leaves deviceId =
      batch.any fun batch => decide (deviceId ∈ batch.previous ∧ deviceId ∉ batch.installed) := by
  cases batch with
  | none => rfl
  | some batch =>
      rw [Job.resume, Job.leaves_proceed, Option.any_some]
      cases accepted with
      | false => rfl
      | true => simp [h rfl]

/-- After an action of the link, an entry of the link leads over the link's tunnel, or it is an old
one that is still to be replaced if it was before. -/
theorem LinkStep.leaves (h : LinkStep relayId link choice registry job registry' job')
    {deviceId : String} {entry : Entry}
    (hentry : registry'.state.entries.lookup deviceId = some entry)
    (horigin : entry.origin = .announced link.deviceId) :
    entry.device.route.link = link ∨ registry.state.entries.lookup deviceId = some entry ∧
      (job.leaves deviceId = true → job'.leaves deviceId = true) := by
  cases h with
  | snapshot hperm =>
      refine .inr ⟨hentry, fun _ => ?_⟩
      have hmem := hperm.mem_iff.mpr (RegistryState.mem_announcedIdsOf.mpr ⟨entry, hentry, horigin⟩)
      rw [Job.leaves_proceed]
      exact decide_eq_true ⟨hmem, List.not_mem_nil⟩
  | numbered => exact .inr ⟨hentry, id⟩
  | unroutable =>
      refine .inr ⟨hentry, fun hleaves => ?_⟩
      rw [Job.leaves_resume (by intro h; cases h)]
      exact hleaves
  | outrun _ =>
      refine .inr ⟨hentry, fun hleaves => ?_⟩
      rw [Job.leaves_resume (by intro h; cases h)]
      exact hleaves
  | installed hlocked =>
      dsimp only at hentry
      rw [(RegistryState.announceLocked_eq_some hlocked).2.1] at hentry
      rcases Table.lookup_insert_cases hentry with ⟨rfl, rfl⟩ | ⟨hne, hentry⟩
      · exact .inl rfl
      · refine .inr ⟨hentry, fun hleaves => ?_⟩
        rw [Job.leaves_resume fun _ => hne]
        exact hleaves
  | withdrawn hlocked =>
      obtain ⟨_, -, -, hentries, -⟩ := RegistryState.withdrawLocked_eq_some hlocked
      dsimp only at hentry
      rw [hentries] at hentry
      obtain ⟨hne, hentry⟩ := Table.lookup_erase_cases hentry
      refine .inr ⟨hentry, fun hleaves => ?_⟩
      rw [Job.leaves_sweep]
      exact decide_eq_true (List.mem_of_ne_of_mem hne (of_decide_eq_true hleaves))
  | @absent id stale hlocked =>
      refine .inr ⟨hentry, fun hleaves => ?_⟩
      have hne : deviceId ≠ id := by
        rintro rfl
        exact RegistryState.withdrawLocked_eq_none hlocked
          (RegistryState.mem_announcedIdsOf.mpr ⟨entry, hentry, horigin⟩)
      rw [Job.leaves_sweep]
      exact decide_eq_true (List.mem_of_ne_of_mem hne (of_decide_eq_true hleaves))

end Leaves

/-! ## Links with a tunnel -/

/-- Whatever a link announced or withdrew is remembered only while the link has a registered
tunnel. -/
structure RegistryState.LinksDirect (state : RegistryState) : Prop where
  entries : ∀ deviceId entry linkDeviceId, state.entries.lookup deviceId = some entry →
    entry.origin = .announced linkDeviceId → state.hasTunnel linkDeviceId = true
  withdrawn : ∀ deviceId device, state.withdrawn.lookup deviceId = some device →
    state.hasTunnel device.linkDeviceId = true

namespace RegistryState

theorem linksDirect_empty : empty.LinksDirect where
  entries _ _ _ h := by
    rw [empty, AList.lookup_empty] at h
    cases h
  withdrawn _ _ h := by
    rw [empty, AList.lookup_empty] at h
    cases h

theorem hasTunnel_mono {state state' : RegistryState} {linkDeviceId : String}
    (hkeep : ∀ entry, state.entries.lookup linkDeviceId = some entry →
      entry.origin.isDirect = true →
      ∃ entry', state'.entries.lookup linkDeviceId = some entry' ∧ entry'.origin.isDirect = true)
    (h : state.hasTunnel linkDeviceId = true) : state'.hasTunnel linkDeviceId = true := by
  obtain ⟨entry, hentry, hdirect⟩ := (Option.any_eq_true _ _).mp h
  exact (Option.any_eq_true _ _).mpr (hkeep entry hentry hdirect)

theorem LinksDirect.connectLocked {state : RegistryState} (h : state.LinksDirect) (relayId : String)
    (presence : DirectPresence) (serial : Nat) (now : Int) :
    (state.connectLocked relayId presence serial now).1.LinksDirect := by
  have hmono : ∀ linkDeviceId, state.hasTunnel linkDeviceId = true →
      (state.connectLocked relayId presence serial now).1.hasTunnel linkDeviceId = true := by
    intro linkDeviceId
    refine hasTunnel_mono fun entry hentry hdirect => ?_
    rw [connectLocked_entries]
    by_cases hid : linkDeviceId = presence.deviceId
    · exact ⟨presence.entry serial now, hid ▸ AList.lookup_insert _, rfl⟩
    · exact ⟨entry, (AList.lookup_insert_ne hid).trans hentry, hdirect⟩
  constructor
  · intro deviceId entry linkDeviceId hentry horigin
    rw [connectLocked_entries] at hentry
    rcases Table.lookup_insert_cases hentry with ⟨-, rfl⟩ | ⟨-, hentry⟩
    · cases horigin
    · exact hmono _ (h.entries _ _ _ hentry horigin)
  · intro deviceId device hdevice
    rw [connectLocked_withdrawn] at hdevice
    exact hmono _ (h.withdrawn _ _ (Table.lookup_erase_cases hdevice).2)

theorem LinksDirect.disconnectLocked {state state' : RegistryState} {relayId deviceId : String}
    {serial : Nat} {announced : List String} {changes : List RegistryChange} (h : state.LinksDirect)
    (hperm : announced.Perm (state.announcedIdsOf deviceId))
    (hlocked : state.disconnectLocked relayId deviceId serial announced = some (state', changes)) :
    state'.LinksDirect := by
  obtain ⟨-, hentries, hwithdrawn, -⟩ := disconnectLocked_eq_some hlocked
  have hmono : ∀ linkDeviceId, linkDeviceId ≠ deviceId → state.hasTunnel linkDeviceId = true →
      state'.hasTunnel linkDeviceId = true := by
    intro linkDeviceId hne
    refine hasTunnel_mono fun entry hentry hdirect => ⟨entry, ?_, hdirect⟩
    rw [hentries, if_neg, hentry]
    rw [List.mem_cons, hperm.mem_iff, mem_announcedIdsOf]
    rintro (heq | ⟨entry', hentry', horigin⟩)
    · exact hne heq
    · rw [hentry, Option.some.injEq] at hentry'
      rw [hentry', horigin] at hdirect
      cases hdirect
  constructor
  · intro id entry linkDeviceId hentry horigin
    rw [hentries] at hentry
    split at hentry
    · cases hentry
    · next hgone =>
        refine hmono _ ?_ (h.entries _ _ _ hentry horigin)
        rintro rfl
        refine hgone (List.mem_cons_of_mem _ (hperm.mem_iff.mpr ?_))
        exact mem_announcedIdsOf.mpr ⟨entry, hentry, horigin⟩
  · intro id device hdevice
    rw [hwithdrawn, Option.filter_eq_some_iff] at hdevice
    exact hmono _ (of_decide_eq_true hdevice.2) (h.withdrawn _ _ hdevice.1)

theorem LinksDirect.announceLocked {state state' : RegistryState} {relayId linkDeviceId : String}
    {link : TunnelHandle} {device : AnnouncedDevice} {sequence : Nat} {now : Int}
    {change : Option RegistryChange} (h : state.LinksDirect) (hs : state.WellFormed)
    (hlink : state.hasTunnel linkDeviceId = true)
    (hlocked : state.announceLocked relayId linkDeviceId link device sequence now =
      some (state', change)) : state'.LinksDirect := by
  obtain ⟨-, hentries, hwithdrawn, -⟩ := announceLocked_eq_some hlocked
  have hmono : ∀ id, state.hasTunnel id = true → state'.hasTunnel id = true := by
    intro id
    refine hasTunnel_mono fun entry hentry hdirect => ⟨entry, ?_, hdirect⟩
    obtain ⟨serial, horigin⟩ := Origin.isDirect_iff.mp hdirect
    rw [hentries, AList.lookup_insert_ne, hentry]
    rintro rfl
    exact hs.not_direct_of_announceLocked hlocked hentry horigin
  constructor
  · intro id entry linkDeviceId' hentry horigin
    rw [hentries] at hentry
    rcases Table.lookup_insert_cases hentry with ⟨-, rfl⟩ | ⟨-, hentry⟩
    · cases horigin
      exact hmono _ hlink
    · exact hmono _ (h.entries _ _ _ hentry horigin)
  · intro id withdrawn hdevice
    rw [hwithdrawn] at hdevice
    exact hmono _ (h.withdrawn _ _ (Table.lookup_erase_cases hdevice).2)

theorem LinksDirect.withdrawLocked {state state' : RegistryState}
    {relayId linkDeviceId deviceId : String}
    {now : Int} {change : Option RegistryChange} (h : state.LinksDirect)
    (hlocked : state.withdrawLocked relayId linkDeviceId deviceId now = some (state', change)) :
    state'.LinksDirect := by
  obtain ⟨old, hold, horigin, hentries, hwithdrawn, -⟩ := withdrawLocked_eq_some hlocked
  have hmono : ∀ id, state.hasTunnel id = true → state'.hasTunnel id = true := by
    intro id
    refine hasTunnel_mono fun entry hentry hdirect => ⟨entry, ?_, hdirect⟩
    rw [hentries, AList.lookup_erase_ne, hentry]
    rintro rfl
    rw [hold, Option.some.injEq] at hentry
    rw [← hentry, horigin] at hdirect
    cases hdirect
  constructor
  · intro id entry linkDeviceId' hentry horigin'
    rw [hentries] at hentry
    exact hmono _ (h.entries _ _ _ (Table.lookup_erase_cases hentry).2 horigin')
  · intro id withdrawn hdevice
    rw [hwithdrawn] at hdevice
    rcases Table.lookup_insert_cases hdevice with ⟨-, rfl⟩ | ⟨-, hdevice⟩
    · exact hmono _ (h.entries _ _ _ hold horigin)
    · exact hmono _ (h.withdrawn _ _ hdevice)

end RegistryState

end TermexoRelay
