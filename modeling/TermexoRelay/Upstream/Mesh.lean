import TermexoRelay.Tunnel.Session
import TermexoRelay.Upstream.Subscription

/-!
# Relays that announce to each other

Any number of relays, each with its own routing table and its own operations in progress, and the
links between them. A device that comes up at one relay is announced over its links, installed by
the relays above and announced further. Whatever the order of these steps, and whatever links and
tunnels come and go in between, a route in a relay's table was built from links that were made and
a tunnel that came up, and never passes a relay twice.
-/

namespace TermexoRelay

open Transition

/-- A link of one relay to another: the session at the lower end, the frames on their way, and the
job the tunnel session at the upper end is busy with. -/
structure Uplink where
  lower : String
  upper : String
  handle : TunnelHandle
  /-- `none` until `pump` has subscribed. -/
  subscription : Option Subscription
  inFlight : List ControlFrame
  handling : Nat
deriving DecidableEq

structure Mesh where
  relays : String → PublicationState
  uplinks : List Uplink

inductive MeshLabel where
  /-- The tunnel of a desktop comes up at a relay. -/
  | attach (relayId : String) (presence : DirectPresence)
  /-- The session of a tunnel ends. -/
  | detach (relayId deviceId : String) (serial : Nat)
  | act (relayId : String) (index : Nat) (choice : JobChoice)
  /-- A relay joins an upstream, which registers its tunnel. -/
  | join (lower upper : String) (presence : DirectPresence)
  | turn (link : Nat)
  /-- The upper end of a link handles the oldest frame, once it is done with the one before. -/
  | deliver (link : Nat)
  | lose (link : Nat)

namespace Mesh

def init : Mesh := ⟨fun _ => Publication.init, []⟩

def setRelay (mesh : Mesh) (relayId : String) (relay : PublicationState) : Mesh :=
  { mesh with relays := Function.update mesh.relays relayId relay }

def call (mesh : Mesh) (relayId : String) (job : Job) : Mesh :=
  mesh.setRelay relayId
    { mesh.relays relayId with tasks := (mesh.relays relayId).tasks ++ [job] }

/-- One turn of the lower end; its first is to subscribe. -/
def turn (capacity : Nat) (mesh : Mesh) (uplink : Uplink) : Option Uplink :=
  match uplink.subscription with
  | none => some
      { uplink with subscription := some (.start (mesh.relays uplink.lower).shared.channel) }
  | some subscription =>
      (subscription.turn capacity uplink.lower uplink.upper
        (mesh.relays uplink.lower).shared).map fun next =>
        { uplink with
          subscription := some next.1
          inFlight := uplink.inFlight ++ next.2.toList }

/-- The operation has returned, and all it had to publish is published. -/
def returned (relay : PublicationState) (index : Nat) : Bool :=
  decide (relay.tasks[index]? = some .finished) &&
    relay.shared.unpublished.all fun item => item.1 ≠ index

/-- The upper end takes the oldest frame; a frame that asks for nothing is ignored. -/
def deliver (mesh : Mesh) (link : Nat) (uplink : Uplink) : Option Mesh :=
  match uplink.inFlight with
  | [] => none
  | frame :: inFlight =>
      if returned (mesh.relays uplink.upper) uplink.handling then
        let job := controlFrameJob uplink.handle .relay frame
        if job = .finished then
          some { mesh with uplinks := mesh.uplinks.set link { uplink with inFlight } }
        else
          let handling := (mesh.relays uplink.upper).tasks.length
          some { (mesh.call uplink.upper job) with
            uplinks := mesh.uplinks.set link { uplink with inFlight, handling } }
      else none

def step (capacity maxHops : Nat) (mesh : Mesh) : MeshLabel → Option Mesh
  | .attach relayId presence =>
      if presence.kind = .desktop then some (mesh.call relayId (.connect presence)) else none
  | .detach relayId deviceId serial => some (mesh.call relayId (.disconnect deviceId serial))
  | .act relayId index choice =>
      (Publication.step relayId maxHops (mesh.relays relayId) (.advance index choice)).map
        (mesh.setRelay relayId)
  | .join lower upper presence =>
      -- A `welcome` in the relay's own name is refused.
      if lower ≠ upper ∧ presence.kind = .relay ∧ presence.relayId = some lower then
        some { (mesh.call upper (.connect presence)) with
          uplinks := mesh.uplinks ++
            [⟨lower, upper, presence.handle, none, [], (mesh.relays upper).tasks.length⟩] }
      else none
  | .turn link =>
      (mesh.uplinks[link]?.bind (mesh.turn capacity)).map fun uplink =>
        { mesh with uplinks := mesh.uplinks.set link uplink }
  | .deliver link => mesh.uplinks[link]?.bind (mesh.deliver link)
  | .lose link => some { mesh with uplinks := mesh.uplinks.eraseIdx link }

def Joined (labels : List MeshLabel) (lower upper : String) (handle : TunnelHandle) : Prop :=
  ∃ presence, .join lower upper presence ∈ labels ∧ presence.handle = handle

def Attached (labels : List MeshLabel) (relayId deviceId : String) (handle : TunnelHandle) : Prop :=
  ∃ presence, .attach relayId presence ∈ labels ∧ presence.deviceId = deviceId ∧
    presence.handle = handle

/-- The route leads from the relay to the device: over the device's own tunnel, or over a link to
a relay from which the rest of it does. -/
inductive Leads (joined attached : String → String → TunnelHandle → Prop) (deviceId : String) :
    String → Route → Prop
  | direct {relayId : String} {handle : TunnelHandle} (h : attached relayId deviceId handle) :
      Leads joined attached deviceId relayId (.direct handle)
  | via {relayId lower : String} {link : TunnelHandle} {route : Route}
      (hjoined : joined lower relayId link) (h : Leads joined attached deviceId lower route) :
      Leads joined attached deviceId relayId (.via link (lower :: route.hops))

def Recorded (joined attached : String → String → TunnelHandle → Prop) : MeshLabel → Prop
  | .attach relayId presence => attached relayId presence.deviceId presence.handle
  | .join lower upper presence => joined lower upper presence.handle
  | _ => True

section Traced

variable (joined attached : String → String → TunnelHandle → Prop) (maxHops : Nat)

/-- An announcement of `lower` as it can be made: the device is where its route leads, and the
relays on the way are all different. -/
structure Announceable (lower : String) (device : AnnouncedDevice) : Prop where
  leads : ∃ route, Leads joined attached device.id lower route ∧ device.via = lower :: route.hops
  simple : device.via.Nodup

/-- An entry as a table holds it: a hop is a link that was made, a destination is where its route
leads. -/
structure Traced (relayId deviceId : String) (entry : Entry) : Prop where
  hop : entry.device.kind = .relay → ∃ lower handle, entry.device.route = .direct handle ∧
    joined lower relayId handle
  leads : entry.device.kind = .desktop → Leads joined attached deviceId relayId entry.device.route
  simple : (relayId :: entry.device.route.hops).Nodup
  short : ∀ link hops, entry.device.route = .via link hops → hops.length < maxHops

/-- What a relay may be told over one of its tunnels. -/
def Heard (relayId : String) (link : TunnelHandle) (device : AnnouncedDevice) : Prop :=
  ∃ lower, joined lower relayId link ∧ Announceable joined attached lower device

/-- What an operation of the relay may be about. -/
def JobTraced (relayId : String) : Job → Prop
  | .connect presence | .connecting presence _ => match presence.kind with
      | .desktop => attached relayId presence.deviceId presence.handle
      | .relay => ∃ lower, joined lower relayId presence.handle
  | .announce _ link device batch => Heard joined attached relayId link device ∧
      ∀ rest, batch = some rest → ∀ device ∈ rest.remaining,
        Heard joined attached relayId link device
  | .announcing _ link device batch _ => Heard joined attached relayId link device ∧
      relayId ∉ device.via ∧ device.via.length < maxHops ∧
      ∀ rest, batch = some rest → ∀ device ∈ rest.remaining,
        Heard joined attached relayId link device
  | .apply _ link devices => ∀ device ∈ devices, Heard joined attached relayId link device
  | .finished | .disconnect _ _ | .withdraw _ _ _ => True

def ChangeTraced (relayId : String) : RegistryChange → Prop
  | .online device => Announceable joined attached relayId device
  | .offline _ => True

def FrameTraced (lower : String) : ControlFrame → Prop
  | .announce devices => ∀ device ∈ devices, Announceable joined attached lower device
  | .deviceOnline id name via => Announceable joined attached lower ⟨id, name, true, via⟩
  | _ => True

structure RelayTraced (relayId : String) (relay : PublicationState) : Prop where
  wellFormed : relay.shared.registry.state.WellFormed
  entries : ∀ deviceId entry, relay.shared.registry.state.entries.lookup deviceId = some entry →
    Traced joined attached maxHops relayId deviceId entry
  unpublished : ∀ item ∈ relay.shared.unpublished, ChangeTraced joined attached relayId item.2
  channel : ∀ change ∈ relay.shared.channel, ChangeTraced joined attached relayId change
  tasks : ∀ job ∈ relay.tasks, JobTraced joined attached maxHops relayId job

/-- Nothing in the mesh speaks of a way that was not there. -/
structure Inv (mesh : Mesh) : Prop where
  relays : ∀ relayId, RelayTraced joined attached maxHops relayId (mesh.relays relayId)
  uplinks : ∀ uplink ∈ mesh.uplinks, joined uplink.lower uplink.upper uplink.handle ∧
    ∀ frame ∈ uplink.inFlight, FrameTraced joined attached uplink.lower frame

end Traced

section Relay

variable {joined attached : String → String → TunnelHandle → Prop} {maxHops : Nat}
  {relayId deviceId : String}

theorem Traced.announceable {entry : Entry} {device : AnnouncedDevice}
    (h : Traced joined attached maxHops relayId deviceId entry) (hformed : entry.Formed deviceId)
    (hdevice : announcementOf relayId entry = some device) :
    Announceable joined attached relayId device := by
  have hid : device.id = deviceId := (announcementOf_id hdevice).trans hformed.named
  unfold announcementOf at hdevice
  split at hdevice
  · cases hdevice
  · next hdestination =>
      have hvia : device.via = relayId :: entry.device.route.hops := by
        rw [← Option.some.inj hdevice]
      cases hkind : entry.device.kind with
      | relay =>
          obtain ⟨lower, handle, hroute, -⟩ := h.hop hkind
          exact absurd ⟨hkind, by rw [hroute, Route.isDirect]⟩ hdestination
      | desktop =>
          rw [← hid] at h
          exact ⟨⟨_, h.leads hkind, hvia⟩, hvia ▸ h.simple⟩

/-- What is heard over a link and routable is traced where it is installed. -/
theorem Heard.traced {link : TunnelHandle} {device : AnnouncedDevice}
    (h : Heard joined attached relayId link device) (hloop : relayId ∉ device.via)
    (hshort : device.via.length < maxHops) (linkDeviceId : String) (sequence : Nat) (now : Int) :
    Traced joined attached maxHops relayId device.id
      (device.entry linkDeviceId link sequence now) where
  hop hkind := by cases hkind
  leads _ := by
    obtain ⟨lower, hjoined, ⟨route, hleads, hvia⟩, -⟩ := h
    simp only [AnnouncedDevice.entry, hvia]
    exact .via hjoined hleads
  simple := by
    obtain ⟨lower, -, -, hsimple⟩ := h
    exact List.nodup_cons.mpr ⟨hloop, hsimple⟩
  short link hops hroute := by
    cases hroute
    exact hshort

theorem traced_of_connecting {presence : DirectPresence} {serial : Nat}
    (h : JobTraced joined attached maxHops relayId (.connecting presence serial)) (now : Int) :
    Traced joined attached maxHops relayId presence.deviceId (presence.entry serial now) where
  hop hkind := by
    have hrelay : presence.kind = .relay := hkind
    simp only [JobTraced, hrelay] at h
    obtain ⟨lower, hjoined⟩ := h
    exact ⟨lower, presence.handle, rfl, hjoined⟩
  leads hkind := by
    have hdesktop : presence.kind = .desktop := hkind
    simp only [JobTraced, hdesktop] at h
    exact .direct h
  simple := List.nodup_singleton relayId
  short _ _ hroute := by cases hroute

theorem changeTraced_of_transition {previous current : Option Entry} {change : RegistryChange}
    (h : transition relayId deviceId previous current = some change)
    (hcurrent : ∀ entry device, current = some entry → announcementOf relayId entry = some device →
      Announceable joined attached relayId device) :
    ChangeTraced joined attached relayId change := by
  unfold transition at h
  split at h
  · next device hdevice =>
      obtain ⟨entry, hentry, hannounced⟩ := Option.bind_eq_some_iff.mp hdevice
      cases h
      exact hcurrent entry device hentry hannounced
  · split at h
    · cases h
      trivial
    · cases h

theorem sweep_traced (linkDeviceId : String) (stale : List String) :
    JobTraced joined attached maxHops relayId (.sweep linkDeviceId stale) :=
  Job.sweep_property trivial (fun _ _ => trivial) stale

theorem proceed_traced {linkDeviceId : String} {link : TunnelHandle} {batch : Batch}
    (h : ∀ device ∈ batch.remaining, Heard joined attached relayId link device) :
    JobTraced joined attached maxHops relayId (.proceed linkDeviceId link batch) := by
  rw [Job.proceed]
  split
  · next device remaining hremaining =>
      have hsubset : ∀ other ∈ device :: remaining, Heard joined attached relayId link other := by
        intro other hother
        rw [← hremaining] at hother
        exact h other ((List.dropWhile_sublist _).subset hother)
      refine ⟨hsubset device List.mem_cons_self, fun rest hrest => ?_⟩
      cases hrest
      exact fun other hother => hsubset other (List.mem_cons_of_mem _ hother)
  · exact sweep_traced linkDeviceId _

theorem resume_traced {linkDeviceId id : String} {link : TunnelHandle} {batch : Option Batch}
    {accepted : Bool}
    (h : ∀ rest, batch = some rest → ∀ device ∈ rest.remaining,
      Heard joined attached relayId link device) :
    JobTraced joined attached maxHops relayId (.resume linkDeviceId link id batch accepted) := by
  cases batch with
  | none => trivial
  | some rest => exact proceed_traced (h rest rfl)

theorem job_step_traced {registry registry' : Registry} {choice : JobChoice} {job job' : Job}
    {changes : List RegistryChange}
    (hentries : ∀ deviceId entry, registry.state.entries.lookup deviceId = some entry →
      Traced joined attached maxHops relayId deviceId entry)
    (hjob : JobTraced joined attached maxHops relayId job)
    (hstep : job.step relayId maxHops registry choice = some (registry', job', changes)) :
    (∀ deviceId entry, registry'.state.entries.lookup deviceId = some entry →
      Traced joined attached maxHops relayId deviceId entry) ∧
    JobTraced joined attached maxHops relayId job' ∧
    ∀ change ∈ changes, ChangeTraced joined attached relayId change := by
  cases Job.step_cases hstep with
  | @numbered presence => exact ⟨hentries, hjob, by simp⟩
  | @connected presence serial =>
      have htraced := traced_of_connecting hjob choice.now
      refine ⟨fun id entry hentry => ?_, trivial, fun change hchange => ?_⟩
      · rw [RegistryState.connectLocked_entries] at hentry
        rcases Table.lookup_insert_cases hentry with ⟨rfl, rfl⟩ | ⟨-, hentry⟩
        · exact htraced
        · exact hentries id entry hentry
      · refine changeTraced_of_transition (Option.mem_toList.mp hchange) fun _ _ hentry => ?_
        cases hentry
        exact htraced.announceable (presence.entry_formed serial choice.now)
  | disconnected hperm hlocked =>
      refine ⟨fun id entry hentry =>
        hentries id entry (RegistryState.lookup_of_disconnectLocked hlocked hentry), trivial,
        fun change hchange => ?_⟩
      obtain ⟨-, -, -, rfl⟩ := RegistryState.disconnectLocked_eq_some hlocked
      obtain ⟨id, -, hid⟩ := List.mem_filterMap.mp hchange
      obtain ⟨entry, -, htransition⟩ := Option.bind_eq_some_iff.mp hid
      exact changeTraced_of_transition htransition fun _ _ hnone => by cases hnone
  | displaced hlocked => exact ⟨hentries, trivial, by simp⟩
  | routable hroutable =>
      obtain ⟨hheard, hrest⟩ := hjob
      simp only [isAnnouncementRoutable, Bool.and_eq_true, decide_eq_true_eq] at hroutable
      exact ⟨hentries, ⟨hheard, hroutable.2, hroutable.1, hrest⟩, by simp⟩
  | unroutable hroutable => exact ⟨hentries, resume_traced hjob.2, by simp⟩
  | @installed linkDeviceId link device batch sequence state change hlocked =>
      obtain ⟨hheard, hloop, hshort, hrest⟩ := hjob
      have htraced := hheard.traced hloop hshort linkDeviceId sequence choice.now
      obtain ⟨-, hinstalled, -, rfl⟩ := RegistryState.announceLocked_eq_some hlocked
      refine ⟨fun id entry hentry => ?_, resume_traced hrest, fun change hchange => ?_⟩
      · rw [hinstalled] at hentry
        rcases Table.lookup_insert_cases hentry with ⟨rfl, rfl⟩ | ⟨-, hentry⟩
        · exact htraced
        · exact hentries id entry hentry
      · refine changeTraced_of_transition (Option.mem_toList.mp hchange) fun entry _ hentry => ?_
        cases hentry
        exact htraced.announceable (device.entry_formed linkDeviceId link sequence choice.now)
  | outrun hlocked => exact ⟨hentries, resume_traced hjob.2.2.2, by simp⟩
  | withdrawn hlocked =>
      refine ⟨fun id entry hentry =>
        hentries id entry (RegistryState.lookup_of_withdrawLocked hlocked hentry),
        sweep_traced _ _, fun change hchange => ?_⟩
      obtain ⟨_, -, -, -, -, rfl⟩ := RegistryState.withdrawLocked_eq_some hlocked
      exact changeTraced_of_transition (Option.mem_toList.mp hchange) fun _ _ hnone => by
        cases hnone
  | absent hlocked => exact ⟨hentries, sweep_traced _ _, by simp⟩
  | listed hperm => exact ⟨hentries, proceed_traced hjob, by simp⟩

theorem relay_step_cases {relay relay' : PublicationState} {index : Nat} {choice : JobChoice}
    (h : Publication.step relayId maxHops relay (.advance index choice) = some relay') :
    (∃ before item after tasks, relay.shared.unpublished = before ++ item :: after ∧
      (∀ job ∈ tasks, job ∈ relay.tasks) ∧
      relay' = ⟨⟨relay.shared.registry, before ++ after, relay.shared.channel ++ [item.2]⟩,
        tasks⟩) ∨
    ∃ job job' registry changes, job ∈ relay.tasks ∧
      job.step relayId maxHops relay.shared.registry choice = some (registry, job', changes) ∧
      relay' = ⟨{ relay.shared with
        registry
        unpublished := relay.shared.unpublished ++ changes.map fun change => (index, change) },
        relay.tasks.set index job'⟩ := by
  obtain ⟨job, shared, job', hjob, hadvance, rfl⟩ := poolStep_advance h
  unfold Publication.advance at hadvance
  cases hitem : relay.shared.unpublished.find? fun item => decide (item.1 = index) with
  | some item =>
      rw [hitem] at hadvance
      obtain ⟨hindex, before, after, hsplit, hbefore⟩ := List.find?_eq_some_iff_append.mp hitem
      cases hadvance
      refine .inl ⟨before, item, after, relay.tasks.set index job, hsplit,
        forall_mem_set (fun _ ht => ht) (List.mem_of_getElem? hjob), ?_⟩
      have herase : relay.shared.unpublished.eraseP (fun item => decide (item.1 = index)) =
          before ++ after := by
        rw [hsplit, List.eraseP_append_right _ (by simpa using hbefore)]
        simp [of_decide_eq_true hindex]
      rw [herase]
  | none =>
      rw [hitem] at hadvance
      obtain ⟨⟨registry, next, changes⟩, hnext, heq⟩ := Option.map_eq_some_iff.mp hadvance
      cases heq
      exact .inr ⟨job, next, registry, changes, List.mem_of_getElem? hjob, hnext, rfl⟩

theorem relayTraced_step {relay relay' : PublicationState} {index : Nat} {choice : JobChoice}
    (h : RelayTraced joined attached maxHops relayId relay)
    (hstep : Publication.step relayId maxHops relay (.advance index choice) = some relay') :
    RelayTraced joined attached maxHops relayId relay' := by
  rcases relay_step_cases hstep with ⟨before, item, after, tasks, hsplit, htasks, rfl⟩ |
    ⟨job, job', registry, changes, hjob, haction, rfl⟩
  · have hall := h.unpublished
    rw [hsplit] at hall
    have hrest : ∀ other ∈ before ++ after, ChangeTraced joined attached relayId other.2 :=
      fun other hother => hall other (by
        rcases List.mem_append.mp hother with hother | hother
        · exact List.mem_append_left _ hother
        · exact List.mem_append_right _ (List.mem_cons_of_mem _ hother))
    refine ⟨h.wellFormed, h.entries, hrest, fun change hchange => ?_,
      fun job hjob => h.tasks job (htasks job hjob)⟩
    rcases List.mem_append.mp hchange with hchange | hchange
    · exact h.channel change hchange
    · rw [List.mem_singleton.mp hchange]
      exact hall item (List.mem_append_right _ List.mem_cons_self)
  · obtain ⟨hentries, hnext, hchanges⟩ := job_step_traced h.entries (h.tasks job hjob) haction
    refine ⟨(Job.step_tableUpdate haction).wellFormed h.wellFormed, hentries, fun item hitem => ?_,
      h.channel, forall_mem_set h.tasks hnext⟩
    rcases List.mem_append.mp hitem with hitem | hitem
    · exact h.unpublished item hitem
    · obtain ⟨change, hchange, rfl⟩ := List.mem_map.mp hitem
      exact hchanges change hchange

theorem RelayTraced.spawn {relay : PublicationState} {job : Job}
    (h : RelayTraced joined attached maxHops relayId relay)
    (hjob : JobTraced joined attached maxHops relayId job) :
    RelayTraced joined attached maxHops relayId { relay with tasks := relay.tasks ++ [job] } := by
  refine ⟨h.wellFormed, h.entries, h.unpublished, h.channel, fun other hother => ?_⟩
  rcases List.mem_append.mp hother with hother | hother
  · exact h.tasks other hother
  · exact List.mem_singleton.mp hother ▸ hjob

/-- The frames of a session are about what its relay can announce. -/
theorem turn_traced {relay : PublicationState} {capacity : Nat} {upstreamRelayId : String}
    {subscription subscription' : Subscription} {frame : Option ControlFrame}
    (h : RelayTraced joined attached maxHops relayId relay)
    (hturn : subscription.turn capacity relayId upstreamRelayId relay.shared =
      some (subscription', frame)) :
    ∀ sent ∈ frame.toList, FrameTraced joined attached relayId sent := by
  cases Subscription.turn_eq_some hturn with
  | snapshot howing =>
      intro sent hsent
      rw [Option.toList_some, List.mem_singleton] at hsent
      subst hsent
      intro device hdevice
      have hoffer := h.wellFormed.mem_announcements.mp (List.mem_filter.mp hdevice).1
      obtain ⟨entry, hentry, hannounced⟩ := Option.bind_eq_some_iff.mp hoffer
      exact (h.entries _ entry hentry).announceable (h.wellFormed _ entry hentry) hannounced
  | lagged hlag => simp
  | @received change howing hchange =>
      have htraced := h.channel change (List.mem_of_getElem? hchange)
      intro sent hsent
      rw [Option.mem_toList] at hsent
      cases change with
      | offline id =>
          cases hsent
          trivial
      | online device =>
          simp only [announcementFrame, Option.ite_none_right_eq_some] at hsent
          obtain ⟨-, hframe⟩ := hsent
          cases hframe
          exact ⟨htraced.leads, htraced.simple⟩

/-- What a frame asks the upper relay to do is about what its lower end announced. -/
theorem controlFrameJob_traced {lower : String} {handle : TunnelHandle} {frame : ControlFrame}
    (hjoined : joined lower relayId handle) (h : FrameTraced joined attached lower frame) :
    JobTraced joined attached maxHops relayId (controlFrameJob handle .relay frame) := by
  cases frame with
  | announce devices => exact fun device hdevice => ⟨lower, hjoined, h device hdevice⟩
  | deviceOnline id name via =>
      refine ⟨⟨lower, hjoined, h⟩, fun rest hrest => ?_⟩
      cases hrest
  | _ => trivial

end Relay

section Invariant

variable {joined attached : String → String → TunnelHandle → Prop} {capacity maxHops : Nat}
  {mesh mesh' : Mesh} {uplink : Uplink}

theorem inv_init : Inv joined attached maxHops init where
  relays relayId :=
    { wellFormed := RegistryState.wellFormed_empty
      entries := fun id entry hentry => by
        rw [init, Publication.init, Registry.new, RegistryState.empty, AList.lookup_empty] at hentry
        cases hentry
      unpublished := fun _ h => absurd h List.not_mem_nil
      channel := fun _ h => absurd h List.not_mem_nil
      tasks := fun _ h => absurd h List.not_mem_nil }
  uplinks _ h := absurd h List.not_mem_nil

theorem Inv.setRelay (h : Inv joined attached maxHops mesh) {relayId : String}
    {relay : PublicationState} (hrelay : RelayTraced joined attached maxHops relayId relay) :
    Inv joined attached maxHops (mesh.setRelay relayId relay) := by
  refine ⟨fun other => ?_, h.uplinks⟩
  by_cases hother : other = relayId
  · subst hother
    simp only [Mesh.setRelay, Function.update_self]
    exact hrelay
  · simp only [Mesh.setRelay, Function.update_of_ne hother, h.relays other]

theorem Inv.call (h : Inv joined attached maxHops mesh) {relayId : String} {job : Job}
    (hjob : JobTraced joined attached maxHops relayId job) :
    Inv joined attached maxHops (mesh.call relayId job) :=
  h.setRelay ((h.relays relayId).spawn hjob)

theorem inv_turn (h : Inv joined attached maxHops mesh) {uplink' : Uplink}
    (hmem : uplink ∈ mesh.uplinks) (hturn : mesh.turn capacity uplink = some uplink') :
    joined uplink'.lower uplink'.upper uplink'.handle ∧
      ∀ frame ∈ uplink'.inFlight, FrameTraced joined attached uplink'.lower frame := by
  obtain ⟨hjoined, hframes⟩ := h.uplinks uplink hmem
  unfold turn at hturn
  split at hturn
  · cases hturn
    exact ⟨hjoined, hframes⟩
  · obtain ⟨⟨subscription, frame⟩, hnext, heq⟩ := Option.map_eq_some_iff.mp hturn
    cases heq
    refine ⟨hjoined, fun sent hsent => ?_⟩
    rcases List.mem_append.mp hsent with hsent | hsent
    · exact hframes sent hsent
    · exact turn_traced (h.relays uplink.lower) hnext sent hsent

theorem inv_deliver (h : Inv joined attached maxHops mesh) {link : Nat}
    (hmem : uplink ∈ mesh.uplinks) (hdeliver : mesh.deliver link uplink = some mesh') :
    Inv joined attached maxHops mesh' := by
  obtain ⟨hjoined, hframes⟩ := h.uplinks uplink hmem
  unfold deliver at hdeliver
  split at hdeliver
  · cases hdeliver
  · next frame inFlight hflight =>
      rw [hflight] at hframes
      have hrest : ∀ sent ∈ inFlight, FrameTraced joined attached uplink.lower sent :=
        fun sent hsent => hframes sent (List.mem_cons_of_mem _ hsent)
      have hjob : JobTraced joined attached maxHops uplink.upper
          (controlFrameJob uplink.handle .relay frame) :=
        controlFrameJob_traced hjoined (hframes frame List.mem_cons_self)
      split at hdeliver
      · simp only at hdeliver
        split at hdeliver
        · cases hdeliver
          exact ⟨h.relays, forall_mem_set h.uplinks ⟨hjoined, hrest⟩⟩
        · cases hdeliver
          exact ⟨(h.call hjob).relays, forall_mem_set h.uplinks ⟨hjoined, hrest⟩⟩
      · cases hdeliver

theorem inv_step {label : MeshLabel} (h : Inv joined attached maxHops mesh)
    (hrecorded : Recorded joined attached label)
    (hstep : step capacity maxHops mesh label = some mesh') :
    Inv joined attached maxHops mesh' := by
  cases label with
  | attach relayId presence =>
      obtain ⟨hkind, rfl⟩ := Option.ite_none_right_eq_some.mp hstep |>.imp_right Option.some.inj
      refine h.call ?_
      simp only [JobTraced, hkind]
      exact hrecorded
  | detach relayId deviceId serial =>
      cases hstep
      exact h.call trivial
  | act relayId index choice =>
      obtain ⟨relay, hrelay, rfl⟩ := Option.map_eq_some_iff.mp hstep
      exact h.setRelay (relayTraced_step (h.relays relayId) hrelay)
  | join lower upper presence =>
      obtain ⟨⟨-, hkind, -⟩, rfl⟩ :=
        Option.ite_none_right_eq_some.mp hstep |>.imp_right Option.some.inj
      have hcalled : Inv joined attached maxHops (mesh.call upper (.connect presence)) := by
        refine h.call ?_
        simp only [JobTraced, hkind]
        exact ⟨lower, hrecorded⟩
      refine ⟨hcalled.relays, fun uplink huplink => ?_⟩
      rcases List.mem_append.mp huplink with huplink | huplink
      · exact h.uplinks uplink huplink
      · rw [List.mem_singleton.mp huplink]
        exact ⟨hrecorded, fun _ hframe => absurd hframe List.not_mem_nil⟩
  | turn link =>
      obtain ⟨uplink', hturn, rfl⟩ := Option.map_eq_some_iff.mp hstep
      obtain ⟨uplink, huplink, hturn⟩ := Option.bind_eq_some_iff.mp hturn
      exact ⟨h.relays, forall_mem_set h.uplinks
        (inv_turn h (List.mem_of_getElem? huplink) hturn)⟩
  | deliver link =>
      obtain ⟨uplink, huplink, hdeliver⟩ := Option.bind_eq_some_iff.mp hstep
      exact inv_deliver h (List.mem_of_getElem? huplink) hdeliver
  | lose link =>
      cases hstep
      exact ⟨h.relays, fun uplink huplink => h.uplinks uplink (List.mem_of_mem_eraseIdx huplink)⟩

end Invariant

/-- In every run of the mesh, a destination in a relay's table is where its route leads: over links
that were made, to a relay where the device's own tunnel came up. The route passes no relay twice
and leaves room for the hop a stream adds. -/
theorem leads_of_entry (capacity maxHops : Nat) (labels : List MeshLabel) (mesh : Mesh)
    (hrun : run (step capacity maxHops) init labels = some mesh) (relayId deviceId : String)
    (entry : Entry) (hentry : (mesh.relays relayId).shared.registry.state.entries.lookup deviceId =
      some entry) (hdestination : entry.device.kind = .desktop) :
    Leads (Joined labels) (Attached labels) deviceId relayId entry.device.route ∧
      (relayId :: entry.device.route.hops).Nodup ∧
      ∀ link hops, entry.device.route = .via link hops → hops.length < maxHops := by
  have hrecorded : ∀ label ∈ labels, Recorded (Joined labels) (Attached labels) label := by
    intro label hlabel
    cases label with
    | attach relayId presence => exact ⟨presence, hlabel, rfl, rfl⟩
    | join lower upper presence => exact ⟨presence, hlabel, rfl⟩
    | _ => trivial
  have hinv : Inv (Joined labels) (Attached labels) maxHops mesh :=
    run_invariant (fun _ _ _ hs hlabel hstep => inv_step hs hlabel.2 hstep) inv_init
      ((meets_true init labels).and_forall hrecorded) hrun
  have htraced := (hinv.relays relayId).entries deviceId entry hentry
  exact ⟨htraced.leads hdestination, htraced.simple, htraced.short⟩

def linkPresence (lower : String) (channel : Nat) : DirectPresence :=
  ⟨"link-" ++ lower, lower, .relay, some lower, none, none, ⟨"link-" ++ lower, channel⟩⟩

def acts (relayId : String) (index count : Nat) : List MeshLabel :=
  List.replicate count (.act relayId index Publication.plainChoice)

def announceOverTwo : List MeshLabel :=
  [.attach "relay-a" (Publication.desktopPresence 0)] ++ acts "relay-a" 0 3 ++
  [.join "relay-a" "relay-b" (linkPresence "relay-a" 0)] ++ acts "relay-b" 0 2 ++
  [.join "relay-b" "relay-c" (linkPresence "relay-b" 0)] ++ acts "relay-c" 0 2 ++
  [.turn 1, .turn 1, .deliver 1] ++ acts "relay-c" 1 1 ++
  [.turn 0, .turn 0, .deliver 0] ++ acts "relay-b" 1 4 ++
  [.turn 1, .deliver 1] ++ acts "relay-c" 2 2

theorem leads_of_entry_announceOverTwo :
    ∃ mesh entry, run (step 256 8) init announceOverTwo = some mesh ∧
      (mesh.relays "relay-c").shared.registry.state.entries.lookup "device-a" = some entry ∧
      entry.device.route.hops = ["relay-b", "relay-a"] ∧
      Leads (Joined announceOverTwo) (Attached announceOverTwo) "device-a" "relay-c"
        entry.device.route := by
  obtain ⟨mesh, hrun, hmesh⟩ := exists_run (step 256 8) init announceOverTwo
    (fun mesh => ((mesh.relays "relay-c").shared.registry.state.entries.lookup "device-a").any
      fun entry => decide (entry.device.kind = .desktop ∧
        entry.device.route.hops = ["relay-b", "relay-a"])) (by decide)
  obtain ⟨entry, hentry, hkind⟩ := (Option.any_eq_true _ _).mp hmesh
  obtain ⟨hdestination, hhops⟩ := of_decide_eq_true hkind
  exact ⟨mesh, entry, hrun, hentry, hhops, (leads_of_entry 256 8 announceOverTwo mesh hrun "relay-c"
    "device-a" entry hentry hdestination).1⟩

end Mesh

end TermexoRelay
