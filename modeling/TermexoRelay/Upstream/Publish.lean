import TermexoRelay.Relay.AddressLists
import TermexoRelay.Upstream.Addresses

/-!
# Telling the devices their addresses

A device is told its addresses in its `welcome`, before its tunnel is registered, and again whenever
the chain above the relay changes: every registered direct tunnel of a snapshot is sent the list as
it is when its turn comes. Any number of these calls may overlap with each other, with handshakes
and with everything else the relay does.
-/

namespace TermexoRelay

open Transition

/-- A relay with what its devices' addresses are made of. `welcomed` records the list each tunnel
was welcomed with. -/
structure AddressedRelay where
  system : System
  addressing : DeviceAddressing
  reach : UpstreamReach
  welcomed : Nat → List RelayAddress

/-- A change of the reach and the `publish_addresses` after it, or such a call alone. -/
inductive AddressTask where
  | finished
  /-- `set_reach` is next: a session comes up or goes down, or its upstream sent a list. -/
  | reaching (reach : UpstreamReach)
  /-- The snapshot of the registry is next. -/
  | publishing
  | addressing (remaining : List OnlineDevice)
  | sending (handle : TunnelHandle) (addresses : List RelayAddress)
      (remaining : List OnlineDevice)
deriving DecidableEq

namespace AddressedRelay

variable (config : RelayConfig) (relay : AddressedRelay)

def deviceAddresses (deviceId : String) : List RelayAddress :=
  AddressState.deviceAddresses ⟨config.relayId, relay.addressing, relay.reach⟩ deviceId

/-- `Registry::snapshot`, in the order of the table. -/
def snapshot : List OnlineDevice :=
  relay.system.shared.registry.state.entries.rows.map Entry.device

def lists (handle : TunnelHandle) : List (List RelayAddress) :=
  relay.welcomed handle.channel ::
    (relay.system.shared.channels[handle.channel]?.map Channel.lists).getD []

def lastAddresses (handle : TunnelHandle) : List RelayAddress :=
  (relay.lists handle).getLast (List.cons_ne_nil _ _)

/-- `TunnelHandle::send_frame` of an `addresses` frame. -/
def sendAddresses (handle : TunnelHandle) (addresses : List RelayAddress) : AddressedRelay :=
  { relay with
    system := { relay.system with
      shared := relay.system.shared.sendFrame handle (.addresses addresses) } }

/-- The tunnel whose `welcome` an action of the relay sends. -/
def welcomes (s s' : System) : SystemLabel → Option TunnelHandle
  | .advance index _ =>
      match s.tasks[index]?, s'.tasks[index]? with
      | some (.session (.upgraded _)), some (.session (.accepted tunnel)) => some tunnel.handle
      | _, _ => none
  | _ => none

def event (label : SystemLabel) : Option AddressedRelay :=
  if label.queuesAddresses then none
  else
    (System.step config relay.system label).map fun system =>
      { relay with
        system
        welcomed := match welcomes relay.system system label with
          | some handle =>
              Function.update relay.welcomed handle.channel
                (relay.deviceAddresses config handle.deviceId)
          | none => relay.welcomed }

end AddressedRelay

namespace AddressTask

def starts : AddressTask → Bool
  | reaching _ => true
  | publishing => true
  | _ => false

def isFinished : AddressTask → Bool
  | finished => true
  | _ => false

/-- One action; `order` is the order in which the hash map lists its devices. -/
def step (config : RelayConfig) (relay : AddressedRelay) (order : List OnlineDevice) :
    AddressTask → Option (AddressedRelay × AddressTask)
  | finished => none
  | reaching reach => some ({ relay with reach }, .publishing)
  | publishing => if order.Perm relay.snapshot then some (relay, .addressing order) else none
  | addressing [] => some (relay, .finished)
  | addressing (device :: remaining) =>
      match device.route with
      | .direct handle =>
          some (relay, .sending handle (relay.deviceAddresses config device.deviceId) remaining)
      | .via _ _ => some (relay, .addressing remaining)
  | sending handle addresses remaining =>
      some (relay.sendAddresses handle addresses, .addressing remaining)

end AddressTask

abbrev Telling := Pool AddressedRelay AddressTask
abbrev TellingLabel := PoolLabel AddressTask (List OnlineDevice) SystemLabel

namespace Telling

def step (config : RelayConfig) : Telling → TellingLabel → Option Telling :=
  poolStep (fun _ task => task.starts) (fun _ relay task order => task.step config relay order)
    (AddressedRelay.event config)

def init (addressing : DeviceAddressing) (database : Database) : Telling :=
  ⟨⟨System.init database, addressing, .default, fun _ => []⟩, []⟩

/-- The tunnel is the registered one of its device, and its writer has not ended. -/
def live (relay : AddressedRelay) (handle : TunnelHandle) : Bool :=
  decide (relay.system.shared.registry.state.route handle.deviceId = some (.direct handle)) &&
    relay.system.shared.channels[handle.channel]?.any Channel.writing

def HasTunnel (s : System) (handle : TunnelHandle) : Prop :=
  ∃ session tunnel, .session session ∈ s.tasks ∧ session.tunnel = some tunnel ∧
    tunnel.handle = handle

/-- What a snapshot says of a direct tunnel. -/
def DeviceSound (s : System) (device : OnlineDevice) : Prop :=
  ∀ handle, device.route = .direct handle →
    device.deviceId = handle.deviceId ∧ HasTunnel s handle

def TaskSound (s : System) : AddressTask → Prop
  | .addressing remaining => ∀ device ∈ remaining, DeviceSound s device
  | .sending handle _ remaining => HasTunnel s handle ∧ ∀ device ∈ remaining, DeviceSound s device
  | _ => True

section Tunnels

variable {config : RelayConfig} {s s' : System} {label : SystemLabel} {handle : TunnelHandle}

theorem HasTunnel.step (h : HasTunnel s handle) (hstep : System.StepCases config s label s') :
    HasTunnel s' handle := by
  obtain ⟨session, tunnel, hsession, htunnel, rfl⟩ := h
  obtain ⟨session', hsession', htunnel'⟩ := exists_tunnel_step hstep ⟨session, hsession, htunnel⟩
  exact ⟨session', tunnel, hsession', htunnel', rfl⟩

theorem HasTunnel.channel_lt (h : HasTunnel s handle) (hinv : TunnelsInv config s) :
    handle.channel < s.shared.channels.length := by
  obtain ⟨session, tunnel, hsession, htunnel, rfl⟩ := h
  exact ((hinv.sound session hsession).handle tunnel htunnel).2

theorem HasTunnel.eq_of_channel {handle' : TunnelHandle} (h : HasTunnel s handle)
    (h' : HasTunnel s handle') (hinv : TunnelsInv config s)
    (hchannel : handle.channel = handle'.channel) : handle = handle' := by
  obtain ⟨session, tunnel, hsession, htunnel, rfl⟩ := h
  obtain ⟨session', tunnel', hsession', htunnel', rfl⟩ := h'
  rw [hinv.tunnel_unique hsession hsession' htunnel htunnel' hchannel]

theorem hasTunnel_of_direct (hinv : TunnelsInv config s) (hroutes : RouteOwned s)
    {deviceId : String} (hroute : s.shared.registry.state.route deviceId = some (.direct handle)) :
    deviceId = handle.deviceId ∧ HasTunnel s handle := by
  obtain ⟨session, tunnel, hsession, htunnel, hhandle, hdevice⟩ := hroutes deviceId _ hroute
  have hid : tunnel.handle.deviceId = tunnel.deviceId :=
    ((hinv.sound session hsession).handle tunnel htunnel).1
  rw [hhandle, hdevice rfl] at hid
  exact ⟨hid.symm, session, tunnel, hsession, htunnel, hhandle⟩

theorem mem_snapshot {relay : AddressedRelay} {device : OnlineDevice} :
    device ∈ relay.snapshot ↔ ∃ deviceId entry,
      relay.system.shared.registry.state.entries.lookup deviceId = some entry ∧
        entry.device = device := by
  simp only [AddressedRelay.snapshot, List.mem_map, Table.mem_rows]
  constructor
  · rintro ⟨entry, ⟨deviceId, hentry⟩, hdevice⟩
    exact ⟨deviceId, entry, hentry, hdevice⟩
  · rintro ⟨deviceId, entry, hentry, hdevice⟩
    exact ⟨entry, ⟨deviceId, hentry⟩, hdevice⟩

theorem deviceSound_of_mem_snapshot {relay : AddressedRelay}
    (hinv : TunnelsInv config relay.system) (hroutes : RouteOwned relay.system)
    {device : OnlineDevice} (h : device ∈ relay.snapshot) : DeviceSound relay.system device := by
  intro handle hdirect
  obtain ⟨deviceId, entry, hentry, rfl⟩ := mem_snapshot.mp h
  have hroute : relay.system.shared.registry.state.route deviceId = some (.direct handle) := by
    rw [RegistryState.route, hentry, Option.map_some, hdirect]
  rw [(hinv.wellFormed deviceId entry hentry).named]
  exact hasTunnel_of_direct hinv hroutes hroute

end Tunnels

section Lists

variable {config : RelayConfig} {relay relay' : AddressedRelay} {label : SystemLabel}
  {handle : TunnelHandle}

theorem welcomes_cases {s s' : System} (h : System.StepCases config s label s')
    (hwelcomes : AddressedRelay.welcomes s s' label = some handle) :
    handle.channel = s.shared.channels.length ∧
      s'.shared.channels = s.shared.channels ++ [Channel.new] := by
  unfold AddressedRelay.welcomes at hwelcomes
  split at hwelcomes
  · split at hwelcomes
    · next peer tunnel hbefore hafter =>
        rw [Option.some.injEq] at hwelcomes
        subst hwelcomes
        cases h with
        | session htask hstep =>
            rw [htask, Option.some.injEq, Task.session.injEq] at hbefore
            subst hbefore
            rw [List.getElem?_set_self (List.getElem?_eq_some_iff.mp htask).1, Option.some.injEq,
              Task.session.injEq] at hafter
            subst hafter
            cases hstep
            exact ⟨rfl, rfl⟩
        | request htask _ =>
            rw [htask] at hbefore
            cases hbefore
    · cases hwelcomes
  · cases hwelcomes

theorem hasTunnel_cases {s s' : System} (h : System.StepCases config s label s')
    (htunnel : HasTunnel s' handle) :
    HasTunnel s handle ∨ AddressedRelay.welcomes s s' label = some handle := by
  obtain ⟨session, tunnel, hsession, htunnel, rfl⟩ := htunnel
  have hold : .session session ∈ s.tasks → HasTunnel s tunnel.handle :=
    fun hmem => ⟨session, tunnel, hmem, htunnel, rfl⟩
  cases h with
  | spawn hstarts =>
      rcases List.mem_append.mp hsession with hmem | hnew
      · exact .inl (hold hmem)
      · rw [← List.mem_singleton.mp hnew] at hstarts
        cases session with
        | arriving => cases htunnel
        | _ => cases hstarts
  | request htask hstep =>
      rcases List.mem_or_eq_of_mem_set hsession with hmem | hnew
      · exact .inl (hold hmem)
      · cases hnew
  | channel _ => exact .inl (hold hsession)
  | @session index choice before after relay htask hstep =>
      rcases List.mem_or_eq_of_mem_set hsession with hmem | hnew
      · exact .inl (hold hmem)
      · cases hnew
        rcases hstep.tunnel_cases htunnel with hkept | ⟨peer, rfl, rfl⟩
        · exact .inl ⟨before, tunnel, List.mem_of_getElem? htask, hkept, rfl⟩
        · refine .inr ?_
          simp only [AddressedRelay.welcomes, htask,
            List.getElem?_set_self (List.getElem?_eq_some_iff.mp htask).1]

theorem lastAddresses_event (hinv : TunnelsInv config relay.system)
    (hevent : relay.event config label = some relay') (htunnel : HasTunnel relay.system handle) :
    relay'.lastAddresses handle = relay.lastAddresses handle ∧
      (relay'.system.shared.channels[handle.channel]?.any Channel.writing = true →
        relay.system.shared.channels[handle.channel]?.any Channel.writing = true) := by
  unfold AddressedRelay.event at hevent
  split at hevent
  · cases hevent
  · next hlabel =>
      obtain ⟨system, hstep, rfl⟩ := Option.map_eq_some_iff.mp hevent
      have hcases := System.step_eq_some hstep
      have hlt := htunnel.channel_lt hinv
      obtain ⟨channel, hchannel⟩ : ∃ channel,
          relay.system.shared.channels[handle.channel]? = some channel :=
        ⟨_, List.getElem?_eq_getElem hlt⟩
      obtain ⟨channel', hchannel', hfollows⟩ :=
        hcases.keepsLists (Bool.eq_false_iff.mpr hlabel) handle.channel channel hchannel
      refine ⟨?_, ?_⟩
      · simp only [AddressedRelay.lastAddresses, AddressedRelay.lists, hchannel, hchannel',
          Option.map_some, Option.getD_some, hfollows.lists]
        congr 2
        cases hwelcomes : AddressedRelay.welcomes relay.system system label with
        | none => rfl
        | some welcomed =>
            refine Function.update_of_ne ?_ _ _
            rw [(welcomes_cases hcases hwelcomes).1]
            exact Nat.ne_of_lt hlt
      · simp only [hchannel, hchannel', Option.any_some]
        exact hfollows.writing

theorem lastAddresses_welcomed (hevent : relay.event config label = some relay')
    (hwelcomes : AddressedRelay.welcomes relay.system relay'.system label = some handle) :
    relay'.lastAddresses handle = relay.deviceAddresses config handle.deviceId := by
  unfold AddressedRelay.event at hevent
  split at hevent
  · cases hevent
  · obtain ⟨system, hstep, rfl⟩ := Option.map_eq_some_iff.mp hevent
    obtain ⟨hchannel, hchannels⟩ := welcomes_cases (System.step_eq_some hstep) hwelcomes
    simp only at hwelcomes
    simp only [AddressedRelay.lastAddresses, AddressedRelay.lists, hwelcomes, hchannels, hchannel,
      List.getElem?_concat_length, Option.map_some, Option.getD_some, Function.update_self]
    rfl

theorem live_iff : live relay handle = true ↔
    relay.system.shared.registry.state.route handle.deviceId = some (.direct handle) ∧
      relay.system.shared.channels[handle.channel]?.any Channel.writing = true := by
  rw [live, Bool.and_eq_true, decide_eq_true_eq]

theorem event_eq_some (h : relay.event config label = some relay') :
    ∃ system welcomed, System.StepCases config relay.system label system ∧
      relay' = { relay with system, welcomed } := by
  unfold AddressedRelay.event at h
  split at h
  · cases h
  · obtain ⟨system, hstep, rfl⟩ := Option.map_eq_some_iff.mp h
    exact ⟨system, _, System.step_eq_some hstep, rfl⟩

theorem TaskSound.mono {s s' : System} {task : AddressTask}
    (hmono : ∀ handle, HasTunnel s handle → HasTunnel s' handle) (h : TaskSound s task) :
    TaskSound s' task := by
  have hdevice : ∀ device, DeviceSound s device → DeviceSound s' device :=
    fun device hdevice handle hdirect =>
      ⟨(hdevice handle hdirect).1, hmono handle (hdevice handle hdirect).2⟩
  cases task with
  | addressing remaining => exact fun device hmem => hdevice device (h device hmem)
  | sending target addresses remaining =>
      exact ⟨hmono target h.1, fun device hmem => hdevice device (h.2 device hmem)⟩
  | _ => trivial

theorem lastAddresses_sendAddresses_of_ne {target : TunnelHandle} (addresses : List RelayAddress)
    (hne : target.channel ≠ handle.channel) :
    (relay.sendAddresses target addresses).lastAddresses handle = relay.lastAddresses handle := by
  have hsame : (relay.sendAddresses target addresses).system.shared.channels[handle.channel]? =
      relay.system.shared.channels[handle.channel]? :=
    (Relay.getElem?_trySend target _ relay.system.shared handle.channel).trans (if_neg hne)
  simp only [AddressedRelay.lastAddresses, AddressedRelay.lists, hsame]
  rfl

theorem lastAddresses_sendAddresses (addresses : List RelayAddress) :
    (relay.sendAddresses handle addresses).lastAddresses handle =
      if relay.system.shared.accepts handle then addresses else relay.lastAddresses handle := by
  have hsent : (relay.sendAddresses handle addresses).system.shared.channels[handle.channel]? =
      relay.system.shared.channels[handle.channel]?.map
        (Channel.trySend (.control (.addresses addresses))) :=
    (Relay.getElem?_trySend handle _ relay.system.shared handle.channel).trans (if_pos rfl)
  cases hchannel : relay.system.shared.channels[handle.channel]? with
  | none =>
      simp only [AddressedRelay.lastAddresses, AddressedRelay.lists, hsent, hchannel,
        Relay.accepts, Option.map_none, Option.any_none, Bool.false_eq_true, if_false]
      rfl
  | some channel =>
      simp only [AddressedRelay.lastAddresses, AddressedRelay.lists, hsent, hchannel,
        Relay.accepts, Option.map_some, Option.any_some, Option.getD_some]
      split
      · next haccepts =>
          simp only [Channel.lists_trySend_addresses haccepts]
          rw [List.getLast_cons (List.append_ne_nil_of_right_ne_nil _ (List.cons_ne_nil _ _))]
          exact List.getLast_concat
      · next haccepts =>
          simp only [Channel.trySend, haccepts]
          rfl

theorem writing_sendAddresses {target : TunnelHandle} (addresses : List RelayAddress)
    (h : (relay.sendAddresses target addresses).system.shared.channels[handle.channel]?.any
      Channel.writing = true) :
    relay.system.shared.channels[handle.channel]?.any Channel.writing = true := by
  have hsent := Relay.getElem?_trySend target (.control (.addresses addresses))
    relay.system.shared handle.channel
  have hwriting : ∀ channel : Channel,
      (channel.trySend (.control (.addresses addresses))).writing = channel.writing := by
    intro channel
    unfold Channel.trySend
    split <;> rfl
  change ((relay.system.shared.trySend target
    (.control (.addresses addresses))).channels[handle.channel]?).any Channel.writing = true at h
  rw [hsent] at h
  cases hchannel : relay.system.shared.channels[handle.channel]? with
  | none =>
      rw [hchannel] at h
      split at h <;> cases h
  | some channel =>
      rw [hchannel] at h
      split at h
      · exact (hwriting channel).symm.trans h
      · exact h

end Lists

/-! ## What is out of date -/

end Telling

/-- The relay together with what it does not keep: how often its reach has changed, and how often it
had when each call took its last action, which for one about to send a list is when the list was
made, and when the last list each tunnel was told was made. -/
structure TimedTelling where
  telling : Telling
  changes : Nat
  made : Nat → Nat
  told : Nat → Nat

namespace TimedTelling

open Telling

def init (addressing : DeviceAddressing) (database : Database) : TimedTelling :=
  ⟨Telling.init addressing database, 0, fun _ => 0, fun _ => 0⟩

def step (config : RelayConfig) (s : TimedTelling) (label : TellingLabel) : Option TimedTelling :=
  (Telling.step config s.telling label).map fun telling =>
    { telling
      changes := if telling.shared.reach = s.telling.shared.reach then s.changes else s.changes + 1
      made :=
        match label with
        | .advance index _ => Function.update s.made index s.changes
        | _ => s.made
      told :=
        match label with
        | .spawn _ => s.told
        | .advance index _ =>
            match s.telling.tasks[index]? with
            | some (.sending handle _ _) =>
                if s.telling.shared.system.shared.accepts handle then
                  Function.update s.told handle.channel (s.made index)
                else s.told
            | _ => s.told
        | .environment label =>
            match AddressedRelay.welcomes s.telling.shared.system telling.shared.system label with
            | some handle => Function.update s.told handle.channel s.changes
            | none => s.told }

/-- Task `index` will still make a list for the tunnel, or send it one that was made since the last
change of the reach. -/
def covers (s : TimedTelling) (handle : TunnelHandle) (index : Nat) : AddressTask → Bool
  | .finished => false
  | .reaching _ => true
  | .publishing => true
  | .addressing remaining => remaining.any fun device => decide (device.route = .direct handle)
  | .sending target _ remaining =>
      decide (target = handle ∧ s.made index = s.changes) ||
        remaining.any fun device => decide (device.route = .direct handle)

/-- Another call than `index` does. -/
def coveredBesides (s : TimedTelling) (handle : TunnelHandle) (index : Nat) : Bool :=
  (List.range s.telling.tasks.length).any fun other =>
    decide (other ≠ index) && s.telling.tasks[other]?.any (s.covers handle other)

/-- When a list is sent on a tunnel in use, the reach has not changed since it was made and it finds
room in the queue, or it finds none and the reach has not changed since the last list that did was
made, or another call is to send one. -/
def sendsInTime (s : TimedTelling) (index : Nat) : AddressTask → Bool
  | .sending handle _ _ =>
      !live s.telling.shared handle ||
        decide ((if s.telling.shared.system.shared.accepts handle then s.made index
          else s.told handle.channel) = s.changes) ||
        s.coveredBesides handle index
  | _ => true

/-- When a tunnel is registered, the reach has not changed since its `welcome`, or a call has still
to take its snapshot. -/
def registersInTime (s : TimedTelling) : Task → Bool
  | .session (.numbered tunnel _) =>
      decide (s.told tunnel.handle.channel = s.changes) || s.telling.tasks.any AddressTask.starts
  | _ => true

def InTime (s : TimedTelling) : TellingLabel → Prop
  | .spawn _ => True
  | .advance index _ => s.telling.tasks[index]?.all (s.sendsInTime index) = true
  | .environment (.advance index _) =>
      s.telling.shared.system.tasks[index]?.all s.registersInTime = true
  | .environment _ => True

instance (s : TimedTelling) : ∀ label, Decidable (s.InTime label)
  | .spawn _ => .isTrue trivial
  | .advance index _ => inferInstanceAs (Decidable (s.telling.tasks[index]?.all _ = true))
  | .environment (.advance index _) =>
      inferInstanceAs (Decidable (s.telling.shared.system.tasks[index]?.all _ = true))
  | .environment (.spawn _) => .isTrue trivial
  | .environment (.environment _) => .isTrue trivial

def Covered (s : TimedTelling) (handle : TunnelHandle) : Prop :=
  ∃ index task, s.telling.tasks[index]? = some task ∧ s.covers handle index task = true

/-- The tunnels and the snapshots are sound, what was made or told since the last change of the
reach is current, and every tunnel in use was told such a list last or is to be told one. -/
structure Inv (config : RelayConfig) (s : TimedTelling) : Prop where
  tunnels : TunnelsInv config s.telling.shared.system
  routes : RouteOwned s.telling.shared.system
  sound : ∀ task ∈ s.telling.tasks, TaskSound s.telling.shared.system task
  made_le : ∀ index, s.made index ≤ s.changes
  told_le : ∀ channel, s.told channel ≤ s.changes
  made : ∀ index target addresses remaining,
    s.telling.tasks[index]? = some (.sending target addresses remaining) →
    s.made index = s.changes →
    addresses = s.telling.shared.deviceAddresses config target.deviceId
  told : ∀ handle, HasTunnel s.telling.shared.system handle →
    s.told handle.channel = s.changes →
    s.telling.shared.lastAddresses handle =
      s.telling.shared.deviceAddresses config handle.deviceId
  current : ∀ handle, live s.telling.shared handle = true →
    s.told handle.channel = s.changes ∨ s.Covered handle

section Steps

variable {config : RelayConfig} {s s' : TimedTelling} {label : TellingLabel}
  {handle : TunnelHandle} {index : Nat}

theorem map_telling_step (config : RelayConfig) (s : TimedTelling) (label : TellingLabel) :
    (s.step config label).map telling = Telling.step config s.telling label := by
  unfold step
  cases Telling.step config s.telling label with
  | none => rfl
  | some telling => rfl

theorem covered_of_besides (h : s.coveredBesides handle index = true) :
    ∃ other task, other ≠ index ∧ s.telling.tasks[other]? = some task ∧
      s.covers handle other task = true := by
  obtain ⟨other, -, hother⟩ := List.any_eq_true.mp h
  rw [Bool.and_eq_true, decide_eq_true_eq] at hother
  obtain ⟨task, htask, hcovers⟩ := (Option.any_eq_true _ _).mp hother.2
  exact ⟨other, task, hother.1, htask, hcovers⟩

/-- A route an action of the relay has just made leads over the tunnel of a session that registers,
which was told its device's addresses in time or will be told. -/
theorem current_event {event : SystemLabel} {system : System} (hs : s.Inv config)
    (hok : s.InTime (.environment event))
    (hstep : System.StepCases config s.telling.shared.system event system)
    (hroute : system.shared.registry.state.route handle.deviceId = some (.direct handle)) :
    HasTunnel s.telling.shared.system handle ∧
      (s.telling.shared.system.shared.channels[handle.channel]?.any Channel.writing = true →
        s.told handle.channel = s.changes ∨ s.Covered handle) := by
  have hold : s.telling.shared.system.shared.registry.state.route handle.deviceId =
      some (.direct handle) → HasTunnel s.telling.shared.system handle ∧
      (s.telling.shared.system.shared.channels[handle.channel]?.any Channel.writing = true →
        s.told handle.channel = s.changes ∨ s.Covered handle) := fun hroute =>
    ⟨(hasTunnel_of_direct hs.tunnels hs.routes hroute).2,
      fun hwriting => hs.current handle (live_iff.mpr ⟨hroute, hwriting⟩)⟩
  cases hstep with
  | spawn _ => exact hold hroute
  | request _ h => exact hold (h.registry_eq ▸ hroute)
  | channel h => exact hold ((Relay.channelStep_eq_some h).2.1 ▸ hroute)
  | session htask h =>
      have hsound := hs.tunnels.sound _ (List.mem_of_getElem? htask)
      rcases h.route_cases hsound hroute with hsame | ⟨tunnel, htunnel, hlink, hdirect⟩
      · exact hold hsame
      · obtain ⟨hid, serial, rfl⟩ := hdirect rfl
        cases htunnel
        cases hlink
        refine ⟨⟨_, tunnel, List.mem_of_getElem? htask, rfl, rfl⟩, fun _ => ?_⟩
        simp only [InTime, htask, Option.all_some, registersInTime, Bool.or_eq_true,
          decide_eq_true_eq, List.any_eq_true] at hok
        refine hok.imp_right fun ⟨task, hmem, hstarts⟩ => ?_
        obtain ⟨other, hother⟩ := List.mem_iff_getElem?.mp hmem
        refine ⟨other, task, hother, ?_⟩
        cases task with
        | reaching _ => rfl
        | publishing => rfl
        | _ => cases hstarts

theorem inv_event {event : SystemLabel} (hs : s.Inv config)
    (hok : s.InTime (.environment event)) (h : s.step config (.environment event) = some s') :
    s'.Inv config := by
  obtain ⟨telling, htelling, rfl⟩ := Option.map_eq_some_iff.mp h
  obtain ⟨relay', hevent, rfl⟩ := poolStep_environment htelling
  obtain ⟨system, welcomed, hcases, rfl⟩ := event_eq_some hevent
  have hmono : ∀ handle, HasTunnel s.telling.shared.system handle → HasTunnel system handle :=
    fun _ htunnel => htunnel.step hcases
  have hkept : ∀ handle, HasTunnel s.telling.shared.system handle → ∀ welcomed,
      AddressedRelay.welcomes s.telling.shared.system system event = some welcomed →
      handle.channel ≠ welcomed.channel := by
    intro handle htunnel welcomed hwelcomes
    rw [(welcomes_cases hcases hwelcomes).1]
    exact Nat.ne_of_lt (htunnel.channel_lt hs.tunnels)
  have hlast : ∀ handle, HasTunnel s.telling.shared.system handle →
      (match AddressedRelay.welcomes s.telling.shared.system system event with
        | some welcomed => Function.update s.told welcomed.channel s.changes
        | none => s.told) handle.channel = s.told handle.channel := by
    intro handle htunnel
    cases hwelcomes : AddressedRelay.welcomes s.telling.shared.system system event with
    | none => rfl
    | some welcomed => exact Function.update_of_ne (hkept handle htunnel welcomed hwelcomes) ..
  simp only [if_true]
  refine ⟨tunnelsInv_step hcases hs.tunnels, routeOwned_step hs.tunnels hs.routes hcases,
    fun task htask => (hs.sound task htask).mono hmono, hs.made_le, ?_, hs.made, ?_, ?_⟩
  · intro channel
    cases AddressedRelay.welcomes s.telling.shared.system system event with
    | none => exact hs.told_le channel
    | some welcomed =>
        by_cases hchannel : channel = welcomed.channel
        · simp [hchannel]
        · simpa [hchannel] using hs.told_le channel
  · intro handle htunnel htold
    rcases hasTunnel_cases hcases htunnel with hold | hwelcomed
    · simp only [hlast handle hold] at htold
      exact (lastAddresses_event hs.tunnels hevent hold).1.trans (hs.told handle hold htold)
    · have hwelcome := lastAddresses_welcomed hevent hwelcomed
      exact hwelcome
  · intro handle hlive
    obtain ⟨hroute, hwriting⟩ := live_iff.mp hlive
    obtain ⟨htunnel, hcurrent⟩ := current_event hs hok hcases hroute
    simp only [hlast handle htunnel]
    exact hcurrent ((lastAddresses_event hs.tunnels hevent htunnel).2 hwriting)

theorem Covered.set {relay : AddressedRelay} {task task' : AddressTask} {told : Nat → Nat}
    (h : s.Covered handle) (htask : s.telling.tasks[index]? = some task)
    (hmove : s.covers handle index task = true →
      covers ⟨⟨relay, s.telling.tasks.set index task'⟩, s.changes,
        Function.update s.made index s.changes, told⟩ handle index task' = true) :
    Covered ⟨⟨relay, s.telling.tasks.set index task'⟩, s.changes,
      Function.update s.made index s.changes, told⟩ handle := by
  obtain ⟨other, task₀, hother, hcovers⟩ := h
  by_cases hindex : other = index
  · subst hindex
    obtain rfl : task = task₀ := Option.some.inj (htask.symm.trans hother)
    exact ⟨other, task', List.getElem?_set_self (List.getElem?_eq_some_iff.mp htask).1,
      hmove hcovers⟩
  · refine ⟨other, task₀, (List.getElem?_set_ne (Ne.symm hindex)).trans hother, ?_⟩
    cases task₀ with
    | sending target addresses remaining => simpa [covers, hindex] using hcovers
    | _ => exact hcovers

theorem Inv.made_set (hs : s.Inv config) {task' : AddressTask}
    (hnew : ∀ target addresses remaining, task' = .sending target addresses remaining →
      addresses = s.telling.shared.deviceAddresses config target.deviceId)
    {other : Nat} {target : TunnelHandle} {addresses : List RelayAddress}
    {remaining : List OnlineDevice}
    (hother : (s.telling.tasks.set index task')[other]? =
      some (.sending target addresses remaining))
    (hmade : Function.update s.made index s.changes other = s.changes) :
    addresses = s.telling.shared.deviceAddresses config target.deviceId := by
  rcases getElem?_set_cases hother with ⟨-, hsame⟩ | ⟨hindex, hkept⟩
  · exact hnew target addresses remaining hsame.symm
  · rw [Function.update_of_ne hindex] at hmade
    exact hs.made other target addresses remaining hkept hmade

theorem Inv.made_le_update (hs : s.Inv config) (other : Nat) :
    Function.update s.made index s.changes other ≤ s.changes := by
  by_cases hindex : other = index
  · simp [hindex]
  · simpa [hindex] using hs.made_le other

theorem Inv.move (hs : s.Inv config) {task task' : AddressTask}
    (htask : s.telling.tasks[index]? = some task)
    (hsound : TaskSound s.telling.shared.system task')
    (hnew : ∀ target addresses remaining, task' = .sending target addresses remaining →
      addresses = s.telling.shared.deviceAddresses config target.deviceId)
    (hmove : ∀ handle, live s.telling.shared handle = true → s.covers handle index task = true →
      covers ⟨⟨s.telling.shared, s.telling.tasks.set index task'⟩, s.changes,
        Function.update s.made index s.changes, s.told⟩ handle index task' = true) :
    Inv config ⟨⟨s.telling.shared, s.telling.tasks.set index task'⟩, s.changes,
      Function.update s.made index s.changes, s.told⟩ where
  tunnels := hs.tunnels
  routes := hs.routes
  sound := forall_mem_set hs.sound hsound
  made_le := hs.made_le_update
  told_le := hs.told_le
  made _ _ _ _ hother hmade := hs.made_set hnew hother hmade
  told := hs.told
  current handle hlive :=
    (hs.current handle hlive).imp_right fun hcovered => hcovered.set htask (hmove handle hlive)

/-- A list that is sent in time is the current one, leaves the last one current, or is followed by
another one. -/
theorem inv_sending {target : TunnelHandle} {addresses : List RelayAddress}
    {remaining : List OnlineDevice} (hs : s.Inv config)
    (htask : s.telling.tasks[index]? = some (.sending target addresses remaining))
    (hok : s.sendsInTime index (.sending target addresses remaining) = true) :
    Inv config ⟨⟨s.telling.shared.sendAddresses target addresses,
      s.telling.tasks.set index (.addressing remaining)⟩, s.changes,
      Function.update s.made index s.changes,
      if s.telling.shared.system.shared.accepts target then
        Function.update s.told target.channel (s.made index) else s.told⟩ := by
  have hcases : System.StepCases config s.telling.shared.system
      (.environment (.queue target.channel (.addresses addresses)))
      ⟨s.telling.shared.system.shared.sendFrame target (.addresses addresses),
        s.telling.shared.system.tasks⟩ :=
    .channel rfl
  obtain ⟨htarget, hremaining⟩ := hs.sound _ (List.mem_of_getElem? htask)
  have hother : ∀ handle : TunnelHandle, target.channel ≠ handle.channel →
      (if s.telling.shared.system.shared.accepts target then
        Function.update s.told target.channel (s.made index) else s.told) handle.channel =
          s.told handle.channel := by
    intro handle hne
    split
    · exact Function.update_of_ne (Ne.symm hne) ..
    · rfl
  have hself : (if s.telling.shared.system.shared.accepts target then
        Function.update s.told target.channel (s.made index) else s.told) target.channel =
      if s.telling.shared.system.shared.accepts target then s.made index
        else s.told target.channel := by
    split
    · exact Function.update_self ..
    · rfl
  refine ⟨tunnelsInv_step hcases hs.tunnels, routeOwned_step hs.tunnels hs.routes hcases,
    forall_mem_set hs.sound hremaining, hs.made_le_update, ?_, ?_, ?_, ?_⟩
  · intro channel
    split
    · by_cases hchannel : channel = target.channel
      · simpa [hchannel] using hs.made_le index
      · simpa [hchannel] using hs.told_le channel
    · exact hs.told_le channel
  · intro other target' addresses' remaining' hget hmade
    exact hs.made_set (by simp) hget hmade
  · intro handle htunnel htold
    by_cases hchannel : target.channel = handle.channel
    · obtain rfl := htarget.eq_of_channel htunnel hs.tunnels hchannel
      simp only [hself] at htold
      change (s.telling.shared.sendAddresses target addresses).lastAddresses target = _
      rw [lastAddresses_sendAddresses]
      split at htold
      · next haccepts =>
          rw [if_pos haccepts]
          exact hs.made index target addresses remaining htask htold
      · next haccepts =>
          rw [if_neg haccepts]
          exact hs.told target htarget htold
    · simp only [hother handle hchannel] at htold
      exact (lastAddresses_sendAddresses_of_ne addresses hchannel).trans
        (hs.told handle htunnel htold)
  · intro handle hlive
    obtain ⟨hroute, hwriting⟩ := live_iff.mp hlive
    have hlive' : live s.telling.shared handle = true :=
      live_iff.mpr ⟨hroute, writing_sendAddresses addresses hwriting⟩
    have htunnel := (hasTunnel_of_direct hs.tunnels hs.routes hroute).2
    by_cases hchannel : target.channel = handle.channel
    · obtain rfl := htarget.eq_of_channel htunnel hs.tunnels hchannel
      simp only [sendsInTime, hlive', Bool.not_true, Bool.false_or, Bool.or_eq_true,
        decide_eq_true_eq] at hok
      simp only [hself]
      refine hok.imp_right fun hbesides => ?_
      obtain ⟨other, task, hne, htask', hcovers⟩ := covered_of_besides hbesides
      refine ⟨other, task, (List.getElem?_set_ne (Ne.symm hne)).trans htask', ?_⟩
      cases task with
      | sending target' addresses' remaining' => simpa [covers, hne] using hcovers
      | _ => exact hcovers
    · simp only [hother handle hchannel]
      refine (hs.current handle hlive').imp_right fun hcovered => hcovered.set htask ?_
      intro hcovers
      have hne : target ≠ handle := fun heq => hchannel (congrArg TunnelHandle.channel heq)
      simpa [covers, hne] using hcovers

/-- A change of the reach makes every list old, and the call that made it goes on to publish. -/
theorem inv_reaching {reach : UpstreamReach} (hs : s.Inv config)
    (htask : s.telling.tasks[index]? = some (.reaching reach)) :
    Inv config ⟨⟨{ s.telling.shared with reach }, s.telling.tasks.set index .publishing⟩,
      if reach = s.telling.shared.reach then s.changes else s.changes + 1,
      Function.update s.made index s.changes, s.told⟩ := by
  have hle : s.changes ≤ if reach = s.telling.shared.reach then s.changes else s.changes + 1 := by
    split
    · exact le_rfl
    · exact Nat.le_succ _
  have hsame : ∀ n ≤ s.changes,
      n = (if reach = s.telling.shared.reach then s.changes else s.changes + 1) →
      n = s.changes ∧ reach = s.telling.shared.reach := by
    intro n hn heq
    split at heq
    · next hreach => exact ⟨heq, hreach⟩
    · omega
  refine ⟨hs.tunnels, hs.routes, forall_mem_set hs.sound trivial,
    fun other => (hs.made_le_update other).trans hle, fun c => (hs.told_le c).trans hle, ?_, ?_, ?_⟩
  · intro other target addresses remaining hother hmade
    obtain ⟨hunchanged, rfl⟩ := hsame _ (hs.made_le_update other) hmade
    exact hs.made_set (by simp) hother hunchanged
  · intro handle htunnel htold
    obtain ⟨hunchanged, rfl⟩ := hsame _ (hs.told_le _) htold
    exact hs.told handle htunnel hunchanged
  · intro handle _
    exact .inr ⟨index, .publishing,
      List.getElem?_set_self (List.getElem?_eq_some_iff.mp htask).1, rfl⟩

theorem inv_advance {order : List OnlineDevice} (hs : s.Inv config)
    (hok : s.InTime (.advance index order)) (h : s.step config (.advance index order) = some s') :
    s'.Inv config := by
  obtain ⟨telling, htelling, rfl⟩ := Option.map_eq_some_iff.mp h
  obtain ⟨task, relay', task', htask, hadvance, rfl⟩ := poolStep_advance htelling
  simp only [htask]
  have hsound := hs.sound _ (List.mem_of_getElem? htask)
  cases task with
  | finished => cases hadvance
  | reaching reach =>
      cases hadvance
      exact inv_reaching hs htask
  | publishing =>
      simp only [AddressTask.step] at hadvance
      split at hadvance
      · next hperm =>
          cases hadvance
          simp only [if_true]
          refine hs.move htask ?_ (by simp) ?_
          · intro device hdevice
            exact deviceSound_of_mem_snapshot hs.tunnels hs.routes (hperm.mem_iff.mp hdevice)
          · intro handle hlive _
            obtain ⟨entry, hentry, hdirect⟩ := Option.map_eq_some_iff.mp (live_iff.mp hlive).1
            have hmem : entry.device ∈ s.telling.shared.snapshot :=
              mem_snapshot.mpr ⟨_, entry, hentry, rfl⟩
            exact List.any_eq_true.mpr
              ⟨entry.device, hperm.mem_iff.mpr hmem, decide_eq_true hdirect⟩
      · cases hadvance
  | addressing remaining =>
      cases remaining with
      | nil =>
          cases hadvance
          simp only [if_true]
          exact hs.move htask trivial (by simp) (by simp [covers])
      | cons device remaining =>
          obtain ⟨hdevice, hremaining⟩ := List.forall_mem_cons.mp hsound
          simp only [AddressTask.step] at hadvance
          split at hadvance
          · next target hdirect =>
              cases hadvance
              simp only [if_true]
              obtain ⟨hid, htarget⟩ := hdevice target hdirect
              refine hs.move htask ⟨htarget, hremaining⟩ ?_ ?_
              · intro _ _ _ hnew
                cases hnew
                rw [hid]
              · intro handle _ hcovers
                simp only [covers, List.any_cons, hdirect, Route.direct.injEq,
                  Function.update_self, and_true] at hcovers ⊢
                exact hcovers
          · next hvia =>
              cases hadvance
              simp only [if_true]
              refine hs.move htask hremaining (by simp) ?_
              intro handle _ hcovers
              simpa [covers, hvia] using hcovers
  | sending target addresses remaining =>
      cases hadvance
      simp only [InTime, htask, Option.all_some] at hok
      have hreach : (s.telling.shared.sendAddresses target addresses).reach =
        s.telling.shared.reach := rfl
      simp only [hreach, if_true]
      exact inv_sending hs htask hok

theorem inv_step (hs : s.Inv config) (hok : s.InTime label) (h : s.step config label = some s') :
    s'.Inv config := by
  cases label with
  | spawn task =>
      obtain ⟨telling, htelling, rfl⟩ := Option.map_eq_some_iff.mp h
      obtain ⟨hstarts, rfl⟩ := poolStep_spawn htelling
      have hnew : ∀ target addresses remaining, task ≠ .sending target addresses remaining := by
        rintro target addresses remaining rfl
        cases hstarts
      simp only [if_true]
      refine ⟨hs.tunnels, hs.routes, ?_, hs.made_le, hs.told_le, ?_, hs.told, ?_⟩
      · intro other hother
        rcases List.mem_append.mp hother with hold | hlast
        · exact hs.sound other hold
        · rw [List.mem_singleton.mp hlast]
          cases task with
          | addressing remaining => cases hstarts
          | sending target addresses remaining => cases hstarts
          | _ => trivial
      · intro other target addresses remaining hother hmade
        rcases getElem?_append_cases hother with hold | hlast
        · exact hs.made other target addresses remaining hold hmade
        · exact absurd hlast.symm (hnew target addresses remaining)
      · intro handle hlive
        refine (hs.current handle hlive).imp_right fun ⟨index, other, hother, hcovers⟩ => ?_
        exact ⟨index, other, getElem?_append_of_some hother, hcovers⟩
  | advance index order => exact inv_advance hs hok h
  | environment event => exact inv_event hs hok h

theorem inv_init (config : RelayConfig) (addressing : DeviceAddressing) (database : Database) :
    (init addressing database).Inv config where
  tunnels := tunnelsInv_init config database
  routes deviceId route hroute := by
    simp [init, Telling.init, System.init, Registry.new, RegistryState.empty,
      RegistryState.route] at hroute
  sound _ h := by cases h
  made_le _ := Nat.le_refl _
  told_le _ := Nat.le_refl _
  made _ _ _ _ h := by cases h
  told handle htunnel := by
    obtain ⟨_, _, hsession, -⟩ := htunnel
    cases hsession
  current handle hlive := by
    have hroute := (live_iff.mp hlive).1
    simp [init, Telling.init, System.init, Registry.new, RegistryState.empty,
      RegistryState.route] at hroute

end Steps

end TimedTelling

namespace Telling

/-- Once no call is under way, every registered direct tunnel whose writer has not ended was told
last what the device's addresses are. -/
theorem last_addresses_current (config : RelayConfig) (addressing : DeviceAddressing)
    (database : Database) (labels : List TellingLabel) (p : Telling)
    (hrun : run (step config) (init addressing database) labels = some p)
    (hok : Meets (TimedTelling.step config) TimedTelling.InTime
      (.init addressing database) labels)
    (hidle : p.tasks.all AddressTask.isFinished = true) (deviceId : String)
    (handle : TunnelHandle)
    (hroute : p.shared.system.shared.registry.state.route deviceId = some (.direct handle))
    (hwriting : p.shared.system.shared.channels[handle.channel]?.any Channel.writing = true) :
    p.shared.lastAddresses handle = p.shared.deviceAddresses config deviceId := by
  have hmap := run_map (TimedTelling.map_telling_step config) (.init addressing database) labels
  obtain ⟨s, htimed, rfl⟩ := Option.map_eq_some_iff.mp (hmap.trans hrun)
  have hs : s.Inv config :=
    run_invariant (fun _ _ _ hs hok hstep => TimedTelling.inv_step hs hok hstep)
      (TimedTelling.inv_init config addressing database) hok htimed
  obtain ⟨hid, htunnel⟩ := hasTunnel_of_direct hs.tunnels hs.routes hroute
  subst hid
  rcases hs.current handle (live_iff.mpr ⟨hroute, hwriting⟩) with htold | hcovered
  · exact hs.told handle htunnel htold
  · obtain ⟨index, task, htask, hcovers⟩ := hcovered
    have hfinished := List.all_eq_true.mp hidle task (List.mem_of_getElem? htask)
    cases task with
    | finished => cases hcovers
    | _ => cases hfinished

def exampleAddressing : DeviceAddressing := (lowerRelay none).addressing

def exampleReach : UpstreamReach := (lowerRelay none).reach

def callAt (index : Nat) (task : AddressTask) (order : List OnlineDevice) : List TellingLabel :=
  [.spawn task, .advance index [], .advance index order] ++
    List.replicate (2 * order.length + 1) (.advance index [])

def connectThenJoin : List TellingLabel :=
  ((System.enrollDevice 0 .desktop none "ABCD-EFGH-JKLM" "device-a" ++
    System.acceptTunnel 2 .desktop "device-a" ++ System.registerTunnel 2).map .environment) ++
    callAt 0 (.reaching exampleReach)
      [⟨"device-a", "desk", .desktop, 0, some "203.0.113.5", some "1.0", .direct ⟨"device-a", 0⟩⟩]

theorem last_addresses_current_joined :
    ∃ p, run (step System.plainConfig) (init exampleAddressing .empty) connectThenJoin = some p ∧
      p.shared.reach = exampleReach ∧
      p.shared.lastAddresses ⟨"device-a", 0⟩ =
        p.shared.deviceAddresses System.plainConfig "device-a" := by
  obtain ⟨p, hrun, hreach, hidle, hroute, hwriting⟩ := exists_run (step System.plainConfig)
    (init exampleAddressing .empty) connectThenJoin
    (fun p => p.shared.reach = exampleReach ∧ p.tasks.all AddressTask.isFinished = true ∧
      p.shared.system.shared.registry.state.route "device-a" = some (.direct ⟨"device-a", 0⟩) ∧
      p.shared.system.shared.channels[0]?.any Channel.writing = true) (by decide)
  exact ⟨p, hrun, hreach, last_addresses_current System.plainConfig exampleAddressing .empty
    connectThenJoin p hrun (by decide) hidle "device-a" ⟨"device-a", 0⟩ hroute hwriting⟩

/-- The session with `relay-b` comes up between the `welcome` and the registration. -/
def joinDuringHandshake : List TellingLabel :=
  ((System.enrollDevice 0 .desktop none "ABCD-EFGH-JKLM" "device-a" ++
    System.acceptTunnel 2 .desktop "device-a").map .environment) ++
    callAt 0 (.reaching exampleReach) [] ++ (System.registerTunnel 2).map .environment

/-- The device is never told the address it has at `relay-b`. -/
theorem last_addresses_miss_join :
    ¬ ∀ (config : RelayConfig) (addressing : DeviceAddressing) (database : Database)
      (labels : List TellingLabel) (p : Telling),
      run (step config) (init addressing database) labels = some p →
      p.tasks.all AddressTask.isFinished = true → ∀ (deviceId : String) (handle : TunnelHandle),
      p.shared.system.shared.registry.state.route deviceId = some (.direct handle) →
      p.shared.system.shared.channels[handle.channel]?.any Channel.writing = true →
      p.shared.lastAddresses handle = p.shared.deviceAddresses config deviceId := by
  intro h
  obtain ⟨p, hrun, hidle, hroute, hwriting, hlast⟩ := exists_run (step System.plainConfig)
    (init exampleAddressing .empty) joinDuringHandshake
    (fun p => p.tasks.all AddressTask.isFinished = true ∧
      p.shared.system.shared.registry.state.route "device-a" = some (.direct ⟨"device-a", 0⟩) ∧
      p.shared.system.shared.channels[0]?.any Channel.writing = true ∧
      p.shared.lastAddresses ⟨"device-a", 0⟩ ≠
        p.shared.deviceAddresses System.plainConfig "device-a") (by decide)
  exact hlast (h System.plainConfig exampleAddressing .empty joinDuringHandshake p hrun hidle
    "device-a" ⟨"device-a", 0⟩ hroute hwriting)

end Telling

end TermexoRelay
