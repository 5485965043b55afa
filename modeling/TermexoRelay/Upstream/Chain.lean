import TermexoRelay.Registry.Jobs
import TermexoRelay.Upstream.Forward

/-!
# Announcements up, streams down

A device is announced up a chain of relays, each of which installs the next one's announcement.
The guard on announcements counts the relays below, the guard on streams the ones above. Along such
a chain the two agree: whatever was announced to a relay can be reached from it.
-/

namespace TermexoRelay

open Transition

/-- `announce_device` with nothing in between; `none` when it returns `false`. -/
def RegistryState.announceDevice (relayId : String) (maxHops : Nat) (linkDeviceId : String)
    (link : TunnelHandle) (device : AnnouncedDevice) (sequence : Nat) (now : Int)
    (state : RegistryState) : Option (RegistryState × Option RegistryChange) :=
  if isAnnouncementRoutable relayId maxHops device.via then
    state.announceLocked relayId linkDeviceId link device sequence now
  else none

/-- `hops` are the relays below `relayId` over which the device was announced to it: the last one
holds its tunnel, each other one accepted the next one's announcement and still routes by it. -/
inductive Announced (network : Network) (maxHops : Nat) (deviceId : String) :
    String → List String → Prop
  | direct {relayId : String} {handle : TunnelHandle}
      (hroute : (network.registry relayId).route deviceId = some (.direct handle))
      (hdevice : network.peer relayId handle = none) : Announced network maxHops deviceId relayId []
  | via {relayId next : String} {hops : List String} {entry : Entry}
      {announcement : AnnouncedDevice} {linkDeviceId : String} {link : TunnelHandle}
      {sequence : Nat} {now : Int} {before after : RegistryState}
      {change : Option RegistryChange}
      (hnext : Announced network maxHops deviceId next hops)
      (hentry : (network.registry next).entries.lookup deviceId = some entry)
      (hoffer : announcementOf next entry = some announcement)
      (hid : announcement.id = deviceId)
      (hlink : network.peer relayId link = some next)
      (haccept : before.announceDevice relayId maxHops linkDeviceId link announcement sequence
        now = some (after, change))
      (hkept : (network.registry relayId).entries.lookup deviceId =
        after.entries.lookup deviceId) :
      Announced network maxHops deviceId relayId (next :: hops)

theorem announcementOf_via {relayId : String} {entry : Entry} {announcement : AnnouncedDevice}
    (h : announcementOf relayId entry = some announcement) :
    announcement.via = relayId :: entry.device.route.hops := by
  unfold announcementOf at h
  split at h
  · cases h
  · rw [← Option.some.inj h]

section Announced

variable {network : Network} {maxHops : Nat} {deviceId relayId next : String} {hops : List String}

theorem accepted_route {linkDeviceId : String} {link : TunnelHandle} {device : AnnouncedDevice}
    {sequence : Nat} {now : Int} {before after : RegistryState} {change : Option RegistryChange}
    (haccept : before.announceDevice relayId maxHops linkDeviceId link device sequence now =
      some (after, change)) :
    after.route device.id = some (.via link device.via) ∧ device.via.length < maxHops ∧
      relayId ∉ device.via := by
  simp only [RegistryState.announceDevice, Option.ite_none_right_eq_some] at haccept
  obtain ⟨hroutable, hlocked⟩ := haccept
  obtain ⟨-, hentries, -⟩ := RegistryState.announceLocked_eq_some hlocked
  simp only [isAnnouncementRoutable, Bool.and_eq_true, decide_eq_true_eq] at hroutable
  refine ⟨?_, hroutable⟩
  rw [RegistryState.route, hentries, AList.lookup_insert]
  rfl

theorem Announced.route (h : Announced network maxHops deviceId relayId hops) :
    ∃ route, (network.registry relayId).route deviceId = some route ∧ route.hops = hops := by
  induction h with
  | direct hroute _ => exact ⟨_, hroute, rfl⟩
  | @via relayId next hops entry _ _ link _ _ _ _ _ _ hentry hoffer hid _ haccept hkept ih =>
      obtain ⟨route, hroute, hhops⟩ := ih
      obtain ⟨haccepted, -⟩ := accepted_route haccept
      have hnext : entry.device.route = route := by
        rw [RegistryState.route, hentry] at hroute
        exact Option.some.inj hroute
      rw [hid, RegistryState.route, ← hkept] at haccepted
      refine ⟨_, haccepted, ?_⟩
      rw [Route.hops, announcementOf_via hoffer, hnext, hhops]

theorem Announced.accepted (h : Announced network maxHops deviceId relayId (next :: hops)) :
    (∃ link, (network.registry relayId).route deviceId = some (.via link (next :: hops)) ∧
      network.peer relayId link = some next) ∧
    Announced network maxHops deviceId next hops ∧
    relayId ∉ next :: hops ∧ (next :: hops).length < maxHops := by
  cases h with
  | @via _ _ _ entry announcement _ link _ _ _ _ _ hnext hentry hoffer hid hlink haccept hkept =>
      obtain ⟨haccepted, hbudget, hloop⟩ := accepted_route haccept
      obtain ⟨route, hroute, hhops⟩ := hnext.route
      have hvia : announcement.via = next :: hops := by
        rw [RegistryState.route, hentry] at hroute
        rw [announcementOf_via hoffer, ← hhops, ← Option.some.inj hroute]
      rw [hid, RegistryState.route, ← hkept, hvia] at haccepted
      rw [hvia] at hbudget hloop
      exact ⟨⟨link, haccepted, hlink⟩, hnext, hloop, hbudget⟩

theorem Announced.nodup (h : Announced network maxHops deviceId relayId hops) :
    (relayId :: hops).Nodup := by
  induction hops generalizing relayId with
  | nil => exact List.nodup_singleton _
  | cons next hops ih =>
      obtain ⟨-, hnext, hloop, -⟩ := h.accepted
      exact List.nodup_cons.mpr ⟨hloop, ih hnext⟩

/-- Every relay of the chain routes the device over the rest of the chain. -/
theorem Announced.tails (h : Announced network maxHops deviceId relayId hops)
    {relayId' : String} {tail : List String}
    (htail : relayId' :: next :: tail <:+ relayId :: hops) :
    ∃ link, (network.registry relayId').route deviceId = some (.via link (next :: tail)) := by
  induction hops generalizing relayId with
  | nil =>
      have hlength := htail.length_le
      simp at hlength
  | cons below hops ih =>
      obtain ⟨⟨link, hroute, -⟩, hbelow, -⟩ := h.accepted
      rcases List.suffix_cons_iff.mp htail with heq | hsuffix
      · cases heq
        exact ⟨link, hroute⟩
      · exact ih hbelow hsuffix

def CarryChoice.plain (network : Network) : CarryChoice := ⟨network, .ok (), fun _ => .ok ()⟩

theorem step_accepted (carriedBy : List String) {preface : StreamPreface} {route : Route}
    (hroute : (network.registry relayId).route preface.target = some route)
    (hloop : relayId ∉ preface.hops) (hroom : preface.hops.length < maxHops) :
    Stream.step maxHops ⟨carriedBy, .arriving relayId preface⟩ (.plain network) =
      some ⟨carriedBy ++ [relayId], Stream.arrive network relayId route.link
        { preface with hops := preface.hops ++ [relayId] }⟩ := by
  have hcarry : carry maxHops relayId (network.registry relayId) (.ok preface) (fun _ => .ok ()) =
      .ok (route.link, { preface with hops := preface.hops ++ [relayId] }) :=
    carry_eq_ok.mpr ⟨preface, route, rfl, extend_eq_ok.mpr ⟨hloop, hroom, rfl⟩, hroute, rfl, rfl⟩
  simp [Stream.step, CarryChoice.plain, Except.map, hcarry]

/-- Down the chain every relay accepts a stream that has crossed none of them and leaves room for
all of them. -/
theorem Announced.carried (h : Announced network maxHops deviceId relayId hops)
    (carriedBy : List String) (preface : StreamPreface) (htarget : preface.target = deviceId)
    (hcrossed : ∀ relay ∈ relayId :: hops, relay ∉ preface.hops)
    (hroom : preface.hops.length + (relayId :: hops).length ≤ maxHops) :
    run (Stream.step maxHops) ⟨carriedBy, .arriving relayId preface⟩
        (List.replicate (relayId :: hops).length (.plain network)) =
      some ⟨carriedBy ++ relayId :: hops,
        .delivered ((relayId :: hops).getLast (List.cons_ne_nil _ _))
          { preface with hops := preface.hops ++ relayId :: hops }⟩ := by
  induction hops generalizing relayId carriedBy preface with
  | nil =>
      cases h with
      | @direct _ handle hroute hdevice =>
          rw [← htarget] at hroute
          have hstep := step_accepted carriedBy hroute
            (hcrossed relayId List.mem_cons_self) hroom
          rw [Stream.arrive, Route.link, hdevice] at hstep
          exact run_cons_eq_some.mpr ⟨_, hstep, rfl⟩
  | cons next hops ih =>
      obtain ⟨⟨link, hroute, hlink⟩, hnext, hloop, -⟩ := h.accepted
      rw [← htarget] at hroute
      have hlength : (relayId :: next :: hops).length = (next :: hops).length + 1 := rfl
      have hfits : preface.hops.length < maxHops := by omega
      have hstep := step_accepted carriedBy hroute (hcrossed relayId List.mem_cons_self) hfits
      rw [Stream.arrive, Route.link, hlink] at hstep
      have hrest := ih hnext (carriedBy ++ [relayId])
        { preface with hops := preface.hops ++ [relayId] } htarget
        (by
          intro relay hrelay
          rw [List.mem_append, List.mem_singleton, not_or]
          exact ⟨hcrossed relay (List.mem_cons_of_mem _ hrelay),
            fun heq => hloop (heq ▸ hrelay)⟩)
        (by
          rw [List.length_append, List.length_singleton]
          omega)
      refine run_cons_eq_some.mpr ⟨_, hstep, ?_⟩
      rw [hrest]
      simp

end Announced

/-- A device that was announced to a relay over a chain is reached from it over that chain: the
chain has no repetition, every table on it routes along the rest, every relay accepts the stream,
and the device receives it with the whole chain as its hops. -/
theorem announced_stream_reaches (network : Network) (maxHops version : Nat)
    (relayId deviceId next : String) (hops : List String)
    (h : Announced network maxHops deviceId relayId (next :: hops)) :
    (relayId :: next :: hops).Nodup ∧ (relayId :: next :: hops).length ≤ maxHops ∧
    (∀ relay below tail, relay :: below :: tail <:+ relayId :: next :: hops →
      ∃ link, (network.registry relay).route deviceId = some (.via link (below :: tail))) ∧
    ∃ opened, Stream.openedBy version network relayId deviceId = some opened ∧
      run (Stream.step maxHops) opened
          (List.replicate (next :: hops).length (.plain network)) =
        some ⟨next :: hops, .delivered ((next :: hops).getLast (List.cons_ne_nil _ _))
          ⟨version, deviceId, relayId :: next :: hops⟩⟩ := by
  obtain ⟨⟨link, hroute, hlink⟩, hnext, hloop, hbudget⟩ := h.accepted
  refine ⟨h.nodup, hbudget, fun relay below tail htail => h.tails htail, ?_⟩
  refine ⟨⟨[], .arriving next ⟨version, deviceId, [relayId]⟩⟩, ?_, ?_⟩
  · rw [Stream.openedBy, hroute, Option.map_some, Stream.arrive, Route.link, hlink]
    rfl
  · refine hnext.carried [] ⟨version, deviceId, [relayId]⟩ rfl ?_ ?_
    · intro relay hrelay
      rw [List.mem_singleton]
      exact fun heq => hloop (heq ▸ hrelay)
    · rw [List.length_singleton]
      omega

def relayed (via : List String) : RegistryState :=
  { RegistryState.empty with
    entries := (∅ : Table String Entry).insert "device-a"
      ((AnnouncedDevice.mk "device-a" "desk" true via).entry "link" ⟨"link", 0⟩ 0 0) }

def chainNetwork : Network where
  registry relayId :=
    if relayId = "relay-d" then
      (RegistryState.empty.connectLocked "relay-d"
        ⟨"device-a", "desk", .desktop, none, none, none, ⟨"device-a", 0⟩⟩ 0 0).1
    else if relayId = "relay-c" then relayed ["relay-d"]
    else if relayId = "relay-b" then relayed ["relay-c", "relay-d"]
    else relayed ["relay-b", "relay-c", "relay-d"]
  peer relayId link :=
    if link.deviceId = "link" then
      if relayId = "relay-c" then some "relay-d"
      else if relayId = "relay-b" then some "relay-c"
      else some "relay-b"
    else none

theorem announced_chain :
    Announced chainNetwork 8 "device-a" "relay-a" ["relay-b", "relay-c", "relay-d"] := by
  have hroute : (chainNetwork.registry "relay-d").route "device-a" =
      some (.direct ⟨"device-a", 0⟩) := by decide
  have haccept : ∀ relayId via, isAnnouncementRoutable relayId 8 via = true →
      RegistryState.empty.announceDevice relayId 8 "link" ⟨"link", 0⟩
        ⟨"device-a", "desk", true, via⟩ 0 0 = some (relayed via, some
          (.online ⟨"device-a", "desk", true, relayId :: via⟩)) := by
    intro relayId via hroutable
    rw [RegistryState.announceDevice, if_pos hroutable]
    rfl
  have hdirect : Announced chainNetwork 8 "device-a" "relay-d" [] := .direct hroute (by decide)
  have hlower : Announced chainNetwork 8 "device-a" "relay-c" ["relay-d"] :=
    .via hdirect rfl rfl rfl rfl (haccept "relay-c" _ (by decide)) rfl
  have hmiddle : Announced chainNetwork 8 "device-a" "relay-b" ["relay-c", "relay-d"] :=
    .via hlower rfl rfl rfl rfl (haccept "relay-b" _ (by decide)) rfl
  exact .via hmiddle rfl rfl rfl rfl (haccept "relay-a" _ (by decide)) rfl

theorem announced_stream_reaches_chain :
    ∃ opened, Stream.openedBy 1 chainNetwork "relay-a" "device-a" = some opened ∧
      run (Stream.step 8) opened (List.replicate 3 (.plain chainNetwork)) =
        some ⟨["relay-b", "relay-c", "relay-d"], .delivered "relay-d"
          ⟨1, "device-a", ["relay-a", "relay-b", "relay-c", "relay-d"]⟩⟩ :=
  (announced_stream_reaches chainNetwork 8 1 "relay-a" "device-a" "relay-b"
    ["relay-c", "relay-d"] announced_chain).2.2.2

end TermexoRelay
