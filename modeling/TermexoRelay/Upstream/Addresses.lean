import TermexoRelay.Relay.Addressing
import Mathlib.Data.List.Infix

/-!
# The addresses a device gains by its relay having an upstream

The upstream describes the relays above in the addresses of this relay's own link device. Swapping
the trailing `/d/<linkDeviceId>/` for `/d/<deviceId>/` turns them into addresses of a device here.
An address in the subdomain form has no such trailing part and is dropped on the way down.
-/

namespace TermexoRelay

def U32_MAX : Nat := 4294967295

structure UpstreamRelay where
  relayId : String
  relayName : String
  origin : String
  hops : Nat
deriving DecidableEq, Repr

structure UpstreamReach where
  relays : List UpstreamRelay
  chain : List String
deriving DecidableEq, Repr

namespace UpstreamReach

def default : UpstreamReach := ⟨[], []⟩

/-- One address of the upstream's list, if it ends in the path of the link device. -/
def upstreamRelay (linkDeviceId : String) (address : RelayAddress) : Option UpstreamRelay :=
  (Text.stripSuffix (pathBase linkDeviceId).toList address.url.toList).map fun origin =>
    ⟨address.relayId, address.relayName, String.ofList origin, min (address.hops + 1) U32_MAX⟩

/-- Reads the chain out of what the upstream told this relay. -/
def fromWelcome (linkDeviceId upstreamRelayId : String) (addresses : List RelayAddress)
    (chain : List String) : UpstreamReach :=
  ⟨addresses.filterMap (upstreamRelay linkDeviceId), upstreamRelayId :: chain⟩

/-- Rebuilds the chain's addresses for one of this relay's own devices. -/
def addressesFor (reach : UpstreamReach) (deviceId : String) : List RelayAddress :=
  reach.relays.map fun relay =>
    ⟨relay.relayId, relay.relayName, relay.origin ++ pathBase deviceId, relay.hops⟩

end UpstreamReach

/-- The part of a relay's state its devices' addresses are made of. -/
structure AddressState where
  relayId : String
  addressing : DeviceAddressing
  reach : UpstreamReach
deriving DecidableEq

namespace AddressState

/-- This relay's own entry in a device's address list. -/
def relayAddress (state : AddressState) (deviceId : String) : RelayAddress :=
  ⟨state.relayId, state.addressing.publicUrl.host, state.addressing.deviceUrl deviceId, 0⟩

/-- Every address one of this relay's devices can be opened at: this relay first, then one entry
per relay above it. -/
def deviceAddresses (state : AddressState) (deviceId : String) : List RelayAddress :=
  state.relayAddress deviceId :: state.reach.addressesFor deviceId

end AddressState

/-- Relays, each the upstream of the one before it, whose reach is what the last list of its
upstream left. -/
inductive Delivered : List AddressState → Prop
  | top {relay : AddressState} (hreach : relay.reach = .default) : Delivered [relay]
  | link {lower upper : AddressState} {above : List AddressState} {linkDeviceId : String}
      {chain : List String} (hlink : '/' ∉ linkDeviceId.toList)
      (hreach : lower.reach = .fromWelcome linkDeviceId upper.relayId
        (upper.deviceAddresses linkDeviceId) chain)
      (hupper : Delivered (upper :: above)) : Delivered (lower :: upper :: above)

/-- What arrives at the bottom of the relays above: those that advertise the path form, with their
distance. -/
def arrivingAddresses (deviceId : String) : Nat → List AddressState → List RelayAddress
  | _, [] => []
  | hops, relay :: above =>
      (if relay.addressing.subdomainBase = none then
        [⟨relay.relayId, relay.addressing.publicUrl.host, relay.addressing.deviceUrl deviceId,
          min hops U32_MAX⟩]
      else []) ++ arrivingAddresses deviceId (hops + 1) above

section Rewrite

variable (linkDeviceId deviceId : String) {relay : AddressState} (hops : Nat)

theorem rewrite_path (hbase : relay.addressing.subdomainBase = none) :
    (UpstreamReach.upstreamRelay linkDeviceId ⟨relay.relayId, relay.addressing.publicUrl.host,
      relay.addressing.deviceUrl linkDeviceId, min hops U32_MAX⟩).map (fun relay =>
        RelayAddress.mk relay.relayId relay.relayName (relay.origin ++ pathBase deviceId)
          relay.hops) =
      some ⟨relay.relayId, relay.addressing.publicUrl.host, relay.addressing.deviceUrl deviceId,
        min (hops + 1) U32_MAX⟩ := by
  have hhops : min (min hops U32_MAX + 1) U32_MAX = min (hops + 1) U32_MAX := by omega
  simp only [UpstreamReach.upstreamRelay, stripSuffix_path hbase, Option.map_some,
    String.ofList_toList, hhops]
  simp only [DeviceAddressing.deviceUrl, hbase]

theorem rewrite_subdomain {base : SubdomainBase}
    (hbase : relay.addressing.subdomainBase = some base) (hlink : '/' ∉ linkDeviceId.toList)
    (name : String) :
    UpstreamReach.upstreamRelay linkDeviceId ⟨relay.relayId, name,
      relay.addressing.deviceUrl linkDeviceId, hops⟩ = none := by
  rw [UpstreamReach.upstreamRelay, stripSuffix_subdomain hbase hlink, Option.map_none]

theorem addressesFor_arriving (above : List AddressState) :
    ((arrivingAddresses linkDeviceId hops above).filterMap
      (UpstreamReach.upstreamRelay linkDeviceId)).map (fun relay =>
        RelayAddress.mk relay.relayId relay.relayName (relay.origin ++ pathBase deviceId)
          relay.hops) =
      arrivingAddresses deviceId (hops + 1) above := by
  induction above generalizing hops with
  | nil => rfl
  | cons relay above ih =>
      rw [arrivingAddresses, arrivingAddresses, List.filterMap_append, List.map_append, ih]
      congr 1
      split
      · next hbase =>
          obtain ⟨upstream, hupstream, haddress⟩ :=
            Option.map_eq_some_iff.mp (rewrite_path linkDeviceId deviceId hops hbase)
          rw [List.filterMap_cons, hupstream, List.filterMap_nil, List.map_singleton, haddress]
      · rfl

end Rewrite

/-- The addresses of a device over a settled chain. -/
theorem Delivered.deviceAddresses_eq {relay : AddressState} {above : List AddressState}
    (h : Delivered (relay :: above)) (deviceId : String) :
    relay.deviceAddresses deviceId =
      relay.relayAddress deviceId :: arrivingAddresses deviceId 1 above := by
  induction above generalizing relay deviceId with
  | nil =>
      cases h with
      | top hreach => rw [AddressState.deviceAddresses, hreach]; rfl
  | cons upper above ih =>
      cases h with
      | @link _ _ _ linkDeviceId chain hlink hreach hupper =>
          have hrest := addressesFor_arriving linkDeviceId deviceId 1 above
          rw [AddressState.deviceAddresses, hreach, UpstreamReach.addressesFor,
            UpstreamReach.fromWelcome, ih hupper linkDeviceId, arrivingAddresses]
          congr 1
          split
          · next hbase =>
              obtain ⟨upstream, hupstream, haddress⟩ :=
                Option.map_eq_some_iff.mp (rewrite_path linkDeviceId deviceId 0 hbase)
              rw [Nat.zero_min] at hupstream
              rw [AddressState.relayAddress, List.filterMap_cons_some hupstream, List.map_cons,
                hrest, haddress]
              rfl
          · next hbase =>
              obtain ⟨base, hbase⟩ := Option.ne_none_iff_exists'.mp hbase
              have hdropped := rewrite_subdomain linkDeviceId 0 hbase hlink
                upper.addressing.publicUrl.host
              rw [AddressState.relayAddress, List.filterMap_cons_none hdropped, hrest]
              rfl

/-- What the addresses of a device are expected to be, relay by relay from `hops` on. -/
def chainAddresses (deviceId : String) (hops : Nat) (relays : List AddressState) :
    List (String × String × Nat) :=
  (relays.zipIdx hops).map fun relay =>
    (relay.1.relayId, relay.1.addressing.deviceUrl deviceId, relay.2)

/-- The part of an address that the chain decides. -/
def RelayAddress.entry (address : RelayAddress) : String × String × Nat :=
  (address.relayId, address.url, address.hops)

theorem length_arrivingAddresses_le (deviceId : String) (hops : Nat) (above : List AddressState) :
    (arrivingAddresses deviceId hops above).length ≤ above.length := by
  induction above generalizing hops with
  | nil => exact le_rfl
  | cons relay above ih =>
      rw [arrivingAddresses, List.length_append, List.length_cons, Nat.add_comm]
      refine Nat.add_le_add (ih (hops + 1)) ?_
      split
      · exact le_rfl
      · exact Nat.zero_le _

/-- All relays above arrive, each with its distance, exactly when none advertises the subdomain form
and the distances can be counted. -/
theorem arrivingAddresses_eq_iff (deviceId : String) (hops : Nat) (hhops : hops ≤ U32_MAX + 1)
    (above : List AddressState) :
    (arrivingAddresses deviceId hops above).map RelayAddress.entry =
        chainAddresses deviceId hops above ↔
      (∀ relay ∈ above, relay.addressing.subdomainBase = none) ∧
        hops + above.length ≤ U32_MAX + 1 := by
  induction above generalizing hops with
  | nil =>
      refine ⟨fun _ => ⟨fun relay hrelay => absurd hrelay List.not_mem_nil, hhops⟩, fun _ => rfl⟩
  | cons relay above ih =>
      rw [List.forall_mem_cons, List.length_cons, arrivingAddresses, chainAddresses,
        List.zipIdx_cons, List.map_cons]
      by_cases hbase : relay.addressing.subdomainBase = none
      · rw [if_pos hbase, List.singleton_append, List.map_cons, List.cons.injEq]
        simp only [RelayAddress.entry, Prod.mk.injEq, true_and]
        constructor
        · rintro ⟨hdistance, hrest⟩
          have hnext : hops + 1 ≤ U32_MAX + 1 := by omega
          obtain ⟨hall, hlength⟩ := (ih (hops + 1) hnext).mp hrest
          exact ⟨⟨hbase, hall⟩, by omega⟩
        · rintro ⟨⟨-, hall⟩, hlength⟩
          have hnext : hops + 1 ≤ U32_MAX + 1 := by omega
          exact ⟨by omega, (ih (hops + 1) hnext).mpr ⟨hall, by omega⟩⟩
      · rw [if_neg hbase, List.nil_append]
        constructor
        · intro heq
          have hlength := congrArg List.length heq
          have hle := length_arrivingAddresses_le deviceId (hops + 1) above
          simp only [List.length_map, List.length_cons, List.length_zipIdx] at hlength
          omega
        · rintro ⟨⟨hnone, -⟩, -⟩
          exact absurd hnone hbase

/-- Over a settled chain a device has the address of every relay, in order, each with its distance,
exactly when no relay above the first has a subdomain base and the distances fit their counter. -/
theorem deviceAddresses_chain_iff (relay : AddressState) (above : List AddressState)
    (h : Delivered (relay :: above)) (deviceId : String) :
    (relay.deviceAddresses deviceId).map RelayAddress.entry =
        chainAddresses deviceId 0 (relay :: above) ↔
      (∀ upper ∈ above, upper.addressing.subdomainBase = none) ∧ above.length ≤ U32_MAX := by
  have hown : (relay.relayAddress deviceId).entry =
      (relay.relayId, relay.addressing.deviceUrl deviceId, 0) := rfl
  have habove := arrivingAddresses_eq_iff deviceId 1 (Nat.le_add_left 1 U32_MAX) above
  rw [h.deviceAddresses_eq, List.map_cons, hown, chainAddresses, List.zipIdx_cons, List.map_cons,
    List.cons.injEq]
  rw [chainAddresses] at habove
  rw [Nat.zero_add, habove, Nat.add_comm 1, Nat.add_le_add_iff_right]
  simp only [true_and]

def relayUrl (host : String) (hplain : '/' ∉ host.toList) : PublicUrl :=
  ⟨HTTPS_SCHEME ++ host, host, true, rfl, hplain⟩

def upperRelay (subdomainBase : Option SubdomainBase) : AddressState :=
  ⟨"relay-b", ⟨relayUrl "b.example.com" (by decide), subdomainBase⟩, .default⟩

def lowerRelay (subdomainBase : Option SubdomainBase) : AddressState :=
  ⟨"relay-a", ⟨relayUrl "a.example.com" (by decide), none⟩,
    .fromWelcome "link" "relay-b" ((upperRelay subdomainBase).deviceAddresses "link") []⟩

theorem delivered_lowerRelay (subdomainBase : Option SubdomainBase) :
    Delivered [lowerRelay subdomainBase, upperRelay subdomainBase] :=
  .link (by decide) rfl (.top rfl)

theorem deviceAddresses_chain_iff_path :
    ((lowerRelay none).deviceAddresses "desk").map RelayAddress.entry =
      [("relay-a", "https://a.example.com/d/desk/", 0),
        ("relay-b", "https://b.example.com/d/desk/", 1)] :=
  (deviceAddresses_chain_iff (lowerRelay none) [upperRelay none] (delivered_lowerRelay none)
    "desk").mpr (by decide)

def exampleBase : SubdomainBase := ⟨"b.example.com", by decide⟩

/-- A relay with a subdomain base is missing from the addresses of the devices below it. -/
theorem deviceAddresses_subdomain :
    ¬ ∀ (relay : AddressState) (above : List AddressState), Delivered (relay :: above) →
      ∀ deviceId, (relay.deviceAddresses deviceId).map RelayAddress.entry =
        chainAddresses deviceId 0 (relay :: above) := by
  intro h
  have hchain := h _ _ (delivered_lowerRelay (some exampleBase)) "desk"
  exact absurd (congrArg List.length hchain) (by decide)

end TermexoRelay
