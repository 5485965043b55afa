import TermexoRelay.Proxy.Forwarded

/-!
# Peers of a dual-stack listener

A listener on `[::]` reports a peer of the older family as the IPv4-mapped address `::ffff:a`. A
trusted network holds addresses of one family only, so the two spellings of one peer are looked up
in different networks.
-/

namespace TermexoRelay

/-- How a dual-stack listener reports an address of the older family. -/
def mappedAddress (bits : BitVec 32) : IpAddr := .v6 ((0xFFFF : BitVec 96) ++ bits)

/-- An address with the mapping undone. -/
def unmapped : IpAddr → IpAddr
  | .v4 bits => .v4 bits
  | .v6 bits =>
      if bits.extractLsb' 32 96 = 0xFFFF then .v4 (bits.extractLsb' 0 32) else .v6 bits

theorem unmapped_mappedAddress (bits : BitVec 32) :
    unmapped (mappedAddress bits) = .v4 bits := by
  have hhigh : ((0xFFFF : BitVec 96) ++ bits).extractLsb' 32 96 = 0xFFFF :=
    BitVec.extractLsb'_append_eq_left
  have hlow : ((0xFFFF : BitVec 96) ++ bits).extractLsb' 0 32 = bits :=
    BitVec.extractLsb'_append_eq_right
  rw [mappedAddress, unmapped, if_pos hhigh, hlow]

/-- Whether one of the networks of the older family holds an address. -/
def trustedAsV4 (networks : List IpNet) (bits : BitVec 32) : Prop :=
  ∃ net length, .v4 net length ∈ networks ∧ (IpNet.v4 net length).contains (.v4 bits) = true

/-- Whether one of the networks of the newer family holds the mapped address. -/
def trustedAsMapped (networks : List IpNet) (bits : BitVec 32) : Prop :=
  ∃ net length, .v6 net length ∈ networks ∧
    (IpNet.v6 net length).contains (mappedAddress bits) = true

theorem isTrustedProxy_v4 {networks : List IpNet} {bits : BitVec 32} :
    isTrustedProxy networks (.v4 bits) = true ↔ trustedAsV4 networks bits := by
  rw [isTrustedProxy, List.any_eq_true]
  constructor
  · rintro ⟨network, hmem, hcontains⟩
    cases network with
    | v4 net length => exact ⟨net, length, hmem, hcontains⟩
    | v6 net length => cases hcontains
  · rintro ⟨net, length, hmem, hcontains⟩
    exact ⟨.v4 net length, hmem, hcontains⟩

theorem isTrustedProxy_mapped {networks : List IpNet} {bits : BitVec 32} :
    isTrustedProxy networks (mappedAddress bits) = true ↔ trustedAsMapped networks bits := by
  rw [isTrustedProxy, List.any_eq_true]
  constructor
  · rintro ⟨network, hmem, hcontains⟩
    cases network with
    | v4 net length => cases hcontains
    | v6 net length => exact ⟨net, length, hmem, hcontains⟩
  · rintro ⟨net, length, hmem, hcontains⟩
    exact ⟨.v6 net length, hmem, hcontains⟩

namespace ForwardingSettings

/-- Both spellings of a peer are believed or neither is, and the same is made of its requests. -/
structure TreatsAlike (settings : ForwardingSettings) (headers : HeaderMap) (bits : BitVec 32) :
    Prop where
  trusted : settings.trusts (.v4 bits) = settings.trusts (mappedAddress bits)
  address : unmapped (settings.resolveIp headers (.v4 bits)) =
    unmapped (settings.resolveIp headers (mappedAddress bits))
  proto : (settings.resolve headers (.v4 bits)).proto =
    (settings.resolve headers (mappedAddress bits)).proto
  host : (settings.resolve headers (.v4 bits)).host =
    (settings.resolve headers (mappedAddress bits)).host

theorem treatsAlike_of_trusts {settings : ForwardingSettings} {bits : BitVec 32}
    (h : settings.trusts (.v4 bits) = settings.trusts (mappedAddress bits))
    (headers : HeaderMap) : settings.TreatsAlike headers bits := by
  refine ⟨h, ?_, ?_, ?_⟩
  · rw [resolveIp, resolveIp, ← h]
    split
    · cases (headerValue headers HEADER_FORWARDED_FOR).bind firstForwardedAddress with
      | none => exact (unmapped_mappedAddress bits).symm
      | some address => rfl
    · exact (unmapped_mappedAddress bits).symm
  · simp only [resolve, ← h]
    split <;> rfl
  · simp only [resolve, ← h]
    split <;> rfl

/-- The two spellings of a peer are treated alike exactly when the relay terminates TLS itself or
the peer is in a network of each family or of neither. -/
theorem treatsAlike_iff (settings : ForwardingSettings) (headers : HeaderMap)
    (bits : BitVec 32) :
    settings.TreatsAlike headers bits ↔
      settings.tlsEnabled = true ∨
        (trustedAsV4 settings.trustedProxies bits ↔
          trustedAsMapped settings.trustedProxies bits) := by
  rw [← isTrustedProxy_v4, ← isTrustedProxy_mapped, ← Bool.eq_iff_iff]
  constructor
  · intro h
    have htrusts := h.trusted
    rw [trusts, trusts] at htrusts
    cases htls : settings.tlsEnabled with
    | true => exact .inl rfl
    | false =>
        rw [htls, Bool.not_false, Bool.true_and, Bool.true_and] at htrusts
        exact .inr htrusts
  · intro h
    refine treatsAlike_of_trusts ?_ headers
    rw [trusts, trusts]
    rcases h with htls | hsame
    · rw [htls, Bool.not_true, Bool.false_and, Bool.false_and]
    · rw [hsame]

/-- A proxy of the older family in front of a dual-stack listener is not believed. -/
theorem treatsAlike_mapped_proxy :
    ¬ ∀ (settings : ForwardingSettings) (headers : HeaderMap) (bits : BitVec 32),
      settings.TreatsAlike headers bits := by
  intro h
  have htrusted := (h behindProxy HeaderMap.empty 0x0A000001).trusted
  exact absurd htrusted (by decide)

end ForwardingSettings

end TermexoRelay
