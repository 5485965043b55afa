import TermexoRelay.Proxy.Headers

/-!
# Headers of one hop

`stripHopByHop` serves requests and responses alike. What a message says about its own hop stands in
all of its `Connection` fields; the names are read out of the first one, and only if that is text.
-/

namespace TermexoRelay

def listedNames (field : Bytes) : List HeaderName :=
  (field.splitOn COMMA).filterMap fun name => HeaderName.tryFrom (Text.trim isSpace name)

/-- The header names all `Connection` fields of a message list. -/
def connectionNames (headers : HeaderMap) : List HeaderName :=
  (headers.getAll .connection).flatMap fun field => listedNames field.bytes

/-- A header that belongs to this hop only. -/
def OfThisHop (headers : HeaderMap) (name : HeaderName) : Prop :=
  name.bytes ∈ HOP_BY_HOP_HEADERS ∨ name ∈ connectionNames headers

/-- The two headers that tell the other end of an upgrade. -/
def TellsUpgrade (keepUpgrade : Bool) (name : HeaderName) : Prop :=
  keepUpgrade = true ∧ (name = .connection ∨ name = .upgrade)

instance (keepUpgrade : Bool) (name : HeaderName) : Decidable (TellsUpgrade keepUpgrade name) :=
  inferInstanceAs (Decidable (_ ∧ _))

/-- What is left of a message that goes on to the next hop. -/
structure LeavesHop (headers : HeaderMap) (keepUpgrade : Bool) (stripped : HeaderMap) : Prop where
  removed : ∀ name, OfThisHop headers name → ¬ TellsUpgrade keepUpgrade name →
    stripped.getAll name = []
  kept : ∀ name, ¬ OfThisHop headers name ∨ TellsUpgrade keepUpgrade name →
    stripped.getAll name = headers.getAll name

/-- Whatever header the message lists is one of the eight, or is listed by the first `Connection`
field and that is text, or is not there. -/
def ListedFirst (headers : HeaderMap) : Prop :=
  ∀ name ∈ connectionNames headers,
    name.bytes ∈ HOP_BY_HOP_HEADERS ∨ name ∈ connectionListed headers ∨ headers.getAll name = []

section Names

variable {headers : HeaderMap} {name : HeaderName} {keepUpgrade : Bool}

theorem mem_connectionNames_of_listed (h : name ∈ connectionListed headers) :
    name ∈ connectionNames headers := by
  unfold connectionListed at h
  split at h
  · next value hvalue =>
      obtain ⟨field, hfirst, htext⟩ := Option.bind_eq_some_iff.mp hvalue
      obtain ⟨-, rfl⟩ := HeaderValue.toStr_eq_some.mp htext
      exact List.mem_flatMap.mpr ⟨field, List.mem_of_mem_head? hfirst, h⟩
  · cases h

private theorem strips_iff : (!(keepUpgrade && (decide (name = .connection) ||
    decide (name = .upgrade)))) = true ↔ ¬ TellsUpgrade keepUpgrade name := by
  cases keepUpgrade with
  | false => simp [TellsUpgrade]
  | true => simp [TellsUpgrade]

theorem getAll_stripHopByHop (headers : HeaderMap) (keepUpgrade : Bool) (name : HeaderName) :
    (stripHopByHop headers keepUpgrade).getAll name =
      if (name.bytes ∈ HOP_BY_HOP_HEADERS ∨ name ∈ connectionListed headers) ∧
          ¬ TellsUpgrade keepUpgrade name then []
      else headers.getAll name := by
  rw [stripHopByHop, HeaderMap.getAll_foldl_remove]
  simp only [List.mem_filter, List.mem_append, mem_hopByHop_iff, strips_iff]

end Names

/-- A message is stripped of all that belongs to its hop, and of nothing else, exactly when the
first `Connection` field says it all. -/
theorem stripHopByHop_leavesHop_iff (headers : HeaderMap) (keepUpgrade : Bool) :
    LeavesHop headers keepUpgrade (stripHopByHop headers keepUpgrade) ↔ ListedFirst headers := by
  constructor
  · intro hleaves name hlisted
    by_cases hhop : name.bytes ∈ HOP_BY_HOP_HEADERS
    · exact .inl hhop
    · -- None of the two kept headers is outside the eight, so this one had to go.
      have hupgrade : ¬ TellsUpgrade keepUpgrade name := by
        rintro ⟨-, rfl | rfl⟩
        · exact hhop (by decide)
        · exact hhop (by decide)
      have hgone := hleaves.removed name (.inr hlisted) hupgrade
      rw [getAll_stripHopByHop] at hgone
      by_cases hfirst : name ∈ connectionListed headers
      · exact .inr (.inl hfirst)
      · rw [if_neg (fun h => h.1.elim hhop hfirst)] at hgone
        exact .inr (.inr hgone)
  · intro hfirst
    constructor
    · intro name hhop hupgrade
      rw [getAll_stripHopByHop]
      rcases hhop with hhop | hlisted
      · exact if_pos ⟨.inl hhop, hupgrade⟩
      · rcases hfirst name hlisted with hhop | hlisted | hnone
        · exact if_pos ⟨.inl hhop, hupgrade⟩
        · exact if_pos ⟨.inr hlisted, hupgrade⟩
        · rw [hnone, ite_self]
    · intro name hkept
      rw [getAll_stripHopByHop]
      refine if_neg ?_
      rintro ⟨hgoes, hupgrade⟩
      have hhop : OfThisHop headers name := hgoes.imp_right mem_connectionNames_of_listed
      exact hkept.elim (fun h => h hhop) hupgrade

def xHop : HeaderName :=
  ⟨utf8 "x-hop", by decide +kernel, by decide +kernel, List.all_eq_true.mp (by decide +kernel)⟩

def twoConnectionFields : HeaderMap :=
  ((HeaderMap.empty.append .connection
      ⟨utf8 "keep-alive", List.all_eq_true.mp (by decide +kernel)⟩).append .connection
        ⟨utf8 "x-hop", List.all_eq_true.mp (by decide +kernel)⟩).append xHop
    ⟨utf8 "private", List.all_eq_true.mp (by decide +kernel)⟩

/-- The header of the second field crosses the relay. -/
theorem stripHopByHop_keeps_listed :
    ¬ ∀ (headers : HeaderMap) (keepUpgrade : Bool),
      LeavesHop headers keepUpgrade (stripHopByHop headers keepUpgrade) := by
  intro h
  have hgone := (h twoConnectionFields false).removed xHop (.inr (by decide +kernel)) (by decide)
  rw [getAll_stripHopByHop, if_neg (by decide +kernel)] at hgone
  exact absurd hgone (by decide +kernel)

end TermexoRelay
