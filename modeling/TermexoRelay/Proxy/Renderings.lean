import TermexoRelay.Proxy.Forwarded

/-!
# How a proxy renders its client's address

An address stands in a forwarding chain as it is, in brackets, or with a port behind it. The reader
takes brackets off both ends, however many there are, and knows no port.
-/

namespace TermexoRelay

/-- The texts a proxy may write for an address: any spelling of it, bare or in brackets, and with a
port in the way its family is written with one. -/
inductive IsRendering : IpAddr → List Char → Prop
  | plain {address text} (h : IpAddr.parse text = some address) : IsRendering address text
  | bracketed {address text} (h : IpAddr.parse text = some address) :
      IsRendering address ('[' :: (text ++ [']']))
  | bracketedPort {bits text port} (h : IpAddr.parse text = some (.v6 bits))
      (hport : port < 65536) :
      IsRendering (.v6 bits) ('[' :: (text ++ ']' :: ':' :: Nat.toDigits 10 port))
  | port {bits text port} (h : IpAddr.parse text = some (.v4 bits)) (hport : port < 65536) :
      IsRendering (.v4 bits) (text ++ ':' :: Nat.toDigits 10 port)

def firstListed (value : Bytes) : List Char :=
  asciiChars (Text.trim isSpace (value.takeWhile (· ≠ COMMA)))

def HasPort (entry : List Char) : Prop :=
  ∃ text port, port < 65536 ∧
    ((∃ bits, IpAddr.parse text = some (.v6 bits) ∧
        entry = '[' :: (text ++ ']' :: ':' :: Nat.toDigits 10 port)) ∨
      ∃ bits, IpAddr.parse text = some (.v4 bits) ∧ entry = text ++ ':' :: Nat.toDigits 10 port)

def HasOddBrackets (entry : List Char) : Prop :=
  ∃ opening closing text, (IpAddr.parse text).isSome = true ∧
    entry = List.replicate opening '[' ++ text ++ List.replicate closing ']' ∧
    ¬ (opening = closing ∧ opening ≤ 1)

def unbracketed (entry : List Char) : List Char :=
  (entry.dropWhile (· = '[')).rdropWhile (· = ']')

section Brackets

variable {entry text : List Char} {address : IpAddr}

theorem exists_brackets (entry : List Char) : ∃ opening closing,
    entry = List.replicate opening '[' ++ unbracketed entry ++ List.replicate closing ']' := by
  set opening := entry.takeWhile (· = '[') with hopening
  set closing := (entry.dropWhile (· = '[')).rtakeWhile (· = ']') with hclosing
  have hopens : opening = List.replicate opening.length '[' := by
    rw [List.eq_replicate_length]
    intro c hc
    exact of_decide_eq_true (List.mem_takeWhile_imp (p := (· = '[')) hc)
  have hcloses : closing = List.replicate closing.length ']' := by
    rw [List.eq_replicate_length]
    intro c hc
    exact of_decide_eq_true (List.mem_rtakeWhile_imp (p := (· = ']')) hc)
  refine ⟨opening.length, closing.length, ?_⟩
  rw [← hopens, ← hcloses, unbracketed, List.append_assoc, hclosing,
    List.rdropWhile_append_rtakeWhile, hopening, List.takeWhile_append_dropWhile]

theorem parse_ne_nil (h : IpAddr.parse text = some address) : text ≠ [] := by
  rintro rfl
  exact absurd h (by simp [show IpAddr.parse [] = none by decide])

theorem dropWhile_address (h : IpAddr.parse text = some address) (rest : List Char) :
    (text ++ rest).dropWhile (· = '[') = text ++ rest := by
  cases text with
  | nil => exact absurd rfl (parse_ne_nil h)
  | cons c text =>
      have hc : c ≠ '[' := fun hc =>
        (IpAddr.brackets_not_mem_of_parse h).1 (hc ▸ List.mem_cons_self)
      rw [List.cons_append, List.dropWhile_cons_of_neg (by simp [hc])]

theorem rdropWhile_address (h : IpAddr.parse text = some address) (closing : Nat) :
    (text ++ List.replicate closing ']').rdropWhile (· = ']') = text := by
  have hcloses : ∀ c ∈ List.replicate closing ']', decide (c = ']') = true := fun c hc =>
    decide_eq_true (List.eq_of_mem_replicate hc)
  have htext : text.rdropWhile (· = ']') = text := by
    rw [List.rdropWhile_eq_self_iff]
    intro hne hc
    have hlast : text.getLast hne = ']' := of_decide_eq_true hc
    exact (IpAddr.brackets_not_mem_of_parse h).2 (hlast ▸ List.getLast_mem hne)
  rw [List.rdropWhile, List.reverse_append, List.reverse_replicate,
    List.dropWhile_append_of_pos hcloses]
  exact htext

theorem unbracketed_brackets (h : IpAddr.parse text = some address) (opening closing : Nat) :
    unbracketed (List.replicate opening '[' ++ text ++ List.replicate closing ']') = text := by
  have hopens : ∀ c ∈ List.replicate opening '[', decide (c = '[') = true := fun c hc =>
    decide_eq_true (List.eq_of_mem_replicate hc)
  rw [unbracketed, List.append_assoc, List.dropWhile_append_of_pos hopens, dropWhile_address h,
    rdropWhile_address h]

theorem unbracketed_bracketedPort (h : IpAddr.parse text = some address) (port : List Char) :
    ']' ∈ unbracketed ('[' :: (text ++ ']' :: ':' :: port)) := by
  rw [unbracketed, List.dropWhile_cons_of_pos (by decide), dropWhile_address h,
    List.append_cons text ']' (':' :: port),
    Text.rdropWhile_append_cons (fun c => decide (c = ']')) _ _ (by decide)]
  simp

theorem unbracketed_port (h : IpAddr.parse text = some address) (port : List Char) :
    ':' ∈ unbracketed (text ++ ':' :: port) := by
  rw [unbracketed, dropWhile_address h,
    Text.rdropWhile_append_cons (fun c => decide (c = ']')) _ _ (by decide)]
  simp

theorem parse_unbracketed_ne_of_port {text port : List Char} {bits : BitVec 32}
    (h : IpAddr.parse text = some (.v4 bits)) :
    IpAddr.parse (unbracketed (text ++ ':' :: port)) ≠ some (.v4 bits) := fun hparse =>
  IpAddr.colon_not_mem_of_parse hparse (unbracketed_port h port)

theorem parse_unbracketed_ne_of_bracketedPort (h : IpAddr.parse text = some address)
    (port : List Char) :
    IpAddr.parse (unbracketed ('[' :: (text ++ ']' :: ':' :: port))) ≠ some address :=
  fun hparse => (IpAddr.brackets_not_mem_of_parse hparse).2 (unbracketed_bracketedPort h port)

theorem count_brackets (h : IpAddr.parse text = some address) (opening closing : Nat) :
    (List.replicate opening '[' ++ text ++ List.replicate closing ']').count '[' = opening ∧
      (List.replicate opening '[' ++ text ++ List.replicate closing ']').count ']' = closing := by
  obtain ⟨hopen, hclose⟩ := IpAddr.brackets_not_mem_of_parse h
  simp [List.count_append, List.count_replicate, List.count_eq_zero_of_not_mem hopen,
    List.count_eq_zero_of_not_mem hclose]

end Brackets

theorem brackets_asciiChars (b : UInt8) :
    decide (Char.ofNat b.toNat = '[') = decide (b = OPENING_BRACKET) ∧
      decide (Char.ofNat b.toNat = ']') = decide (b = CLOSING_BRACKET) :=
  Encoding.forall_byte
    (P := fun b => decide (Char.ofNat b.toNat = '[') = decide (b = OPENING_BRACKET) ∧
      decide (Char.ofNat b.toNat = ']') = decide (b = CLOSING_BRACKET)) (by decide +kernel) b

theorem unbracketed_asciiChars (entry : Bytes) :
    unbracketed (asciiChars entry) = asciiChars
      ((entry.dropWhile (· = OPENING_BRACKET)).rdropWhile (· = CLOSING_BRACKET)) := by
  have hopening : ((fun c => decide (c = '[')) ∘ fun b : UInt8 => Char.ofNat b.toNat) =
      fun b => decide (b = OPENING_BRACKET) :=
    funext fun b => (brackets_asciiChars b).1
  have hclosing : ((fun c => decide (c = ']')) ∘ fun b : UInt8 => Char.ofNat b.toNat) =
      fun b => decide (b = CLOSING_BRACKET) :=
    funext fun b => (brackets_asciiChars b).2
  rw [unbracketed, asciiChars, asciiChars, List.dropWhile_map, List.rdropWhile, ← List.map_reverse,
    List.dropWhile_map, hopening, hclosing, ← List.map_reverse, List.rdropWhile]

theorem firstForwardedAddress_eq (value : Bytes) :
    firstForwardedAddress value = IpAddr.parse (unbracketed (firstListed value)) := by
  rw [firstForwardedAddress, Text.head?_splitOn, Option.bind_some, forwardedEntry, firstListed,
    unbracketed_asciiChars]

section Readings

variable {entry text : List Char} {address : IpAddr}

theorem not_hasPort_of_reads
    (h : ∀ address, IsRendering address entry → IpAddr.parse (unbracketed entry) = some address) :
    ¬ HasPort entry := by
  rintro ⟨text, port, hbound, ⟨bits, hparse, rfl⟩ | ⟨bits, hparse, rfl⟩⟩
  · exact parse_unbracketed_ne_of_bracketedPort hparse _ (h _ (.bracketedPort hparse hbound))
  · exact parse_unbracketed_ne_of_port hparse (h _ (.port hparse hbound))

/-- Brackets around an address make a rendering without a port only as one pair. -/
theorem brackets_of_isRendering {opening closing : Nat} (hparse : IpAddr.parse text = some address)
    (hport : ¬ HasPort (List.replicate opening '[' ++ text ++ List.replicate closing ']'))
    (h : IsRendering address (List.replicate opening '[' ++ text ++ List.replicate closing ']')) :
    opening = closing ∧ opening ≤ 1 := by
  have hcount := count_brackets hparse opening closing
  revert hport h hcount
  generalize List.replicate opening '[' ++ text ++ List.replicate closing ']' = entry
  rintro hport hrendering ⟨hopens, hcloses⟩
  cases hrendering with
  | plain h =>
      obtain ⟨hopen, hclose⟩ := IpAddr.brackets_not_mem_of_parse h
      rw [List.count_eq_zero_of_not_mem hopen] at hopens
      rw [List.count_eq_zero_of_not_mem hclose] at hcloses
      omega
  | bracketed h =>
      have hone := count_brackets h 1 1
      simp only [List.replicate_one, List.cons_append, List.nil_append] at hone
      omega
  | bracketedPort h hbound => exact absurd ⟨_, _, hbound, .inl ⟨_, h, rfl⟩⟩ hport
  | port h hbound => exact absurd ⟨_, _, hbound, .inr ⟨_, h, rfl⟩⟩ hport

theorem isRendering_of_parse (hodd : ¬ HasOddBrackets entry)
    (hparse : IpAddr.parse (unbracketed entry) = some address) : IsRendering address entry := by
  obtain ⟨opening, closing, hentry⟩ := exists_brackets entry
  have heven : opening = closing ∧ opening ≤ 1 := by
    by_contra h
    exact hodd ⟨opening, closing, _, Option.isSome_of_eq_some hparse, hentry, h⟩
  obtain ⟨rfl, hle⟩ := heven
  rw [hentry]
  obtain rfl | rfl : opening = 0 ∨ opening = 1 := by omega
  · simp only [List.replicate_zero, List.nil_append, List.append_nil]
    exact .plain hparse
  · exact .bracketed hparse

theorem parse_of_isRendering (hport : ¬ HasPort entry) (h : IsRendering address entry) :
    IpAddr.parse (unbracketed entry) = some address := by
  cases h with
  | plain h =>
      have hbare := unbracketed_brackets h 0 0
      simp only [List.replicate_zero, List.nil_append, List.append_nil] at hbare
      rwa [hbare]
  | bracketed h =>
      have hpair := unbracketed_brackets h 1 1
      simp only [List.replicate_one, List.cons_append, List.nil_append] at hpair
      rwa [hpair]
  | bracketedPort h hbound => exact absurd ⟨_, _, hbound, .inl ⟨_, h, rfl⟩⟩ hport
  | port h hbound => exact absurd ⟨_, _, hbound, .inr ⟨_, h, rfl⟩⟩ hport

end Readings

/-- The address in front of a chain is read, and nothing is read for an entry that is none, exactly
when the entry has no port and no brackets that are not one pair. -/
theorem firstForwardedAddress_rendering_iff (value : Bytes) :
    (∀ address, firstForwardedAddress value = some address ↔
        IsRendering address (firstListed value)) ↔
      ¬ HasPort (firstListed value) ∧ ¬ HasOddBrackets (firstListed value) := by
  rw [firstForwardedAddress_eq]
  generalize firstListed value = entry
  constructor
  · intro h
    have hport : ¬ HasPort entry := not_hasPort_of_reads fun address => (h address).mpr
    refine ⟨hport, ?_⟩
    rintro ⟨opening, closing, text, haddress, rfl, hodd⟩
    obtain ⟨address, hparse⟩ := Option.isSome_iff_exists.mp haddress
    apply hodd
    apply brackets_of_isRendering hparse hport
    rw [← h, unbracketed_brackets hparse, hparse]
  · rintro ⟨hport, hodd⟩ address
    exact ⟨isRendering_of_parse hodd, parse_of_isRendering hport⟩

/-- An entry with a port counts as no address at all. -/
theorem firstForwardedAddress_port :
    ¬ ∀ value address, firstForwardedAddress value = some address ↔
      IsRendering address (firstListed value) := by
  intro h
  have hrendering : IsRendering (.v6 1) (firstListed (utf8 "[::1]:4711, 10.0.0.1")) := by
    have htext : firstListed (utf8 "[::1]:4711, 10.0.0.1") =
        '[' :: ("::1".toList ++ ']' :: ':' :: Nat.toDigits 10 4711) := by decide
    rw [htext]
    exact .bracketedPort (by decide) (by decide)
  exact absurd ((h _ _).mpr hrendering) (by decide)

end TermexoRelay
