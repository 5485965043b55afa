import TermexoRelay.Library.Text

/-!
# Internet addresses and networks

An address is its 32 or 128 bits. Texts are read and written the way the Rust standard library does
it: four decimal numbers without leading zeros, or eight groups of hexadecimal digits of which one
run of zeros may be left out and the last two may be written as four decimal numbers.
-/

inductive IpAddr where
  | v4 (bits : BitVec 32)
  | v6 (bits : BitVec 128)
deriving DecidableEq

/-- The addresses that share the first `length` bits with `bits`. -/
inductive IpNet where
  | v4 (bits : BitVec 32) (length : Nat)
  | v6 (bits : BitVec 128) (length : Nat)
deriving DecidableEq

def IpNet.contains : IpNet → IpAddr → Bool
  | .v4 net length, .v4 address => net >>> (32 - length) = address >>> (32 - length)
  | .v6 net length, .v6 address => net >>> (128 - length) = address >>> (128 - length)
  | _, _ => false

namespace IpAddr

/-! ## Reading -/

def toDigit (radix : Nat) (c : Char) : Option Nat :=
  let digit :=
    if '0' ≤ c ∧ c ≤ '9' then some (c.toNat - '0'.toNat)
    else if 'a' ≤ c ∧ c ≤ 'f' then some (c.toNat - 'a'.toNat + 10)
    else if 'A' ≤ c ∧ c ≤ 'F' then some (c.toNat - 'A'.toNat + 10)
    else none
  digit.filter (· < radix)

def readGivenChar (c : Char) : List Char → Option (List Char)
  | [] => none
  | x :: xs => if x = c then some xs else none

/-- A number of at most `maxDigits` digits, below `limit`, with what follows it. -/
def readNumber (radix maxDigits : Nat) (allowZeroPrefix : Bool) (limit : Nat) (s : List Char) :
    Option (Nat × List Char) :=
  let digits := (s.takeWhile fun c => (toDigit radix c).isSome).filterMap (toDigit radix)
  let number := digits.foldl (fun result digit => result * radix + digit) 0
  if digits = [] ∨ maxDigits < digits.length then none
  else if !allowZeroPrefix ∧ digits.head? = some 0 ∧ 1 < digits.length then none
  else if number < limit then some (number, s.drop digits.length)
  else none

def readOctet (s : List Char) : Option (Nat × List Char) := readNumber 10 3 false 256 s

def readIpv4 (s : List Char) : Option (List Nat × List Char) := do
  let (a, s) ← readOctet s
  let (b, s) ← (readGivenChar '.' s).bind readOctet
  let (c, s) ← (readGivenChar '.' s).bind readOctet
  let (d, s) ← (readGivenChar '.' s).bind readOctet
  return ([a, b, c, d], s)

/-- Up to `left` more groups, of which the last two may be four decimal numbers; the flag tells
whether they were. -/
def readGroups : Nat → List Nat → List Char → List Nat × Bool × List Char
  | 0, groups, s => (groups, false, s)
  | left + 1, groups, s =>
      let next := if groups = [] then some s else readGivenChar ':' s
      match if 0 < left then next.bind readIpv4 else none with
      | some ([a, b, c, d], s) => (groups ++ [a * 256 + b, c * 256 + d], true, s)
      | _ =>
          match next.bind (readNumber 16 4 true 65536) with
          | some (group, s) => readGroups left (groups ++ [group]) s
          | none => (groups, false, s)

def readIpv6 (s : List Char) : Option (List Nat × List Char) :=
  let (head, headIpv4, s) := readGroups 8 [] s
  if head.length = 8 then some (head, s)
  else if headIpv4 then none
  else do
    let s ← (readGivenChar ':' s).bind (readGivenChar ':')
    let (tail, _, s) := readGroups (8 - (head.length + 1)) [] s
    return (head ++ List.replicate (8 - head.length - tail.length) 0 ++ tail, s)

def ofOctets (octets : List Nat) : IpAddr :=
  .v4 (octets.foldl (fun bits octet => bits <<< 8 ||| BitVec.ofNat 32 octet) 0)

def ofSegments (segments : List Nat) : IpAddr :=
  .v6 (segments.foldl (fun bits segment => bits <<< 16 ||| BitVec.ofNat 128 segment) 0)

def parse (s : List Char) : Option IpAddr :=
  match readIpv4 s with
  | some (octets, rest) => if rest = [] then some (ofOctets octets) else none
  | none =>
      match readIpv6 s with
      | some (segments, rest) => if rest = [] then some (ofSegments segments) else none
      | none => none

/-! ## What a reader takes -/

/-- What was read before `rest` is all of one kind. -/
def Takes (P : Char → Prop) (s rest : List Char) : Prop :=
  ∃ used, s = used ++ rest ∧ ∀ c ∈ used, P c

section Takes

variable {P : Char → Prop} {s t rest : List Char}

theorem Takes.refl (s : List Char) : Takes P s s := ⟨[], rfl, by simp⟩

theorem Takes.trans (h : Takes P s t) (h' : Takes P t rest) : Takes P s rest := by
  obtain ⟨used, rfl, hused⟩ := h
  obtain ⟨used', rfl, hused'⟩ := h'
  refine ⟨used ++ used', (List.append_assoc ..).symm, fun c hc => ?_⟩
  exact (List.mem_append.mp hc).elim (hused c) (hused' c)

theorem Takes.all (h : Takes P s []) : ∀ c ∈ s, P c := by
  obtain ⟨used, rfl, hused⟩ := h
  rwa [List.append_nil]

theorem takes_readGivenChar {c : Char} (hc : P c) (h : readGivenChar c s = some rest) :
    Takes P s rest := by
  cases s with
  | nil => cases h
  | cons x xs =>
      rw [readGivenChar] at h
      split at h
      · next hx =>
          cases h
          refine ⟨[x], rfl, fun y hy => ?_⟩
          rwa [List.mem_singleton.mp hy, hx]
      · cases h

theorem takes_readNumber {radix maxDigits limit number : Nat} {allowZeroPrefix : Bool}
    (hdigit : ∀ c, (toDigit radix c).isSome = true → P c)
    (h : readNumber radix maxDigits allowZeroPrefix limit s = some (number, rest)) :
    Takes P s rest := by
  have hdigits : ∀ c ∈ s.takeWhile (fun c => (toDigit radix c).isSome),
      (toDigit radix c).isSome = true := fun c hc =>
    List.mem_takeWhile_imp (p := fun c => (toDigit radix c).isSome) hc
  have hlength : ((s.takeWhile fun c => (toDigit radix c).isSome).filterMap
      (toDigit radix)).length = (s.takeWhile fun c => (toDigit radix c).isSome).length :=
    List.filterMap_length_eq_length.mpr hdigits
  simp only [readNumber] at h
  split at h
  · cases h
  · split at h
    · cases h
    · split at h
      · cases h
        refine ⟨s.takeWhile fun c => (toDigit radix c).isSome, ?_, fun c hc =>
          hdigit c (hdigits c hc)⟩
        rw [hlength]
        exact (List.prefix_iff_eq_append.mp (List.takeWhile_prefix _)).symm
      · cases h

theorem takes_readIpv4 {octets : List Nat} (hdigit : ∀ c, (toDigit 10 c).isSome = true → P c)
    (hdot : P '.') (h : readIpv4 s = some (octets, rest)) : Takes P s rest := by
  have hnext : ∀ {s rest number}, (readGivenChar '.' s).bind readOctet = some (number, rest) →
      Takes P s rest := by
    intro s rest number h
    obtain ⟨t, hchar, hoctet⟩ := Option.bind_eq_some_iff.mp h
    exact (takes_readGivenChar hdot hchar).trans (takes_readNumber hdigit hoctet)
  obtain ⟨⟨a, s₁⟩, ha, h⟩ := Option.bind_eq_some_iff.mp h
  obtain ⟨⟨b, s₂⟩, hb, h⟩ := Option.bind_eq_some_iff.mp h
  obtain ⟨⟨c, s₃⟩, hc, h⟩ := Option.bind_eq_some_iff.mp h
  obtain ⟨⟨d, s₄⟩, hd, h⟩ := Option.bind_eq_some_iff.mp h
  cases h
  exact (((takes_readNumber hdigit ha).trans (hnext hb)).trans (hnext hc)).trans (hnext hd)

variable (hdigit : ∀ c, (toDigit 10 c).isSome = true → P c)
  (hhex : ∀ c, (toDigit 16 c).isSome = true → P c) (hdot : P '.') (hcolon : P ':')

include hdigit hhex hdot hcolon

theorem takes_readGroups (left : Nat) (groups : List Nat) (s : List Char) :
    Takes P s (readGroups left groups s).2.2 := by
  induction left generalizing groups s with
  | zero => exact Takes.refl s
  | succ left ih =>
      have hnext : ∀ t, (if groups = [] then some s else readGivenChar ':' s) = some t →
          Takes P s t := by
        intro t h
        split at h
        · cases h
          exact Takes.refl s
        · exact takes_readGivenChar hcolon h
      rw [readGroups]
      split
      · next a b c d rest hread =>
          split at hread
          · obtain ⟨t, ht, hread⟩ := Option.bind_eq_some_iff.mp hread
            exact (hnext t ht).trans (takes_readIpv4 hdigit hdot hread)
          · cases hread
      · split
        · next group rest hread =>
            obtain ⟨t, ht, hread⟩ := Option.bind_eq_some_iff.mp hread
            exact ((hnext t ht).trans (takes_readNumber hhex hread)).trans (ih _ rest)
        · exact Takes.refl s

theorem takes_readIpv6 {segments : List Nat} (h : readIpv6 s = some (segments, rest)) :
    Takes P s rest := by
  have hhead := takes_readGroups hdigit hhex hdot hcolon 8 [] s
  simp only [readIpv6] at h
  split at h
  · cases h
    exact hhead
  · split at h
    · cases h
    · obtain ⟨t, hcolons, h⟩ := Option.bind_eq_some_iff.mp h
      obtain ⟨u, hfirst, hsecond⟩ := Option.bind_eq_some_iff.mp hcolons
      cases h
      exact ((hhead.trans (takes_readGivenChar hcolon hfirst)).trans
        (takes_readGivenChar hcolon hsecond)).trans
        (takes_readGroups hdigit hhex hdot hcolon _ [] t)

theorem all_of_parse {address : IpAddr} (h : parse s = some address) : ∀ c ∈ s, P c := by
  rw [parse] at h
  split at h
  · next octets rest hread =>
      split at h
      · next hrest =>
          subst hrest
          exact (takes_readIpv4 hdigit hdot hread).all
      · cases h
  · split at h
    · next segments rest hread =>
        split at h
        · next hrest =>
            subst hrest
            exact (takes_readIpv6 hdigit hhex hdot hcolon hread).all
        · cases h
    · cases h

end Takes

theorem colon_not_mem_of_parse {s : List Char} {bits : BitVec 32}
    (h : parse s = some (.v4 bits)) : ':' ∉ s := by
  have hdigit : ∀ c, (toDigit 10 c).isSome = true → c ≠ ':' := by
    rintro c hc rfl
    exact absurd hc (by decide)
  rw [parse] at h
  split at h
  · next octets rest hread =>
      split at h
      · next hrest =>
          subst hrest
          exact fun hmem => (takes_readIpv4 hdigit (by decide) hread).all ':' hmem rfl
      · cases h
  · split at h
    · split at h
      · cases h
      · cases h
    · cases h

theorem brackets_not_mem_of_parse {s : List Char} {address : IpAddr}
    (h : parse s = some address) : '[' ∉ s ∧ ']' ∉ s := by
  have hplain : ∀ c ∈ s, c ≠ '[' ∧ c ≠ ']' := by
    refine all_of_parse ?_ ?_ (by decide) (by decide) h
    · intro c hc
      constructor <;> rintro rfl <;> exact absurd hc (by decide)
    · intro c hc
      constructor <;> rintro rfl <;> exact absurd hc (by decide)
  exact ⟨fun hmem => (hplain '[' hmem).1 rfl, fun hmem => (hplain ']' hmem).2 rfl⟩

/-! ## Writing -/

def octets (bits : BitVec 32) : List Nat :=
  [24, 16, 8, 0].map fun shift => (bits >>> shift).toNat % 256

def segments (bits : BitVec 128) : List Nat :=
  [112, 96, 80, 64, 48, 32, 16, 0].map fun shift => (bits >>> shift).toNat % 65536

def printIpv4 (octets : List Nat) : List Char :=
  ['.'].intercalate (octets.map (Nat.toDigits 10))

def printSegments (segments : List Nat) : List Char :=
  [':'].intercalate (segments.map (Nat.toDigits 16))

/-- Where the longest run of zeros starts and how long it is, the first of several. -/
def zeroes (segments : List Nat) : Nat × Nat :=
  (segments.zipIdx.foldl
    (fun (longest, current) (segment, index) =>
      if segment = 0 then
        let current := (if current.2 = 0 then index else current.1, current.2 + 1)
        (if longest.2 < current.2 then current else longest, current)
      else (longest, (0, 0)))
    ((0, 0), (0, 0))).1

def print : IpAddr → List Char
  | .v4 bits => printIpv4 (octets bits)
  | .v6 bits =>
      let segments := segments bits
      if segments.take 6 = [0, 0, 0, 0, 0, 65535] then
        "::ffff:".toList ++ printIpv4 (octets (bits.setWidth 32))
      else
        let (start, length) := zeroes segments
        if 1 < length then
          printSegments (segments.take start) ++ "::".toList ++
            printSegments (segments.drop (start + length))
        else printSegments segments

def isTextChar (c : Char) : Bool := c.isDigit || ('a' ≤ c && c ≤ 'f') || c = '.' || c = ':'

theorem toNat_of_isTextChar {c : Char} (h : isTextChar c = true) :
    46 ≤ c.toNat ∧ c.toNat < 103 := by
  simp only [isTextChar, Char.isDigit, Char.le_def, UInt32.le_iff_toNat_le, Bool.or_eq_true,
    Bool.and_eq_true, decide_eq_true_eq] at h
  rcases h with ((h | h) | rfl) | rfl
  · change 48 ≤ c.toNat ∧ c.toNat ≤ 57 at h
    omega
  · change 97 ≤ c.toNat ∧ c.toNat ≤ 102 at h
    omega
  · decide
  · decide

theorem isTextChar_digitChar {n : Nat} (h : n < 16) : isTextChar n.digitChar = true := by
  have hall : ∀ n < 16, isTextChar (Nat.digitChar n) = true := by decide
  exact hall n h

theorem isTextChar_of_mem_toDigits {radix n : Nat} {c : Char} (hone : 1 < radix)
    (hradix : radix ≤ 16) (h : c ∈ Nat.toDigits radix n) : isTextChar c = true := by
  induction n using Nat.strongRecOn with
  | ind n ih =>
      rw [Nat.toDigits_eq_if hone] at h
      split at h
      · next hsmall =>
          rw [List.mem_singleton.mp h]
          exact isTextChar_digitChar (Nat.lt_of_lt_of_le hsmall hradix)
      · next hlarge =>
          rcases List.mem_append.mp h with h | h
          · exact ih _ (Nat.div_lt_self (by omega) hone) h
          · rw [List.mem_singleton.mp h]
            have hdigit : n % radix < radix := Nat.mod_lt n (by omega)
            exact isTextChar_digitChar (Nat.lt_of_lt_of_le hdigit hradix)

theorem isTextChar_of_mem_join {separator c : Char} {radix : Nat} {numbers : List Nat}
    (hseparator : isTextChar separator = true) (hone : 1 < radix) (hradix : radix ≤ 16)
    (h : c ∈ [separator].intercalate (numbers.map (Nat.toDigits radix))) :
    isTextChar c = true := by
  rcases Text.mem_intercalate_cases h with h | ⟨piece, hpiece, hc⟩
  · rwa [List.mem_singleton.mp h]
  · obtain ⟨number, -, rfl⟩ := List.mem_map.mp hpiece
    exact isTextChar_of_mem_toDigits hone hradix hc

theorem isTextChar_of_mem_print {address : IpAddr} {c : Char} (h : c ∈ address.print) :
    isTextChar c = true := by
  have hv4 : ∀ {octets}, c ∈ printIpv4 octets → isTextChar c = true :=
    isTextChar_of_mem_join (by decide) (by decide) (by decide)
  have hv6 : ∀ {segments}, c ∈ printSegments segments → isTextChar c = true :=
    isTextChar_of_mem_join (by decide) (by decide) (by decide)
  cases address with
  | v4 bits => exact hv4 h
  | v6 bits =>
      simp only [print] at h
      split at h
      · rcases List.mem_append.mp h with h | h
        · exact List.all_eq_true.mp (by decide : "::ffff:".toList.all isTextChar = true) c h
        · exact hv4 h
      · split at h
        · rcases List.mem_append.mp h with h | h
          · rcases List.mem_append.mp h with h | h
            · exact hv6 h
            · exact List.all_eq_true.mp (by decide : "::".toList.all isTextChar = true) c h
          · exact hv6 h
        · exact hv6 h

end IpAddr

example : (IpAddr.parse "2001:db8::1".toList).map IpAddr.print = some "2001:db8::1".toList := by
  decide
example : (IpAddr.parse "0:0:0:0:0:ffff:10.0.0.1".toList).map IpAddr.print =
    some "::ffff:10.0.0.1".toList := by decide
example : IpAddr.parse "10.0.0.01".toList = none := by decide
