import TermexoRelay.Library.Text

/-!
# Bytes written as text

Percent-encoding, the parameters of a query, hexadecimal digits and base 64: how they are written,
how they are read, and that reading undoes writing.
-/

namespace Encoding

section Percent

def hexValue (b : UInt8) : Option UInt8 :=
  if 48 ≤ b && b ≤ 57 then some (b - 48)
  else if 65 ≤ b && b ≤ 70 then some (b - 55)
  else if 97 ≤ b && b ≤ 102 then some (b - 87)
  else none

def hexPair (high low : UInt8) : Option UInt8 :=
  (hexValue high).bind fun h => (hexValue low).map fun l => 16 * h + l

def hexDigit (value : UInt8) : UInt8 := if value < 10 then 48 + value else 55 + value

def percentEncode (keep : UInt8 → Bool) (bytes : List UInt8) : List UInt8 :=
  bytes.flatMap fun b => if keep b then [b] else [37, hexDigit (b / 16), hexDigit (b % 16)]

/-- Undoes percent-encoding. A percent sign without two digits stands for itself. -/
def percentDecode : List UInt8 → List UInt8
  | b :: high :: low :: rest =>
      match if b = 37 then hexPair high low else none with
      | some value => value :: percentDecode rest
      | none => b :: percentDecode (high :: low :: rest)
  | b :: rest => b :: percentDecode rest
  | [] => []

variable {keep : UInt8 → Bool}

theorem percentEncode_cons (b : UInt8) (rest : List UInt8) :
    percentEncode keep (b :: rest) =
      (if keep b then [b] else [37, hexDigit (b / 16), hexDigit (b % 16)]) ++
        percentEncode keep rest :=
  List.flatMap_cons

theorem percentDecode_cons_of_ne {b : UInt8} (hb : b ≠ 37) (rest : List UInt8) :
    percentDecode (b :: rest) = b :: percentDecode rest := by
  cases rest with
  | nil => simp [percentDecode]
  | cons high rest =>
      cases rest with
      | nil => simp [percentDecode]
      | cons low rest => rw [percentDecode, if_neg hb]

theorem percentDecode_escape {high low value : UInt8} (h : hexPair high low = some value)
    (rest : List UInt8) :
    percentDecode (37 :: high :: low :: rest) = value :: percentDecode rest := by
  rw [percentDecode, if_pos rfl, h]

theorem forall_byte {P : UInt8 → Prop} (h : ∀ n < 256, P (UInt8.ofNat n)) (b : UInt8) : P b := by
  have hb := h b.toNat b.toNat_lt
  rwa [UInt8.ofNat_toNat] at hb

theorem hexPair_hexDigit (b : UInt8) :
    hexPair (hexDigit (b / 16)) (hexDigit (b % 16)) = some b :=
  forall_byte (P := fun b => hexPair (hexDigit (b / 16)) (hexDigit (b % 16)) = some b)
    (by decide +kernel) b

/-- Decoding undoes encoding, whatever else is kept, as long as the percent sign is not. -/
theorem percentDecode_percentEncode (hkeep : keep 37 = false) (bytes : List UInt8) :
    percentDecode (percentEncode keep bytes) = bytes := by
  induction bytes with
  | nil => rfl
  | cons b rest ih =>
      rw [percentEncode_cons]
      split
      · next hb =>
          have hne : b ≠ 37 := by
            rintro rfl
            rw [hkeep] at hb
            cases hb
          rw [List.singleton_append, percentDecode_cons_of_ne hne, ih]
      · rw [List.cons_append, List.cons_append, List.singleton_append,
          percentDecode_escape (hexPair_hexDigit b), ih]

theorem percentEncode_injective (hkeep : keep 37 = false) :
    Function.Injective (percentEncode keep) :=
  Function.LeftInverse.injective (percentDecode_percentEncode hkeep)

theorem mem_percentEncode_cases {bytes : List UInt8} {b : UInt8}
    (h : b ∈ percentEncode keep bytes) :
    keep b = true ∨ b = 37 ∨ ∃ value < 16, b = hexDigit value := by
  obtain ⟨a, -, hb⟩ := List.mem_flatMap.mp h
  split at hb
  · next ha =>
      rw [List.mem_singleton.mp hb]
      exact .inl ha
  · have hhigh : a / 16 < 16 := by
      have hbyte : a.toNat < 256 := a.toNat_lt
      rw [UInt8.lt_iff_toNat_lt, UInt8.toNat_div]
      simp only [UInt8.reduceToNat]
      omega
    have hlow : a % 16 < 16 := by
      rw [UInt8.lt_iff_toNat_lt, UInt8.toNat_mod]
      simp only [UInt8.reduceToNat]
      omega
    simp only [List.mem_cons, List.not_mem_nil, or_false] at hb
    rcases hb with rfl | rfl | rfl
    · exact .inr (.inl rfl)
    · exact .inr (.inr ⟨a / 16, hhigh, rfl⟩)
    · exact .inr (.inr ⟨a % 16, hlow, rfl⟩)

theorem forall_hexDigit {P : UInt8 → Prop} (h : ∀ n < 16, P (hexDigit (UInt8.ofNat n)))
    {value : UInt8} (hvalue : value < 16) : P (hexDigit value) := by
  have hdigit := h value.toNat (UInt8.lt_iff_toNat_lt.mp hvalue)
  rwa [UInt8.ofNat_toNat] at hdigit

theorem percentDecode_eq_self {bytes : List UInt8} (h : 37 ∉ bytes) :
    percentDecode bytes = bytes := by
  induction bytes with
  | nil => rfl
  | cons b rest ih =>
      rw [List.mem_cons, not_or] at h
      rw [percentDecode_cons_of_ne (Ne.symm h.1), ih h.2]

end Percent

section Query

/-- The path and the query of an address without a host; a fragment belongs to neither. -/
def pathAndQuery (address : List UInt8) : List UInt8 × Option (List UInt8) :=
  let address := address.takeWhile fun b => b ≠ 35
  match Text.splitOnce 63 address with
  | some (path, query) => (path, some query)
  | none => (address, none)

def queryParameters (query : List UInt8) : List (List UInt8 × List UInt8) :=
  (query.splitOn 38).map fun parameter =>
    match Text.splitOnce 61 parameter with
    | some (name, value) => (percentDecode name, percentDecode value)
    | none => (percentDecode parameter, [])

theorem pathAndQuery_append {path query : List UInt8} (hfragment : 35 ∉ path ++ 63 :: query)
    (hpath : 63 ∉ path) : pathAndQuery (path ++ 63 :: query) = (path, some query) := by
  have hwhole : (path ++ 63 :: query).takeWhile (fun b => b ≠ 35) = path ++ 63 :: query := by
    rw [List.takeWhile_eq_self_iff]
    intro b hb
    refine decide_eq_true ?_
    rintro rfl
    exact hfragment hb
  have hsplit : Text.splitOnce 63 (path ++ 63 :: query) = some (path, query) :=
    Text.splitOnce_eq_some.mpr ⟨rfl, hpath⟩
  rw [pathAndQuery, hwhole, hsplit]

theorem queryParameters_single {name value : List UInt8}
    (hsingle : 38 ∉ name ++ 61 :: value) (hname : 61 ∉ name) :
    queryParameters (name ++ 61 :: value) = [(percentDecode name, percentDecode value)] := by
  have hsplit : Text.splitOnce 61 (name ++ 61 :: value) = some (name, value) :=
    Text.splitOnce_eq_some.mpr ⟨rfl, hname⟩
  rw [queryParameters, List.splitOn_eq_singleton hsingle, List.map_singleton, hsplit]

end Query

section Hexadecimal

def HEXUPPER : List Char := "0123456789ABCDEF".toList
def HEXLOWER : List Char := "0123456789abcdef".toList

def hexEncode (alphabet : List Char) (bytes : List UInt8) : List Char :=
  bytes.flatMap fun b => [alphabet.getD (b.toNat / 16) '0', alphabet.getD (b.toNat % 16) '0']

theorem length_hexEncode (alphabet : List Char) (bytes : List UInt8) :
    (hexEncode alphabet bytes).length = 2 * bytes.length := by
  rw [hexEncode, List.length_flatMap]
  simp [Nat.mul_comm]

theorem forall_mem_hexEncode {P : Char → Prop} {alphabet : List Char}
    (h : ∀ n < 16, P (alphabet.getD n '0')) {bytes : List UInt8} :
    ∀ c ∈ hexEncode alphabet bytes, P c := by
  intro c hc
  obtain ⟨b, -, hc⟩ := List.mem_flatMap.mp hc
  have hbyte : b.toNat < 256 := b.toNat_lt
  rcases List.mem_cons.mp hc with rfl | hc
  · exact h _ (by omega)
  · rw [List.mem_singleton.mp hc]
    exact h _ (by omega)

theorem map_hexEncode {f : Char → Char} {alphabet alphabet' : List Char}
    (h : ∀ n < 16, f (alphabet.getD n '0') = alphabet'.getD n '0') (bytes : List UInt8) :
    (hexEncode alphabet bytes).map f = hexEncode alphabet' bytes := by
  rw [hexEncode, List.map_flatMap, hexEncode]
  refine List.flatMap_congr fun b _ => ?_
  have hbyte : b.toNat < 256 := b.toNat_lt
  rw [List.map_cons, List.map_singleton, h _ (by omega), h _ (by omega)]

end Hexadecimal

section Base64

def BASE64 : List Char :=
  "ABCDEFGHIJKLMNOPQRSTUVWXYZabcdefghijklmnopqrstuvwxyz0123456789+/".toList

def symbol (value : Nat) : Char := BASE64.getD value '='

def base64Encode : List UInt8 → List Char
  | [] => []
  | [a] => [symbol (a.toNat / 4), symbol (a.toNat % 4 * 16), '=', '=']
  | [a, b] =>
      [symbol (a.toNat / 4), symbol (a.toNat % 4 * 16 + b.toNat / 16), symbol (b.toNat % 16 * 4),
        '=']
  | a :: b :: c :: rest =>
      symbol (a.toNat / 4) :: symbol (a.toNat % 4 * 16 + b.toNat / 16) ::
        symbol (b.toNat % 16 * 4 + c.toNat / 64) :: symbol (c.toNat % 64) :: base64Encode rest

def symbolValue (c : Char) : Option Nat := BASE64.idxOf? c

/-- The bytes of four symbols. Bits that padding leaves over are zero. -/
def base64Block (w x y z : Char) : Option (List UInt8) := do
  let p ← symbolValue w
  let q ← symbolValue x
  if y = '=' then
    if z = '=' ∧ q % 16 = 0 then some [UInt8.ofNat (p * 4 + q / 16)] else none
  else
    let r ← symbolValue y
    if z = '=' then
      if r % 4 = 0 then
        some [UInt8.ofNat (p * 4 + q / 16), UInt8.ofNat (q % 16 * 16 + r / 4)]
      else none
    else
      let s ← symbolValue z
      some [UInt8.ofNat (p * 4 + q / 16), UInt8.ofNat (q % 16 * 16 + r / 4),
        UInt8.ofNat (r % 4 * 64 + s)]

def base64Decode : List Char → Option (List UInt8)
  | [] => some []
  | w :: x :: y :: z :: rest =>
      (base64Block w x y z).bind fun block => (base64Decode rest).map (block ++ ·)
  | _ => none

def isBase64Char (c : Char) : Bool := c ∈ BASE64 || c = '='

theorem symbolValue_symbol {value : Nat} (h : value < 64) :
    symbolValue (symbol value) = some value ∧ symbol value ≠ '=' := by
  have hall : ∀ value < 64, symbolValue (symbol value) = some value ∧ symbol value ≠ '=' := by
    decide +kernel
  exact hall value h

theorem isBase64Char_symbol {value : Nat} (h : value < 64) :
    isBase64Char (symbol value) = true := by
  have hall : ∀ value < 64, isBase64Char (symbol value) = true := by decide +kernel
  exact hall value h

section Block

variable {p q r s : Nat}

theorem base64Block_three (hp : p < 64) (hq : q < 64) (hr : r < 64) (hs : s < 64) :
    base64Block (symbol p) (symbol q) (symbol r) (symbol s) =
      some [UInt8.ofNat (p * 4 + q / 16), UInt8.ofNat (q % 16 * 16 + r / 4),
        UInt8.ofNat (r % 4 * 64 + s)] := by
  simp [base64Block, symbolValue_symbol hp, symbolValue_symbol hq, symbolValue_symbol hr,
    symbolValue_symbol hs]

theorem base64Block_two (hp : p < 64) (hq : q < 64) (hr : r < 64) (hrest : r % 4 = 0) :
    base64Block (symbol p) (symbol q) (symbol r) '=' =
      some [UInt8.ofNat (p * 4 + q / 16), UInt8.ofNat (q % 16 * 16 + r / 4)] := by
  simp [base64Block, symbolValue_symbol hp, symbolValue_symbol hq, symbolValue_symbol hr, hrest]

theorem base64Block_one (hp : p < 64) (hq : q < 64) (hrest : q % 16 = 0) :
    base64Block (symbol p) (symbol q) '=' '=' = some [UInt8.ofNat (p * 4 + q / 16)] := by
  simp [base64Block, symbolValue_symbol hp, symbolValue_symbol hq, hrest]

end Block

theorem ofNat_eq_of_toNat {n : Nat} {b : UInt8} (h : n = b.toNat) : UInt8.ofNat n = b := by
  rw [h, UInt8.ofNat_toNat]

theorem base64Decode_base64Encode (bytes : List UInt8) :
    base64Decode (base64Encode bytes) = some bytes := by
  fun_induction base64Encode bytes with
  | case1 => rfl
  | case2 a =>
      have ha : a.toNat < 256 := a.toNat_lt
      rw [base64Decode, base64Block_one (by omega) (by omega) (by omega), base64Decode]
      have hfirst : a.toNat / 4 * 4 + a.toNat % 4 * 16 / 16 = a.toNat := by omega
      rw [ofNat_eq_of_toNat hfirst]
      rfl
  | case3 a b =>
      have ha : a.toNat < 256 := a.toNat_lt
      have hb : b.toNat < 256 := b.toNat_lt
      rw [base64Decode, base64Block_two (by omega) (by omega) (by omega) (by omega), base64Decode]
      have hfirst : a.toNat / 4 * 4 + (a.toNat % 4 * 16 + b.toNat / 16) / 16 = a.toNat := by omega
      have hsecond : (a.toNat % 4 * 16 + b.toNat / 16) % 16 * 16 + b.toNat % 16 * 4 / 4 =
          b.toNat := by omega
      rw [ofNat_eq_of_toNat hfirst, ofNat_eq_of_toNat hsecond]
      rfl
  | case4 a b c rest ih =>
      have ha : a.toNat < 256 := a.toNat_lt
      have hb : b.toNat < 256 := b.toNat_lt
      have hc : c.toNat < 256 := c.toNat_lt
      rw [base64Decode, base64Block_three (by omega) (by omega) (by omega) (by omega),
        Option.bind_some, ih, Option.map_some]
      have hfirst : a.toNat / 4 * 4 + (a.toNat % 4 * 16 + b.toNat / 16) / 16 = a.toNat := by omega
      have hsecond : (a.toNat % 4 * 16 + b.toNat / 16) % 16 * 16 +
          (b.toNat % 16 * 4 + c.toNat / 64) / 4 = b.toNat := by omega
      have hthird : (b.toNat % 16 * 4 + c.toNat / 64) % 4 * 64 + c.toNat % 64 = c.toNat := by omega
      rw [ofNat_eq_of_toNat hfirst, ofNat_eq_of_toNat hsecond, ofNat_eq_of_toNat hthird]
      rfl

theorem isBase64Char_of_mem {bytes : List UInt8} {c : Char} (h : c ∈ base64Encode bytes) :
    isBase64Char c = true := by
  have hpad : isBase64Char '=' = true := by decide
  have hbyte : ∀ b : UInt8, b.toNat < 256 := fun b => b.toNat_lt
  fun_induction base64Encode bytes with
  | case1 => cases h
  | case2 a =>
      have ha := hbyte a
      simp only [List.mem_cons, List.not_mem_nil, or_false] at h
      rcases h with rfl | rfl | rfl | rfl
      · exact isBase64Char_symbol (by omega)
      · exact isBase64Char_symbol (by omega)
      · exact hpad
      · exact hpad
  | case3 a b =>
      have ha := hbyte a
      have hb := hbyte b
      simp only [List.mem_cons, List.not_mem_nil, or_false] at h
      rcases h with rfl | rfl | rfl | rfl
      · exact isBase64Char_symbol (by omega)
      · exact isBase64Char_symbol (by omega)
      · exact isBase64Char_symbol (by omega)
      · exact hpad
  | case4 a b c rest ih =>
      have ha := hbyte a
      have hb := hbyte b
      have hc := hbyte c
      simp only [List.mem_cons] at h
      rcases h with rfl | rfl | rfl | rfl | h
      · exact isBase64Char_symbol (by omega)
      · exact isBase64Char_symbol (by omega)
      · exact isBase64Char_symbol (by omega)
      · exact isBase64Char_symbol (by omega)
      · exact ih h

theorem length_base64Encode (bytes : List UInt8) : (base64Encode bytes).length % 4 = 0 := by
  fun_induction base64Encode bytes with
  | case1 => simp
  | case2 a => simp
  | case3 a b => simp
  | case4 a b c rest ih =>
      simp only [List.length_cons]
      omega

end Base64

end Encoding
