import TermexoRelay.Http.Headers
import TermexoRelay.Library.Encoding

/-!
# Certificate fingerprints

A relay prints the digest of its certificate in groups of upper case digits, computed from the PEM
file. An operator pastes it at another relay, which brings it back to the lower case digits it
computes itself from the certificate of a connection.
-/

namespace TermexoRelay

def CERTIFICATE_PEM_HEADER : List Char := "-----BEGIN CERTIFICATE-----".toList
def CERTIFICATE_PEM_FOOTER : List Char := "-----END CERTIFICATE-----".toList

def MALFORMED_FINGERPRINT : String :=
  "证书指纹必须是 SHA-256 的 64 位十六进制值，可以带冒号分隔，不区分大小写。"

def FINGERPRINT_LENGTH : Nat := 64

def FINGERPRINT_GROUP_SEPARATOR : Char := ':'

/-- What is relied on of the crates a fingerprint is made with. -/
structure FingerprintCrates where
  sha256 : Bytes → Bytes
  sha256_length : ∀ bytes, (sha256 bytes).length = 32
  base64Decode : List Char → Option Bytes
  base64Decode_encode : ∀ bytes, base64Decode (Encoding.base64Encode bytes) = some bytes

def fromUtf8 (bytes : Bytes) : Option String := String.fromUTF8? ⟨bytes.toArray⟩

def digitPairs : List Char → List (List Char)
  | a :: b :: rest => [a, b] :: digitPairs rest
  | [a] => [[a]]
  | [] => []

/-- The text between the first header and the first footer, without white space. -/
def pemBody (text : List Char) : Option (List Char) :=
  match Text.find CERTIFICATE_PEM_HEADER text, Text.find CERTIFICATE_PEM_FOOTER text with
  | some header, some footer =>
      let start := header + CERTIFICATE_PEM_HEADER.length
      if start ≤ footer then
        some (((text.drop start).take (footer - start)).filter fun c => !Text.isWhitespace c)
      else none
  | _, _ => none

/-- The fingerprint a relay prints, from its PEM file. -/
def certificateFingerprint (crates : FingerprintCrates) (certificatePem : Bytes) :
    Option String := do
  let text ← fromUtf8 certificatePem
  let body ← pemBody text.toList
  let der ← crates.base64Decode body
  return String.ofList ([':'].intercalate
    (digitPairs (Encoding.hexEncode Encoding.HEXUPPER (crates.sha256 der))))

/-- The fingerprint of the certificate of a connection. -/
def pinnedFingerprint (crates : FingerprintCrates) (certificate : Bytes) : String :=
  String.ofList (Encoding.hexEncode Encoding.HEXLOWER (crates.sha256 certificate))

/-- Reduces a pasted digest to the one spelling the settings store. -/
def normalizeFingerprint (lowercase : Text.CharLowercase) (value : String) :
    Except String String :=
  let normalized := String.ofList
    (((Text.trim Text.isWhitespace value.toList).filter
      (· ≠ FINGERPRINT_GROUP_SEPARATOR)).flatMap lowercase.apply)
  if (utf8 normalized).length ≠ FINGERPRINT_LENGTH ∨ !normalized.toList.all Char.isHexDigit then
    .error MALFORMED_FINGERPRINT
  else .ok normalized

/-- What a pasted text is taken for. -/
def pastedDigits (value : String) : List Char :=
  (Text.trim Text.isWhitespace value.toList).filter (· ≠ ':')

/-- A PEM file: the certificate's base 64 in lines of any length, and more behind it. -/
structure PemFile (der : Bytes) where
  body : List Char
  rest : List Char
  encoded : body.filter (fun c => !Text.isWhitespace c) = Encoding.base64Encode der

def PemFile.bytes {der : Bytes} (pem : PemFile der) : Bytes :=
  utf8 (String.ofList
    (CERTIFICATE_PEM_HEADER ++ pem.body ++ (CERTIFICATE_PEM_FOOTER ++ pem.rest)))

theorem fromUtf8_utf8 (text : String) : fromUtf8 (utf8 text) = some text := by
  have hbytes : (⟨(utf8 text).toArray⟩ : ByteArray) = text.toByteArray :=
    ByteArray.ext Array.toArray_toList
  rw [fromUtf8, hbytes, String.fromUTF8?, dif_pos text.isValidUTF8]
  rfl

/-! ## What a relay prints -/

section Printed

variable {body rest : List Char}

theorem dash_not_mem_of_encoded {der : Bytes}
    (h : body.filter (fun c => !Text.isWhitespace c) = Encoding.base64Encode der) :
    '-' ∉ body := by
  intro hdash
  have hkept : '-' ∈ body.filter fun c => !Text.isWhitespace c :=
    List.mem_filter.mpr ⟨hdash, by decide⟩
  rw [h] at hkept
  exact absurd (Encoding.isBase64Char_of_mem hkept) (by decide)

theorem header_suffix {first last : List Char} (hsplit : CERTIFICATE_PEM_HEADER = first ++ last)
    (hlast : last ≠ []) :
    (6 ≤ last.length ∧ last.take 6 ≠ CERTIFICATE_PEM_FOOTER.take 6) ∨
      ∃ n < 5, last = List.replicate (n + 1) '-' := by
  have hall : ∀ i < 27, (6 ≤ (CERTIFICATE_PEM_HEADER.drop i).length ∧
      (CERTIFICATE_PEM_HEADER.drop i).take 6 ≠ CERTIFICATE_PEM_FOOTER.take 6) ∨
        ∃ n < 5, CERTIFICATE_PEM_HEADER.drop i = List.replicate (n + 1) '-' := by
    decide
  have hdrop : CERTIFICATE_PEM_HEADER.drop first.length = last := by
    rw [hsplit, List.drop_left]
  have hlength : first.length < 27 := by
    have htotal : CERTIFICATE_PEM_HEADER.length = 27 := by decide
    have hpos : 0 < last.length := List.length_pos_iff.mpr hlast
    rw [hsplit, List.length_append] at htotal
    omega
  rw [← hdrop]
  exact hall first.length hlength

theorem dashes_of_overlap {n : Nat} {tail : List Char} (hn : n < 5) (hdash : '-' ∉ body)
    (h : CERTIFICATE_PEM_FOOTER ++ tail =
      List.replicate (n + 1) '-' ++ (body ++ (CERTIFICATE_PEM_FOOTER ++ rest))) :
    body = (if n = 4 then "END CERTIFICATE".toList else []) ∧
      CERTIFICATE_PEM_FOOTER.drop 1 ++ rest =
        CERTIFICATE_PEM_FOOTER.drop (if n = 4 then 21 else n + 2) ++ tail := by
  have hparts : ∀ n < 5, CERTIFICATE_PEM_FOOTER = List.replicate (n + 1) '-' ++
      ((if n = 4 then "END CERTIFICATE".toList else []) ++
        '-' :: CERTIFICATE_PEM_FOOTER.drop (if n = 4 then 21 else n + 2)) := by
    decide
  have hplain : ∀ n < 5, '-' ∉ (if n = 4 then "END CERTIFICATE".toList else []) := by
    decide
  have hfirst : CERTIFICATE_PEM_FOOTER = '-' :: CERTIFICATE_PEM_FOOTER.drop 1 := by decide
  have hcut : (if n = 4 then "END CERTIFICATE".toList else []) ++
      '-' :: (CERTIFICATE_PEM_FOOTER.drop (if n = 4 then 21 else n + 2) ++ tail) =
        body ++ '-' :: (CERTIFICATE_PEM_FOOTER.drop 1 ++ rest) := by
    apply List.append_cancel_left
    calc List.replicate (n + 1) '-' ++ ((if n = 4 then "END CERTIFICATE".toList else []) ++
          '-' :: (CERTIFICATE_PEM_FOOTER.drop (if n = 4 then 21 else n + 2) ++ tail))
      _ = CERTIFICATE_PEM_FOOTER ++ tail := by
        conv_rhs => rw [hparts n hn]
        simp only [List.append_assoc, List.cons_append]
      _ = List.replicate (n + 1) '-' ++ (body ++ (CERTIFICATE_PEM_FOOTER ++ rest)) := h
      _ = List.replicate (n + 1) '-' ++
          (body ++ '-' :: (CERTIFICATE_PEM_FOOTER.drop 1 ++ rest)) := by
        conv_lhs => rw [hfirst]
        rfl
  obtain ⟨hbody, hafter⟩ := Text.append_cons_inj (hplain n hn) hdash hcut
  exact ⟨hbody.symm, hafter.symm⟩

theorem dashes_differ {n : Nat} {tail : List Char} (hn : n < 4)
    (h : CERTIFICATE_PEM_FOOTER.drop 1 ++ rest =
      CERTIFICATE_PEM_FOOTER.drop (if n = 4 then 21 else n + 2) ++ tail) : False := by
  have hdiffer : ∀ n < 4, 4 - n ≤ (CERTIFICATE_PEM_FOOTER.drop 1).length ∧
      4 - n ≤ (CERTIFICATE_PEM_FOOTER.drop (n + 2)).length ∧
      (CERTIFICATE_PEM_FOOTER.drop 1).take (4 - n) ≠
        (CERTIFICATE_PEM_FOOTER.drop (n + 2)).take (4 - n) := by
    decide
  obtain ⟨hleft, hright, hne⟩ := hdiffer n hn
  rw [if_neg (by omega)] at h
  have htake := congrArg (List.take (4 - n)) h
  rw [List.take_append_of_le_length hleft, List.take_append_of_le_length hright] at htake
  exact hne htake

/-- The footer does not start within the header: its sixth character differs, or it would need the
header's last dashes and the whole body, which base 64 does not have the length for. -/
theorem footer_not_in_header {der : Bytes} {first last : List Char}
    (hsplit : CERTIFICATE_PEM_HEADER = first ++ last) (hlast : last ≠ [])
    (h : body.filter (fun c => !Text.isWhitespace c) = Encoding.base64Encode der) :
    ¬ CERTIFICATE_PEM_FOOTER <+: last ++ (body ++ (CERTIFICATE_PEM_FOOTER ++ rest)) := by
  have hdash := dash_not_mem_of_encoded h
  rintro ⟨tail, htail⟩
  rcases header_suffix hsplit hlast with ⟨hlong, hdiffer⟩ | ⟨n, hn, rfl⟩
  · have hsix := congrArg (List.take 6) htail
    rw [List.take_append_of_le_length (by decide), List.take_append_of_le_length hlong]
      at hsix
    exact hdiffer hsix.symm
  · obtain ⟨hbody, hafter⟩ := dashes_of_overlap hn hdash htail
    rcases Nat.lt_succ_iff_lt_or_eq.mp hn with hn | rfl
    · exact dashes_differ hn hafter
    · have hlength := Encoding.length_base64Encode der
      rw [← h, hbody] at hlength
      exact absurd hlength (by decide)

theorem footer_not_in_body {der : Bytes} {last : List Char} (hlast : last ≠ [])
    (hbody : ∀ c ∈ last, c ∈ body) (after : List Char)
    (h : body.filter (fun c => !Text.isWhitespace c) = Encoding.base64Encode der) :
    ¬ CERTIFICATE_PEM_FOOTER <+: last ++ after := by
  rintro ⟨tail, htail⟩
  cases last with
  | nil => exact hlast rfl
  | cons c last =>
      have hdash : '-' = c := (List.cons.inj htail).1
      exact dash_not_mem_of_encoded h (hbody '-' (hdash ▸ List.mem_cons_self))

theorem footer_not_earlier {der : Bytes} {first last : List Char}
    (hsplit : CERTIFICATE_PEM_HEADER ++ body = first ++ last) (hlast : last ≠ [])
    (h : body.filter (fun c => !Text.isWhitespace c) = Encoding.base64Encode der) :
    ¬ CERTIFICATE_PEM_FOOTER <+: last ++ (CERTIFICATE_PEM_FOOTER ++ rest) := by
  rcases List.append_eq_append_iff.mp hsplit with ⟨inner, -, hbody⟩ | ⟨inner, hheader, rfl⟩
  · refine footer_not_in_body hlast (fun c hc => ?_) _ h
    rw [hbody]
    exact List.mem_append_right _ hc
  · by_cases hinner : inner = []
    · refine footer_not_in_body hlast (fun c hc => ?_) _ h
      rwa [hinner, List.nil_append] at hc
    · rw [List.append_assoc]
      exact footer_not_in_header hheader hinner h

theorem pemBody_pem {der : Bytes}
    (h : body.filter (fun c => !Text.isWhitespace c) = Encoding.base64Encode der) :
    pemBody (CERTIFICATE_PEM_HEADER ++ body ++ (CERTIFICATE_PEM_FOOTER ++ rest)) =
      some (Encoding.base64Encode der) := by
  have hheader : Text.find CERTIFICATE_PEM_HEADER
      (CERTIFICATE_PEM_HEADER ++ body ++ (CERTIFICATE_PEM_FOOTER ++ rest)) = some 0 := by
    refine Text.find_of_prefix ?_
    rw [List.append_assoc]
    exact List.prefix_append _ _
  have hfooter : Text.find CERTIFICATE_PEM_FOOTER
      (CERTIFICATE_PEM_HEADER ++ body ++ (CERTIFICATE_PEM_FOOTER ++ rest)) =
        some (CERTIFICATE_PEM_HEADER ++ body).length :=
    Text.find_append fun first last hsplit hlast => footer_not_earlier hsplit hlast h
  have hbody : (((CERTIFICATE_PEM_HEADER ++ body ++ (CERTIFICATE_PEM_FOOTER ++ rest)).drop
      CERTIFICATE_PEM_HEADER.length).take body.length) = body := by
    rw [List.append_assoc, List.drop_left, List.take_left]
  simp only [pemBody, hheader, hfooter, Nat.zero_add, List.length_append, Nat.le_add_right, if_true,
    Nat.add_sub_cancel_left, hbody, h]

theorem certificateFingerprint_pem (crates : FingerprintCrates) {der : Bytes} (pem : PemFile der) :
    certificateFingerprint crates pem.bytes = some (String.ofList ([':'].intercalate
      (digitPairs (Encoding.hexEncode Encoding.HEXUPPER (crates.sha256 der))))) := by
  rw [certificateFingerprint, PemFile.bytes, fromUtf8_utf8]
  simp only [Option.bind_eq_bind, Option.bind_some, String.toList_ofList]
  rw [pemBody_pem pem.encoded, Option.bind_some, crates.base64Decode_encode]
  rfl

theorem flatten_digitPairs (digits : List Char) : (digitPairs digits).flatten = digits := by
  fun_induction digitPairs digits with
  | case1 a b rest ih => simp [ih]
  | case2 a => rfl
  | case3 => rfl

end Printed

/-! ## What is read back -/

theorem toNat_lt_of_isHexDigit {c : Char} (h : c.isHexDigit = true) : c.toNat < 128 := by
  have hkinds : c.isHexDigit = (c.isDigit || (decide (c.val ≥ 'a'.val) && decide (c.val ≤ 'f'.val))
    || (decide (c.val ≥ 'A'.val) && decide (c.val ≤ 'F'.val))) := rfl
  rw [hkinds, Bool.or_eq_true, Bool.or_eq_true, Bool.and_eq_true, Bool.and_eq_true] at h
  rcases h with (hdigit | hlower) | hupper
  · refine Text.toNat_lt_of_isAlphanum ?_
    have halphanum : c.isAlphanum = (c.isAlpha || c.isDigit) := rfl
    rw [halphanum, hdigit, Bool.or_true]
  · have hle : c.val ≤ 'f'.val := of_decide_eq_true hlower.2
    exact Text.toNat_lt_of_le hle (by decide)
  · have hle : c.val ≤ 'F'.val := of_decide_eq_true hupper.2
    exact Text.toNat_lt_of_le hle (by decide)

theorem forall_isHexDigit {P : Char → Prop}
    (h : ∀ n < 128, (Char.ofNat n).isHexDigit = true → P (Char.ofNat n)) {c : Char}
    (hc : c.isHexDigit = true) : P c :=
  Text.forall_ascii (P := fun c => c.isHexDigit = true → P c) h (toNat_lt_of_isHexDigit hc) hc

theorem isHexDigit_toLower {c : Char} (h : c.isHexDigit = true) : c.toLower.isHexDigit = true :=
  forall_isHexDigit (P := fun c => c.toLower.isHexDigit = true) (by decide) h

theorem toLower_toLower_of_isHexDigit {c : Char} (h : c.isHexDigit = true) :
    c.toLower.toLower = c.toLower :=
  forall_isHexDigit (P := fun c => c.toLower.toLower = c.toLower) (by decide) h

theorem isWhitespace_of_isHexDigit {c : Char} (h : c.isHexDigit = true) :
    Text.isWhitespace c = false :=
  forall_isHexDigit (P := fun c => Text.isWhitespace c = false) (by decide) h

section Normalized

variable {lowercase : Text.CharLowercase} {value : String}

theorem isHexDigit_of_lowercase {c : Char}
    (h : ∀ d ∈ lowercase.apply c, d.isHexDigit = true) : c.isHexDigit = true := by
  by_cases hc : c.toNat < 128
  · rw [lowercase.ascii c hc] at h
    have hlower := h c.toLower List.mem_cons_self
    exact Text.forall_ascii (P := fun c => c.toLower.isHexDigit = true → c.isHexDigit = true)
      (by decide) hc hlower
  · obtain ⟨hne, hother⟩ := lowercase.other c (Nat.not_lt.mp hc)
    obtain ⟨d, hd⟩ := List.exists_mem_of_ne_nil _ hne
    have hdigit := h d hd
    rcases hother d hd with hlarge | rfl | rfl
    · exact absurd (toNat_lt_of_isHexDigit hdigit) (Nat.not_lt.mpr hlarge)
    · exact absurd hdigit (by decide)
    · exact absurd hdigit (by decide)

theorem flatMap_lowercase {digits : List Char} (h : ∀ c ∈ digits, c.isHexDigit = true) :
    digits.flatMap lowercase.apply = digits.map Char.toLower := by
  rw [List.map_eq_flatMap]
  exact List.flatMap_congr fun c hc => lowercase.ascii c (toNat_lt_of_isHexDigit (h c hc))

theorem all_map_toLower {digits : List Char} (h : ∀ c ∈ digits, c.isHexDigit = true) :
    ∀ c ∈ digits.map Char.toLower, c.isHexDigit = true := by
  intro c hc
  obtain ⟨d, hd, rfl⟩ := List.mem_map.mp hc
  exact isHexDigit_toLower (h d hd)

theorem normalizeFingerprint_eq_ok {normalized : String} :
    normalizeFingerprint lowercase value = .ok normalized ↔
      ((pastedDigits value).length = 64 ∧ ∀ c ∈ pastedDigits value, c.isHexDigit = true) ∧
        normalized = String.ofList ((pastedDigits value).map Char.toLower) := by
  have hfilter : (Text.trim Text.isWhitespace value.toList).filter
      (· ≠ FINGERPRINT_GROUP_SEPARATOR) = pastedDigits value := rfl
  have hlength : ∀ digits : List Char, (∀ c ∈ digits, c.isHexDigit = true) →
      (utf8 (String.ofList digits)).length = digits.length := fun digits h =>
    length_utf8_ofList fun c hc => toNat_lt_of_isHexDigit (h c hc)
  simp only [normalizeFingerprint, hfilter, String.toList_ofList]
  generalize pastedDigits value = digits
  constructor
  · intro h
    split at h
    · cases h
    · next haccepted =>
        rw [not_or, not_not, Bool.not_eq_true', Bool.not_eq_false, List.all_eq_true] at haccepted
        obtain ⟨hlong, hdigits⟩ := haccepted
        have hpasted : ∀ c ∈ digits, c.isHexDigit = true := fun c hc =>
          isHexDigit_of_lowercase fun d hd => hdigits d (List.mem_flatMap.mpr ⟨c, hc, hd⟩)
        rw [hlength _ hdigits, flatMap_lowercase hpasted, List.length_map] at hlong
        cases h
        exact ⟨⟨hlong, hpasted⟩, by rw [flatMap_lowercase hpasted]⟩
  · rintro ⟨⟨hlong, hdigits⟩, rfl⟩
    have hlower := all_map_toLower hdigits
    rw [flatMap_lowercase hdigits, if_neg]
    rw [not_or, not_not, Bool.not_eq_true', Bool.not_eq_false, List.all_eq_true,
      hlength _ hlower, List.length_map]
    exact ⟨hlong, hlower⟩

theorem pastedDigits_eq {text digits : List Char} (hdigits : ∀ c ∈ digits, c.isHexDigit = true)
    (htext : ∀ c ∈ text, c ∈ digits ∨ c = ':') (hkept : text.filter (· ≠ ':') = digits) :
    pastedDigits (String.ofList text) = digits := by
  have hspace : ∀ c ∈ text, Text.isWhitespace c = false := by
    intro c hc
    rcases htext c hc with hdigit | rfl
    · exact isWhitespace_of_isHexDigit (hdigits c hdigit)
    · decide
  rw [pastedDigits, String.toList_ofList, Text.trim_eq_self hspace, hkept]

theorem filter_colon {digits : List Char} (h : ∀ c ∈ digits, c.isHexDigit = true) :
    digits.filter (· ≠ ':') = digits := by
  refine List.filter_eq_self.mpr fun c hc => decide_eq_true ?_
  rintro rfl
  exact absurd (h ':' hc) (by decide)

theorem pastedDigits_ofList {digits : List Char} (h : ∀ c ∈ digits, c.isHexDigit = true) :
    pastedDigits (String.ofList digits) = digits :=
  pastedDigits_eq h (fun _ => .inl) (filter_colon h)

theorem pastedDigits_printed {digits : List Char} (h : ∀ c ∈ digits, c.isHexDigit = true) :
    pastedDigits (String.ofList ([':'].intercalate (digitPairs digits))) = digits := by
  refine pastedDigits_eq h ?_ ?_
  · intro c hc
    rcases Text.mem_intercalate_cases hc with hc | ⟨pair, hpair, hc⟩
    · exact .inr (List.mem_singleton.mp hc)
    · refine .inl ?_
      rw [← flatten_digitPairs digits]
      exact List.mem_flatten.mpr ⟨pair, hpair, hc⟩
  · rw [Text.filter_intercalate (by decide), flatten_digitPairs, filter_colon h]

end Normalized

theorem normalizeFingerprint_printed (crates : FingerprintCrates) (lowercase : Text.CharLowercase)
    (der : Bytes) :
    normalizeFingerprint lowercase (String.ofList ([':'].intercalate
      (digitPairs (Encoding.hexEncode Encoding.HEXUPPER (crates.sha256 der))))) =
        .ok (pinnedFingerprint crates der) := by
  have hdigits : ∀ c ∈ Encoding.hexEncode Encoding.HEXUPPER (crates.sha256 der),
      c.isHexDigit = true := Encoding.forall_mem_hexEncode (by decide)
  have hlower : (Encoding.hexEncode Encoding.HEXUPPER (crates.sha256 der)).map Char.toLower =
      Encoding.hexEncode Encoding.HEXLOWER (crates.sha256 der) :=
    Encoding.map_hexEncode (by decide) _
  rw [normalizeFingerprint_eq_ok, pastedDigits_printed hdigits, Encoding.length_hexEncode,
    crates.sha256_length, hlower]
  exact ⟨⟨rfl, hdigits⟩, rfl⟩

/-- What one relay prints for its certificate another relay reads back as the fingerprint it pins.
A fingerprint read once is read as itself, and a text is read as one exactly when it has 64
hexadecimal digits but for colons and the white space around it. -/
theorem fingerprint_read_back (crates : FingerprintCrates) (lowercase : Text.CharLowercase) :
    (∀ (der : Bytes) (pem : PemFile der), ∃ printed,
      certificateFingerprint crates pem.bytes = some printed ∧
        normalizeFingerprint lowercase printed = .ok (pinnedFingerprint crates der)) ∧
    (∀ value normalized, normalizeFingerprint lowercase value = .ok normalized →
      normalizeFingerprint lowercase normalized = .ok normalized) ∧
    ∀ value, (∃ normalized, normalizeFingerprint lowercase value = .ok normalized) ↔
      (pastedDigits value).length = 64 ∧ ∀ c ∈ pastedDigits value, c.isHexDigit = true := by
  refine ⟨?_, ?_, ?_⟩
  · intro der pem
    exact ⟨_, certificateFingerprint_pem crates pem,
      normalizeFingerprint_printed crates lowercase der⟩
  · intro value normalized h
    obtain ⟨⟨hlength, hdigits⟩, rfl⟩ := normalizeFingerprint_eq_ok.mp h
    have hlower := all_map_toLower hdigits
    rw [normalizeFingerprint_eq_ok, pastedDigits_ofList hlower, List.length_map, List.map_map]
    refine ⟨⟨hlength, hlower⟩, congrArg String.ofList ?_⟩
    exact List.map_congr_left fun c hc => (toLower_toLower_of_isHexDigit (hdigits c hc)).symm
  · intro value
    constructor
    · rintro ⟨normalized, h⟩
      exact (normalizeFingerprint_eq_ok.mp h).1
    · intro h
      exact ⟨_, normalizeFingerprint_eq_ok.mpr ⟨h, rfl⟩⟩

def abcCrates : FingerprintCrates where
  sha256 _ := [0xBA, 0x78, 0x16, 0xBF, 0x8F, 0x01, 0xCF, 0xEA, 0x41, 0x41, 0x40, 0xDE, 0x5D, 0xAE,
    0x22, 0x23, 0xB0, 0x03, 0x61, 0xA3, 0x96, 0x17, 0x7A, 0x9C, 0xB4, 0x10, 0xFF, 0x61, 0xF2, 0x00,
    0x15, 0xAD]
  sha256_length _ := rfl
  base64Decode := Encoding.base64Decode
  base64Decode_encode := Encoding.base64Decode_base64Encode

def asciiCharLowercase : Text.CharLowercase where
  apply c := [c.toLower]
  ascii _ _ := rfl
  other c hc := by
    have hsame : c.toLower = c := by
      refine dif_neg ?_
      rintro ⟨-, hle⟩
      have hz : c.toNat ≤ 'Z'.val.toNat := UInt32.le_iff_toNat_le.mp hle
      exact absurd (Nat.le_trans hc hz) (by decide)
    rw [hsame]
    refine ⟨by simp, fun d hd => .inl ?_⟩
    rwa [List.mem_singleton.mp hd]

def abcPem : PemFile (utf8 "abc") where
  body := "\nYW\r\nJj\n".toList
  rest := "\n-----BEGIN CERTIFICATE-----\nZGVm\n-----END CERTIFICATE-----\n".toList
  encoded := by decide +kernel

theorem fingerprint_read_back_abc : ∃ printed,
    certificateFingerprint abcCrates abcPem.bytes = some printed ∧
      normalizeFingerprint asciiCharLowercase printed =
        .ok "ba7816bf8f01cfea414140de5dae2223b00361a396177a9cb410ff61f20015ad" := by
  obtain ⟨printed, hprinted, hread⟩ :=
    (fingerprint_read_back abcCrates asciiCharLowercase).1 _ abcPem
  refine ⟨printed, hprinted, hread.trans ?_⟩
  decide

end TermexoRelay
