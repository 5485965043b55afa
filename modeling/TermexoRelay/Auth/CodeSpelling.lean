import TermexoRelay.Relay.System

/-!
# How an enrollment code may be typed

A code is handed out as three groups of four characters and redeemed by its hash. Whatever case it
is typed in and whatever stands between its characters, it comes back to the one spelling that was
hashed.
-/

namespace TermexoRelay

/-- Base32 without the characters that are mistaken for one another. -/
def UNAMBIGUOUS_ALPHABET : List Char := "23456789ABCDEFGHJKLMNPQRSTUVWXYZ".toList

/-- What the system's random source fills a buffer with. -/
abbrev RandomFill := (count : Nat) → Except String { bytes : List UInt8 // bytes.length = count }

def drawnCharacter (byte : UInt8) : Char :=
  UNAMBIGUOUS_ALPHABET.get
    ⟨byte.toNat % UNAMBIGUOUS_ALPHABET.length, Nat.mod_lt _ (by decide +kernel)⟩

def randomUnambiguous (fill : RandomFill) (count : Nat) : Except String (List Char) :=
  (fill count).map fun bytes => bytes.val.map drawnCharacter

/-- The characters of a code in groups joined by a dash. -/
def group (characters : List Char) : String :=
  String.ofList (['-'].intercalate ((List.range GROUP_COUNT).map fun i =>
    (characters.drop (i * GROUP_LENGTH)).take GROUP_LENGTH))

def generateCode (fill : RandomFill) : Except String String :=
  match randomUnambiguous fill (GROUP_LENGTH * GROUP_COUNT) with
  | .error error => .error ("无法生成接入码：" ++ error)
  | .ok characters => .ok (group characters)

/-- The digest a code is stored under. -/
def hashCode (config : RelayConfig) (canonicalCode : String) : String :=
  config.hashSecret canonicalCode

/-- The characters of a typed code that count, in upper case. -/
def significant (text : List Char) : List Char :=
  (text.filter Char.isAlphanum).map Char.toUpper

/-- A typed text one character of which is changed without changing what was meant: the case of a
letter, or a character that is neither a letter nor a digit put in or left out. -/
inductive TypedLike : List Char → List Char → Prop
  | recased {before after c c'} (h : c.toUpper = c'.toUpper) :
      TypedLike (before ++ c :: after) (before ++ c' :: after)
  | inserted {before after c} (hc : c.isAlphanum = false) :
      TypedLike (before ++ after) (before ++ c :: after)
  | removed {before after c} (hc : c.isAlphanum = false) :
      TypedLike (before ++ c :: after) (before ++ after)

abbrev Retyped : List Char → List Char → Prop := Relation.ReflTransGen TypedLike

def IsCodeChar (c : Char) : Prop := c.isAlphanum = true ∧ c.toUpper = c

section Significant

variable {text text' : List Char} {code : String}

theorem significant_append (s t : List Char) :
    significant (s ++ t) = significant s ++ significant t := by
  rw [significant, List.filter_append, List.map_append, significant, significant]

theorem significant_cons (c : Char) (rest : List Char) :
    significant (c :: rest) = significant [c] ++ significant rest :=
  significant_append [c] rest

theorem significant_singleton_of_not {c : Char} (h : c.isAlphanum = false) :
    significant [c] = [] := by
  simp [significant, h]

theorem isCodeChar_of_mem_significant {c : Char} (h : c ∈ significant text) : IsCodeChar c := by
  obtain ⟨x, hx, rfl⟩ := List.mem_map.mp h
  have halphanum : x.isAlphanum = true := (List.mem_filter.mp hx).2
  exact ⟨by rw [Text.isAlphanum_toUpper, halphanum], Text.toUpper_toUpper x⟩

theorem significant_eq_self (h : ∀ c ∈ text, IsCodeChar c) : significant text = text := by
  have hfilter : text.filter Char.isAlphanum = text :=
    List.filter_eq_self.mpr fun c hc => (h c hc).1
  rw [significant, hfilter]
  calc text.map Char.toUpper = text.map id := List.map_congr_left fun c hc => (h c hc).2
    _ = text := List.map_id text

theorem significant_typedLike (h : TypedLike text text') :
    significant text = significant text' := by
  cases h with
  | @recased before after c c' hcase =>
      have hsame : significant [c] = significant [c'] := by
        have hkind : c.isAlphanum = c'.isAlphanum := by
          rw [← Text.isAlphanum_toUpper c, hcase, Text.isAlphanum_toUpper]
        simp only [significant, List.filter_cons, List.filter_nil, hkind]
        split
        · rw [List.map_singleton, List.map_singleton, hcase]
        · rfl
      rw [significant_append, significant_append, significant_cons c, significant_cons c', hsame]
  | inserted hc =>
      rw [significant_append, significant_append, significant_cons,
        significant_singleton_of_not hc, List.nil_append]
  | removed hc =>
      rw [significant_append, significant_append, significant_cons,
        significant_singleton_of_not hc, List.nil_append]

theorem significant_retyped (h : Retyped text text') : significant text = significant text' := by
  induction h with
  | refl => rfl
  | tail _ hstep ih => exact ih.trans (significant_typedLike hstep)

end Significant

section Group

variable {characters : List Char}

theorem toList_group (h : characters.length = 12) :
    (group characters).toList = characters.take 4 ++
      '-' :: ((characters.drop 4).take 4 ++ '-' :: characters.drop 8) := by
  have hlast : (characters.drop 8).take 4 = characters.drop 8 :=
    List.take_of_length_le (by rw [List.length_drop, h])
  rw [group, String.toList_ofList]
  change ['-'].intercalate [(characters.drop 0).take 4, (characters.drop 4).take 4,
    (characters.drop 8).take 4] = _
  rw [hlast, List.drop_zero]
  simp [List.intercalate_cons_cons]

theorem significant_group (h : characters.length = 12) (hcode : ∀ c ∈ characters, IsCodeChar c) :
    significant (group characters).toList = characters := by
  have hdash : ∀ rest, significant ('-' :: rest) = significant rest := fun rest => rfl
  have hmiddle : (characters.drop 4).take 4 ++ characters.drop 8 = characters.drop 4 := by
    have hdrop := List.take_append_drop 4 (characters.drop 4)
    rwa [List.drop_drop] at hdrop
  rw [toList_group h, significant_append, hdash, significant_append, hdash, ← significant_append,
    hmiddle, ← significant_append, List.take_append_drop, significant_eq_self hcode]

theorem normalizeCode_eq (code : String) :
    normalizeCode code = if (significant code.toList).length = 12 then
      some (group (significant code.toList)) else none := by
  change (if (significant code.toList).length = 12 then _ else none) = _
  split
  · next hlength =>
      rw [← String.ofList_toList (s := group _), toList_group hlength]
      congr 2
      simp only [List.intercalate_cons_cons, List.intercalate_singleton, List.append_assoc,
        List.singleton_append]
      rfl
  · rfl

theorem normalizeCode_eq_some {code canonical : String} :
    normalizeCode code = some canonical ↔
      (significant code.toList).length = 12 ∧ group (significant code.toList) = canonical := by
  rw [normalizeCode_eq]
  split
  · next h => simp [h]
  · next h => simp [h]

end Group

theorem isCodeChar_drawnCharacter (byte : UInt8) : IsCodeChar (drawnCharacter byte) := by
  have hall : UNAMBIGUOUS_ALPHABET.all (fun c => c.isAlphanum && c.toUpper = c) = true := by
    decide
  have hchar := List.all_eq_true.mp hall (drawnCharacter byte) (List.get_mem _ _)
  rw [Bool.and_eq_true] at hchar
  exact ⟨hchar.1, of_decide_eq_true hchar.2⟩

theorem generateCode_eq_ok {fill : RandomFill} {code : String} (h : generateCode fill = .ok code) :
    ∃ characters : List Char, characters.length = 12 ∧ (∀ c ∈ characters, IsCodeChar c) ∧
      code = group characters := by
  simp only [generateCode, randomUnambiguous] at h
  cases hfill : fill (GROUP_LENGTH * GROUP_COUNT) with
  | error error =>
      rw [hfill] at h
      cases h
  | ok bytes =>
      rw [hfill] at h
      cases h
      refine ⟨bytes.val.map drawnCharacter, ?_, ?_, rfl⟩
      · rw [List.length_map]
        exact bytes.property
      · intro c hc
        obtain ⟨byte, -, rfl⟩ := List.mem_map.mp hc
        exact isCodeChar_drawnCharacter byte

/-- A code comes back from however it is typed, and with it the digest it is stored under. A code
read once is read as itself, and two texts are read as one code exactly when the letters and digits
in them are the same twelve. -/
theorem normalizeCode_canonical (config : RelayConfig) :
    (∀ fill code typed, generateCode fill = .ok code → Retyped code.toList typed.toList →
      normalizeCode typed = some code ∧
        (normalizeCode typed).map (hashCode config) = some (hashCode config code)) ∧
    (∀ typed code, normalizeCode typed = some code → normalizeCode code = some code) ∧
    ∀ first second, (∃ code, normalizeCode first = some code ∧ normalizeCode second = some code) ↔
      significant first.toList = significant second.toList ∧
        (significant first.toList).length = 12 := by
  refine ⟨?_, ?_, ?_⟩
  · intro fill code typed hgenerate htyped
    obtain ⟨characters, hlength, hcode, rfl⟩ := generateCode_eq_ok hgenerate
    have hsignificant : significant typed.toList = characters := by
      rw [← significant_retyped htyped, significant_group hlength hcode]
    have hnormal : normalizeCode typed = some (group characters) :=
      normalizeCode_eq_some.mpr ⟨hsignificant ▸ hlength, hsignificant ▸ rfl⟩
    exact ⟨hnormal, by rw [hnormal, Option.map_some]⟩
  · intro typed code hnormal
    obtain ⟨hlength, rfl⟩ := normalizeCode_eq_some.mp hnormal
    have hsame := significant_group hlength fun _ => isCodeChar_of_mem_significant
    exact normalizeCode_eq_some.mpr ⟨by rw [hsame, hlength], by rw [hsame]⟩
  · intro first second
    constructor
    · rintro ⟨code, hfirst, hsecond⟩
      obtain ⟨hlength, rfl⟩ := normalizeCode_eq_some.mp hfirst
      obtain ⟨hlength', hcode⟩ := normalizeCode_eq_some.mp hsecond
      have hsame := congrArg (fun code => significant code.toList) hcode
      simp only [significant_group hlength fun _ => isCodeChar_of_mem_significant,
        significant_group hlength' fun _ => isCodeChar_of_mem_significant] at hsame
      exact ⟨hsame.symm, hlength⟩
    · rintro ⟨hsame, hlength⟩
      exact ⟨group (significant first.toList), normalizeCode_eq_some.mpr ⟨hlength, rfl⟩,
        normalizeCode_eq_some.mpr ⟨hsame ▸ hlength, by rw [hsame]⟩⟩

def countingFill : RandomFill := fun count =>
  .ok ⟨(List.range count).map UInt8.ofNat, by rw [List.length_map, List.length_range]⟩

/-- One dash is typed as a blank, and one letter in lower case. -/
theorem normalizeCode_canonical_typed :
    generateCode countingFill = .ok "2345-6789-ABCD" ∧
      normalizeCode "2345 6789-aBCD" = some "2345-6789-ABCD" := by
  have hgenerate : generateCode countingFill = .ok "2345-6789-ABCD" := by decide
  have hdash : TypedLike ("2345".toList ++ '-' :: "6789-ABCD".toList)
      ("2345".toList ++ "6789-ABCD".toList) := .removed (by decide)
  have hblank : TypedLike ("2345".toList ++ "6789-ABCD".toList)
      ("2345".toList ++ ' ' :: "6789-ABCD".toList) := .inserted (by decide)
  have hcase : TypedLike ("2345 6789-".toList ++ 'A' :: "BCD".toList)
      ("2345 6789-".toList ++ 'a' :: "BCD".toList) := .recased (by decide)
  have htyped : Retyped "2345-6789-ABCD".toList "2345 6789-aBCD".toList :=
    ((Relation.ReflTransGen.single hdash).tail hblank).tail hcase
  exact ⟨hgenerate, ((normalizeCode_canonical System.plainConfig).1 countingFill _ _ hgenerate
    htyped).1⟩

end TermexoRelay
