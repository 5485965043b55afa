import TermexoRelay.Library.Encoding

/-!
# Addresses a browser resolves

The path of an address with its dot segments resolved, the bytes that are escaped on the way, and
which references keep the host of the page they are opened from. The page has one of the schemes
whose addresses have a host.
-/

namespace Url

section Paths

def isSingleDot (segment : List UInt8) : Bool := Encoding.percentDecode segment = [46]
def isDoubleDot (segment : List UInt8) : Bool := Encoding.percentDecode segment = [46, 46]

/-- A segment that stands for a directory instead of naming something in it. -/
def isDots (segment : List UInt8) : Bool := isSingleDot segment || isDoubleDot segment

/-- What one more segment makes of a path; a path that ends in dots is that of a directory. -/
def appendSegment (last : Bool) (path : List (List UInt8)) (segment : List UInt8) :
    List (List UInt8) :=
  if isDoubleDot segment then path.dropLast ++ (if last then [[]] else [])
  else if isSingleDot segment then path ++ (if last then [[]] else [])
  else path ++ [segment]

def resolveSegments (path : List (List UInt8)) : List (List UInt8) → List (List UInt8)
  | [] => path
  | [segment] => appendSegment true path segment
  | segment :: next :: rest => resolveSegments (appendSegment false path segment) (next :: rest)

def resolvePath (path : List UInt8) : List UInt8 :=
  [47].intercalate ([] :: resolveSegments [] (path.splitOn 47).tail)

variable {path segments : List (List UInt8)} {segment piece : List UInt8} {last : Bool}

theorem mem_appendSegment (h : segment ∈ appendSegment last path piece) :
    segment = [] ∨ segment ∈ path ∨ segment = piece ∧ isDots piece = false := by
  unfold appendSegment at h
  split at h
  · rcases List.mem_append.mp h with h | h
    · exact .inr (.inl (List.mem_of_mem_dropLast h))
    · cases last <;> simp_all
  · next hdouble =>
      split at h
      · rcases List.mem_append.mp h with h | h
        · exact .inr (.inl h)
        · cases last <;> simp_all
      · next hsingle =>
          rcases List.mem_append.mp h with h | h
          · exact .inr (.inl h)
          · simp [isDots, hdouble, hsingle, List.mem_singleton.mp h]

theorem appendSegment_of_plain (h : isDots segment = false) :
    appendSegment last path segment = path ++ [segment] := by
  simp only [isDots, Bool.or_eq_false_iff] at h
  simp [appendSegment, h.1, h.2]

theorem mem_resolveSegments (h : segment ∈ resolveSegments path segments) :
    segment = [] ∨ segment ∈ path ∨ segment ∈ segments ∧ isDots segment = false := by
  induction path, segments using resolveSegments.induct with
  | case1 path => exact .inr (.inl h)
  | case2 path piece =>
      rcases mem_appendSegment h with h | h | ⟨rfl, h⟩
      · exact .inl h
      · exact .inr (.inl h)
      · exact .inr (.inr ⟨List.mem_singleton_self _, h⟩)
  | case3 path piece next rest ih =>
      rcases ih h with h | h | ⟨h, hplain⟩
      · exact .inl h
      · rcases mem_appendSegment h with h | h | ⟨rfl, h⟩
        · exact .inl h
        · exact .inr (.inl h)
        · exact .inr (.inr ⟨List.mem_cons_self, h⟩)
      · exact .inr (.inr ⟨List.mem_cons_of_mem _ h, hplain⟩)

theorem resolveSegments_of_plain (h : ∀ segment ∈ segments, isDots segment = false) :
    resolveSegments path segments = path ++ segments := by
  induction path, segments using resolveSegments.induct with
  | case1 path => simp [resolveSegments]
  | case2 path piece =>
      rw [resolveSegments, appendSegment_of_plain (h piece List.mem_cons_self)]
  | case3 path piece next rest ih =>
      rw [resolveSegments, ih fun s hs => h s (List.mem_cons_of_mem _ hs),
        appendSegment_of_plain (h piece List.mem_cons_self), List.append_assoc]
      rfl

theorem isDots_nil : isDots [] = false := by decide

theorem splitOn_resolvePath (path : List UInt8) :
    (resolvePath path).splitOn 47 = [] :: resolveSegments [] (path.splitOn 47).tail := by
  refine List.splitOn_intercalate 47 ?_ (by simp)
  intro piece hpiece
  rcases List.mem_cons.mp hpiece with rfl | hpiece
  · exact List.not_mem_nil
  · rcases mem_resolveSegments hpiece with rfl | h | ⟨h, -⟩
    · exact List.not_mem_nil
    · exact absurd h List.not_mem_nil
    · exact Text.not_mem_of_mem_splitOn (List.mem_of_mem_tail h)

theorem not_isDots_of_mem_resolvePath {path : List UInt8}
    (h : segment ∈ (resolvePath path).splitOn 47) : isDots segment = false := by
  rw [splitOn_resolvePath] at h
  rcases List.mem_cons.mp h with rfl | h
  · exact isDots_nil
  · rcases mem_resolveSegments h with rfl | h | ⟨-, h⟩
    · exact isDots_nil
    · exact absurd h List.not_mem_nil
    · exact h

theorem resolvePath_of_plain {path : List UInt8}
    (h : ∀ segment ∈ path.splitOn 47, isDots segment = false) :
    resolvePath (47 :: path) = 47 :: path := by
  have hsplit : (47 :: path).splitOn 47 = [] :: path.splitOn 47 := by
    rw [Text.splitOn_cons, if_pos rfl]
  have hjoin : [47].intercalate ((47 :: path).splitOn 47) = 47 :: path :=
    List.intercalate_splitOn 47
  rw [hsplit] at hjoin
  rw [resolvePath, hsplit, List.tail_cons, resolveSegments_of_plain h, List.nil_append, hjoin]

end Paths

section References

/-- Dropped at both ends of a reference. -/
def isControlOrSpace (b : UInt8) : Bool := b ≤ 32

/-- Dropped wherever they stand. -/
def isTabOrNewline (b : UInt8) : Bool := b = 9 || b = 10 || b = 13

def clean (reference : List UInt8) : List UInt8 :=
  (Text.trim isControlOrSpace reference).filter fun b => !isTabOrNewline b

def isAlpha (b : UInt8) : Bool := (65 ≤ b && b ≤ 90) || (97 ≤ b && b ≤ 122)

def isSchemeByte (b : UInt8) : Bool := isAlpha b || (48 ≤ b && b ≤ 57) || b = 43 || b = 45 || b = 46

def schemeOf (reference : List UInt8) : Option (List UInt8 × List UInt8) :=
  (Text.splitOnce 58 reference).filter fun (scheme, _) =>
    (scheme.head?.any isAlpha) && scheme.all isSchemeByte

/-- A browser reads a backslash as a slash. -/
def isSlash (b : UInt8) : Bool := b = 47 || b = 92

def beginsHost (reference : List UInt8) : Bool :=
  match reference with
  | a :: b :: _ => isSlash a && isSlash b
  | _ => false

/-- Whether a reference leads to the host of the page it is opened from. -/
def keepsHost (scheme reference : List UInt8) : Bool :=
  match schemeOf (clean reference) with
  | some (scheme', rest) => scheme' = scheme && !beginsHost rest
  | none => !beginsHost (clean reference)

def isPathByte (b : UInt8) : Bool :=
  33 ≤ b && b ≤ 126 && b ∉ ([34, 35, 60, 62, 63, 92, 94, 96, 123, 125] : List UInt8)

def isQueryByte (b : UInt8) : Bool :=
  33 ≤ b && b ≤ 126 && b ∉ ([34, 35, 39, 60, 62] : List UInt8)

/-- The path and the query a browser requests for a reference that begins with a single slash. -/
def request (reference : List UInt8) : List UInt8 × Option (List UInt8) :=
  let (path, query) := Encoding.pathAndQuery (clean reference)
  let path := path.map fun b => if b = 92 then 47 else b
  (resolvePath (Encoding.percentEncode isPathByte path),
    query.map (Encoding.percentEncode isQueryByte))

/-- What a browser requests: nothing is left in it to escape or to resolve. -/
structure Address where
  path : List UInt8
  query : Option (List UInt8)
  path_bytes : ∀ b ∈ path, isPathByte b = true
  path_slash : path.head? = some 47
  path_plain : ∀ segment ∈ path.splitOn 47, isDots segment = false
  query_bytes : ∀ text ∈ query, ∀ b ∈ text, isQueryByte b = true

def Address.text (address : Address) : List UInt8 :=
  address.path ++ address.query.elim [] fun query => 63 :: query

theorem clean_of_plain {reference : List UInt8} (h : ∀ b ∈ reference, isControlOrSpace b = false) :
    clean reference = reference := by
  rw [clean, Text.trim_eq_self h, List.filter_eq_self]
  intro b hb
  have hplain := h b hb
  rw [Bool.not_eq_true', ← Bool.not_eq_true]
  intro hblank
  simp only [isTabOrNewline, Bool.or_eq_true, decide_eq_true_eq] at hblank
  rcases hblank with (rfl | rfl) | rfl <;> exact absurd hplain (by decide)

theorem schemeOf_of_slash (rest : List UInt8) : schemeOf (47 :: rest) = none := by
  rw [schemeOf, Option.filter_eq_none_iff]
  rintro ⟨scheme, after⟩ h
  rw [Text.splitOnce_eq_some] at h
  cases scheme with
  | nil => cases h.1
  | cons first scheme =>
      obtain ⟨hfirst, -⟩ := List.cons.inj h.1
      simp [← hfirst, isAlpha]

theorem beginsHost_slash {rest : List UInt8} :
    beginsHost (47 :: rest) = true ↔ ∃ b, rest.head? = some b ∧ isSlash b = true := by
  cases rest with
  | nil => simp [beginsHost]
  | cons b rest => simp [beginsHost, isSlash]

theorem keepsHost_slash {scheme rest : List UInt8}
    (h : ∀ b ∈ 47 :: rest, isControlOrSpace b = false) :
    keepsHost scheme (47 :: rest) = !beginsHost (47 :: rest) := by
  rw [keepsHost, clean_of_plain h, schemeOf_of_slash]

theorem isControlOrSpace_of_bounds {b : UInt8} (h : 33 ≤ b) : isControlOrSpace b = false := by
  simp only [isControlOrSpace, decide_eq_false_iff_not, UInt8.le_iff_toNat_le,
    UInt8.reduceToNat] at h ⊢
  omega

theorem percentEncode_of_kept {keep : UInt8 → Bool} {bytes : List UInt8}
    (h : ∀ b ∈ bytes, keep b = true) : Encoding.percentEncode keep bytes = bytes := by
  induction bytes with
  | nil => rfl
  | cons b rest ih =>
      obtain ⟨hb, hrest⟩ := List.forall_mem_cons.mp h
      rw [Encoding.percentEncode_cons, if_pos hb, ih hrest, List.singleton_append]

namespace Address

variable (address : Address)

theorem text_plain : ∀ b ∈ address.text, isControlOrSpace b = false := by
  intro b hb
  apply isControlOrSpace_of_bounds
  rcases List.mem_append.mp hb with hb | hb
  · have hpath := address.path_bytes b hb
    simp only [isPathByte, Bool.and_eq_true, decide_eq_true_eq] at hpath
    exact hpath.1.1
  · cases hquery : address.query with
    | none => simp [hquery] at hb
    | some query =>
        rw [hquery, Option.elim_some] at hb
        rcases List.mem_cons.mp hb with rfl | hb
        · decide
        · have hbytes := address.query_bytes query hquery b hb
          simp only [isQueryByte, Bool.and_eq_true, decide_eq_true_eq] at hbytes
          exact hbytes.1.1

theorem pathAndQuery_text :
    Encoding.pathAndQuery address.text = (address.path, address.query) := by
  have hmark : 63 ∉ address.path := fun h => absurd (address.path_bytes 63 h) (by decide)
  have hfragment : 35 ∉ address.path := fun h => absurd (address.path_bytes 35 h) (by decide)
  cases hquery : address.query with
  | none =>
      have hwhole : address.path.takeWhile (fun b => b ≠ 35) = address.path := by
        rw [List.takeWhile_eq_self_iff]
        intro b hb
        refine decide_eq_true ?_
        rintro rfl
        exact hfragment hb
      have hsplit : Text.splitOnce 63 address.path = none := Text.splitOnce_eq_none.mpr hmark
      rw [text, hquery, Option.elim_none, List.append_nil, Encoding.pathAndQuery, hwhole, hsplit]
  | some query =>
      have hquote : 35 ∉ query := fun h =>
        absurd (address.query_bytes query hquery 35 h) (by decide)
      rw [text, hquery, Option.elim_some]
      refine Encoding.pathAndQuery_append ?_ hmark
      simp [hfragment, hquote]

/-- What a browser has requested once it requests again. -/
theorem request_text : request address.text = (address.path, address.query) := by
  have hslash : address.path.map (fun b => if b = 92 then 47 else b) = address.path := by
    refine (List.map_congr_left fun b hb => if_neg ?_).trans (List.map_id _)
    rintro rfl
    exact absurd (address.path_bytes 92 hb) (by decide)
  have hresolved : resolvePath address.path = address.path := by
    obtain ⟨rest, hpath⟩ := List.head?_eq_some_iff.mp address.path_slash
    rw [hpath]
    apply resolvePath_of_plain
    intro segment hsegment
    apply address.path_plain
    rw [hpath, Text.splitOn_cons, if_pos rfl]
    exact List.mem_cons_of_mem _ hsegment
  have hquery : address.query.map (Encoding.percentEncode isQueryByte) = address.query := by
    cases hquery : address.query with
    | none => rfl
    | some query =>
        rw [Option.map_some, percentEncode_of_kept (address.query_bytes query hquery)]
  rw [request, clean_of_plain address.text_plain, pathAndQuery_text]
  simp only [hslash, percentEncode_of_kept address.path_bytes, hresolved, hquery]

end Address

end References

end Url
