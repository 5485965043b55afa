import TermexoRelay.Library.Text
import Mathlib.Data.FinEnum

/-!
# Header names, values and maps

What the proxy relies on of the `http` crate. Texts are their UTF-8 bytes: a header value may
hold bytes that are no text at all, and `to_str` is what tells the two apart. A map gives each
name its values in order; the order of the names among themselves is never read.
-/

namespace TermexoRelay

abbrev Bytes := List UInt8

def utf8 (text : String) : Bytes := text.toUTF8.data.toList

theorem utf8_append (s t : String) : utf8 (s ++ t) = utf8 s ++ utf8 t := by
  rw [utf8, String.toUTF8_eq_toByteArray, String.toByteArray_append, ByteArray.data_append,
    Array.toList_append]
  rfl

theorem utf8_injective : Function.Injective utf8 := by
  intro s t h
  have hdata : s.toByteArray.data = t.toByteArray.data := Array.toList_inj.mp h
  exact String.toByteArray_inj.mp (ByteArray.ext hdata)

theorem utf8_ofList (cs : List Char) :
    utf8 (String.ofList cs) = cs.flatMap String.utf8EncodeChar := by
  rw [utf8, String.toUTF8_eq_toByteArray, String.toByteArray_ofList, List.utf8Encode,
    List.toList_data_toByteArray]

theorem utf8EncodeChar_ascii {c : Char} (h : c.toNat < 128) :
    String.utf8EncodeChar c = [c.val.toUInt8] := by
  have hsize : c.utf8Size = 1 := by
    rw [Char.utf8Size, if_pos]
    rw [UInt32.le_iff_toNat_le]
    exact Nat.le_of_lt_succ h
  exact String.utf8EncodeChar_eq_singleton hsize

theorem length_utf8_ofList {cs : List Char} (h : ∀ c ∈ cs, c.toNat < 128) :
    (utf8 (String.ofList cs)).length = cs.length := by
  induction cs with
  | nil => decide
  | cons c rest ih =>
      obtain ⟨hc, hrest⟩ := List.forall_mem_cons.mp h
      rw [utf8_ofList] at ih
      rw [utf8_ofList, List.flatMap_cons, utf8EncodeChar_ascii hc, List.length_append, ih hrest,
        List.length_singleton, List.length_cons, Nat.add_comm]

theorem mem_utf8_ofList {cs : List Char} (h : ∀ c ∈ cs, c.toNat < 128) {b : UInt8}
    (hb : b ∈ utf8 (String.ofList cs)) : ∃ c ∈ cs, b = c.val.toUInt8 := by
  rw [utf8_ofList, List.mem_flatMap] at hb
  obtain ⟨c, hc, hb⟩ := hb
  rw [utf8EncodeChar_ascii (h c hc), List.mem_singleton] at hb
  exact ⟨c, hc, hb⟩

/-- What `str::trim` drops among the bytes a decoded header value can hold. -/
def isSpace (b : UInt8) : Bool := b = 32 || (9 ≤ b && b ≤ 13)

def toLower (b : UInt8) : UInt8 := if 65 ≤ b && b ≤ 90 then b + 32 else b

def isTokenByte (b : UInt8) : Bool :=
  (97 ≤ b && b ≤ 122) || (48 ≤ b && b ≤ 57) || b ∈ utf8 "!#$%&'*+-.^_`|~"

structure HeaderName where
  bytes : Bytes
  valid : bytes ≠ [] ∧ bytes.length ≤ 65535 ∧ ∀ b ∈ bytes, isTokenByte b = true
deriving DecidableEq

namespace HeaderName

def tryFrom (name : Bytes) : Option HeaderName :=
  let lower := name.map toLower
  if h : lower ≠ [] ∧ lower.length ≤ 65535 ∧ ∀ b ∈ lower, isTokenByte b = true then
    some ⟨lower, h⟩
  else none

def connection : HeaderName := ⟨utf8 "connection", by decide +kernel⟩
def upgrade : HeaderName := ⟨utf8 "upgrade", by decide +kernel⟩
def host : HeaderName := ⟨utf8 "host", by decide +kernel⟩
def cookie : HeaderName := ⟨utf8 "cookie", by decide +kernel⟩
def setCookie : HeaderName := ⟨utf8 "set-cookie", by decide +kernel⟩

theorem bytes_injective : Function.Injective bytes := by
  rintro ⟨bytes, hvalid⟩ ⟨bytes', hvalid'⟩ h
  simpa using h

theorem map_bytes_filterMap_tryFrom {names : List Bytes}
    (hlower : ∀ name ∈ names, name.map toLower = name)
    (hvalid : ∀ name ∈ names, name ≠ [] ∧ name.length ≤ 65535 ∧
      ∀ b ∈ name, isTokenByte b = true) :
    (names.filterMap tryFrom).map bytes = names := by
  have hread : ∀ name ∈ names, (tryFrom name).map bytes = some name := by
    intro name hname
    simp only [tryFrom, hlower name hname]
    rw [dif_pos (hvalid name hname), Option.map_some]
  rw [List.map_filterMap, List.filterMap_congr hread, List.filterMap_some]

end HeaderName

/-- The bytes a header value may hold: everything but control characters, and tabs. -/
def isFieldByte (b : UInt8) : Bool := (32 ≤ b && b ≠ 127) || b = 9

/-- The bytes `to_str` takes for text. -/
def isVisibleAscii (b : UInt8) : Bool := (32 ≤ b && b < 127) || b = 9

structure HeaderValue where
  bytes : Bytes
  legal : ∀ b ∈ bytes, isFieldByte b = true
deriving DecidableEq

namespace HeaderValue

def fromStr (text : Bytes) : Option HeaderValue :=
  if h : ∀ b ∈ text, isFieldByte b = true then some ⟨text, h⟩ else none

/-- The text of a value, unless it holds a byte outside visible ASCII. -/
def toStr (value : HeaderValue) : Option Bytes :=
  if value.bytes.all isVisibleAscii then some value.bytes else none

theorem toStr_eq_some {value : HeaderValue} {text : Bytes} :
    value.toStr = some text ↔
      (∀ b ∈ value.bytes, isVisibleAscii b = true) ∧ text = value.bytes := by
  simp only [toStr, List.all_eq_true]
  split
  · next h =>
      rw [Option.some.injEq]
      exact ⟨fun htext => ⟨h, htext.symm⟩, fun htext => htext.2.symm⟩
  · next h => exact ⟨fun hnone => (by cases hnone), fun htext => absurd htext.1 h⟩

end HeaderValue

/-- The values of every name, in the order they were received. -/
def HeaderMap := HeaderName → List HeaderValue

namespace HeaderMap

def empty : HeaderMap := fun _ => []

def get (name : HeaderName) (headers : HeaderMap) : Option HeaderValue := (headers name).head?

def getAll (name : HeaderName) (headers : HeaderMap) : List HeaderValue := headers name

def remove (name : HeaderName) (headers : HeaderMap) : HeaderMap :=
  Function.update headers name []

def insert (name : HeaderName) (value : HeaderValue) (headers : HeaderMap) : HeaderMap :=
  Function.update headers name [value]

def append (name : HeaderName) (value : HeaderValue) (headers : HeaderMap) : HeaderMap :=
  Function.update headers name (headers name ++ [value])

variable {name other : HeaderName} {value : HeaderValue} {headers : HeaderMap}

theorem get_eq_head? : headers.get name = (headers.getAll name).head? := rfl

@[simp] theorem getAll_remove_self : (headers.remove name).getAll name = [] :=
  Function.update_self ..

theorem getAll_remove_of_ne (h : other ≠ name) :
    (headers.remove name).getAll other = headers.getAll other :=
  Function.update_of_ne h ..

@[simp] theorem getAll_insert_self : (headers.insert name value).getAll name = [value] :=
  Function.update_self ..

theorem getAll_insert_of_ne (h : other ≠ name) :
    (headers.insert name value).getAll other = headers.getAll other :=
  Function.update_of_ne h ..

theorem getAll_foldl_append (values : List HeaderValue) (headers : HeaderMap) :
    (values.foldl (fun headers value => headers.append name value) headers).getAll name =
      headers.getAll name ++ values := by
  induction values generalizing headers with
  | nil => simp
  | cons value rest ih =>
      have happend : (headers.append name value).getAll name = headers.getAll name ++ [value] :=
        Function.update_self ..
      rw [List.foldl_cons, ih, happend, List.append_assoc, List.singleton_append]

@[ext] theorem ext {headers' : HeaderMap} (h : ∀ n, headers.getAll n = headers'.getAll n) :
    headers = headers' := funext h

theorem getAll_foldl_remove (names : List HeaderName) (headers : HeaderMap) (n : HeaderName) :
    (names.foldl (fun headers name => headers.remove name) headers).getAll n =
      if n ∈ names then [] else headers.getAll n := by
  induction names generalizing headers with
  | nil => simp
  | cons name rest ih =>
      rw [List.foldl_cons, ih]
      by_cases hrest : n ∈ rest
      · simp [hrest]
      · by_cases hn : n = name
        · subst hn
          simp [hrest]
        · simp [hrest, hn, getAll_remove_of_ne hn]

end HeaderMap

end TermexoRelay
