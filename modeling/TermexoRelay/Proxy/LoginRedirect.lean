import TermexoRelay.Proxy.Access

/-!
# The way to the login page and back

A browser without a session is sent to the login page with the address it asked for as the only
parameter, from which that address can be read back byte for byte.
-/

namespace TermexoRelay

/-- The bytes of the address a browser asked for, below the origin. -/
def requestTarget (base rest : String) (query : Option String) : Bytes :=
  utf8 base ++ utf8 rest ++ query.elim [] fun query => 63 :: utf8 query

def isLoginUrlByte (b : UInt8) : Bool := isUnreserved b || b ∈ utf8 "%/?="

theorem utf8_LOGIN_PATH :
    utf8 LOGIN_PATH = [47, 99, 111, 110, 115, 111, 108, 101, 47, 108, 111, 103, 105, 110] := by
  decide

theorem utf8_NEXT_PARAMETER : utf8 NEXT_PARAMETER = [110, 101, 120, 116] := by decide

theorem isLoginUrlByte_eq (b : UInt8) :
    isLoginUrlByte b = (isUnreserved b || b ∈ ([37, 47, 63, 61] : Bytes)) := by
  have hmarks : utf8 "%/?=" = [37, 47, 63, 61] := by decide
  rw [isLoginUrlByte, hmarks]

theorem utf8_queryText (query : Option String) :
    utf8 (queryText query) = query.elim [] fun query => 63 :: utf8 query := by
  cases query with
  | none => rfl
  | some query =>
      have hmark : utf8 "?" = [63] := by decide
      rw [queryText, utf8_append, hmark]
      rfl

theorem utf8_target (base rest : String) (query : Option String) :
    utf8 (base ++ rest ++ queryText query) = requestTarget base rest query := by
  rw [utf8_append, utf8_append, utf8_queryText, requestTarget]

theorem loginUrl_eq (base rest : String) (query : Option String) :
    loginUrl base rest query = utf8 LOGIN_PATH ++ 63 :: (utf8 NEXT_PARAMETER ++
      61 :: Encoding.percentEncode isUnreserved (requestTarget base rest query)) := by
  have hhead : utf8 (LOGIN_PATH ++ "?" ++ NEXT_PARAMETER ++ "=") =
      utf8 LOGIN_PATH ++ 63 :: (utf8 NEXT_PARAMETER ++ [61]) := by decide
  rw [loginUrl, hhead, percentEncode_eq, utf8_target]
  simp

theorem plain_of_mem_encoded {target : Bytes} {b : UInt8}
    (h : b ∈ Encoding.percentEncode isUnreserved target) : b ≠ 35 ∧ b ≠ 38 := by
  rcases Encoding.mem_percentEncode_cases h with hb | rfl | ⟨value, hvalue, rfl⟩
  · rw [isUnreserved_eq] at hb
    constructor <;> rintro rfl <;> exact absurd hb (by decide)
  · decide
  · have hdigits : ∀ n < 16, Encoding.hexDigit (UInt8.ofNat n) ≠ 35 ∧
        Encoding.hexDigit (UInt8.ofNat n) ≠ 38 := by
      decide
    exact Encoding.forall_hexDigit (P := fun b => b ≠ 35 ∧ b ≠ 38) hdigits hvalue

theorem isLoginUrlByte_of_mem_encoded {target : Bytes} {b : UInt8}
    (h : b ∈ Encoding.percentEncode isUnreserved target) : isLoginUrlByte b = true := by
  rcases Encoding.mem_percentEncode_cases h with hb | rfl | ⟨value, hvalue, rfl⟩
  · rw [isLoginUrlByte, hb, Bool.true_or]
  · rw [isLoginUrlByte_eq]
    decide
  · have hdigits : ∀ n < 16, isUnreserved (Encoding.hexDigit (UInt8.ofNat n)) = true := by
      simp only [isUnreserved_eq]
      decide
    have hdigit := Encoding.forall_hexDigit (P := fun b => isUnreserved b = true) hdigits hvalue
    rw [isLoginUrlByte, hdigit, Bool.true_or]

theorem isLoginUrlByte_of_mem {base rest : String} {query : Option String} {b : UInt8}
    (h : b ∈ loginUrl base rest query) : isLoginUrlByte b = true := by
  have hfixed : (utf8 LOGIN_PATH ++ 63 :: (utf8 NEXT_PARAMETER ++ [61])).all isLoginUrlByte =
      true := by
    rw [utf8_LOGIN_PATH, utf8_NEXT_PARAMETER]
    simp only [List.cons_append, List.nil_append, List.all_cons, List.all_nil, isLoginUrlByte_eq,
      isUnreserved_eq]
    decide
  have hwhole : loginUrl base rest query =
      (utf8 LOGIN_PATH ++ 63 :: (utf8 NEXT_PARAMETER ++ [61])) ++
        Encoding.percentEncode isUnreserved (requestTarget base rest query) := by
    simp [loginUrl_eq]
  rw [hwhole, List.mem_append] at h
  rcases h with h | h
  · exact List.all_eq_true.mp hfixed b h
  · exact isLoginUrlByte_of_mem_encoded h

theorem isUnreserved_percent : isUnreserved 37 = false := by
  rw [isUnreserved_eq]
  decide

theorem pathAndQuery_loginUrl (base rest : String) (query : Option String) :
    ∃ text, Encoding.pathAndQuery (loginUrl base rest query) = (utf8 LOGIN_PATH, some text) ∧
      Encoding.queryParameters text = [(utf8 NEXT_PARAMETER, requestTarget base rest query)] := by
  set encoded := Encoding.percentEncode isUnreserved (requestTarget base rest query) with hencoded
  have hplain : ∀ b ∈ encoded, b ≠ 35 ∧ b ≠ 38 := fun b hb => plain_of_mem_encoded hb
  have hdecoded : Encoding.percentDecode encoded = requestTarget base rest query :=
    Encoding.percentDecode_percentEncode isUnreserved_percent _
  have hname : Encoding.percentDecode (utf8 NEXT_PARAMETER) = utf8 NEXT_PARAMETER :=
    Encoding.percentDecode_eq_self (by rw [utf8_NEXT_PARAMETER]; decide)
  refine ⟨utf8 NEXT_PARAMETER ++ 61 :: encoded, ?_, ?_⟩
  · rw [loginUrl_eq]
    refine Encoding.pathAndQuery_append ?_ (by rw [utf8_LOGIN_PATH]; decide)
    rw [utf8_LOGIN_PATH, utf8_NEXT_PARAMETER]
    simp only [List.mem_append, List.mem_cons, not_or]
    exact ⟨by decide, by decide, by decide, by decide, fun hb => (hplain 35 hb).1 rfl⟩
  · rw [Encoding.queryParameters_single ?_ (by rw [utf8_NEXT_PARAMETER]; decide), hdecoded, hname]
    rw [utf8_NEXT_PARAMETER]
    simp only [List.mem_append, List.mem_cons, not_or]
    exact ⟨by decide, by decide, fun hb => (hplain 38 hb).2 rfl⟩

theorem bytes_of_redirect {url : Bytes} {location : HeaderValue}
    (h : redirect url = .redirect location) : location.bytes = url := by
  simp only [redirect, HeaderValue.fromStr] at h
  split at h
  · next value hvalue =>
      cases h
      split at hvalue
      · cases hvalue
        rfl
      · cases hvalue
  · cases h

theorem requestTarget_of_loginUrl_eq {base rest base' rest' : String}
    {query query' : Option String} (h : loginUrl base rest query = loginUrl base' rest' query') :
    base ++ rest ++ queryText query = base' ++ rest' ++ queryText query' := by
  rw [loginUrl_eq, loginUrl_eq] at h
  have htail := (List.cons.inj (List.append_cancel_left h)).2
  have hencoded := (List.cons.inj (List.append_cancel_left htail)).2
  have htarget := Encoding.percentEncode_injective isUnreserved_percent hencoded
  rw [← utf8_target, ← utf8_target] at htarget
  exact utf8_injective htarget

theorem toList_queryText (query : Option String) :
    (queryText query).toList = query.elim [] fun query => '?' :: query.toList := by
  cases query with
  | none => rfl
  | some query => simp [queryText]

theorem eq_of_append_queryText {path path' : String} {query query' : Option String}
    (hpath : '?' ∉ path.toList) (hpath' : '?' ∉ path'.toList)
    (h : path ++ queryText query = path' ++ queryText query') :
    path = path' ∧ query = query' := by
  have hlist := congrArg String.toList h
  rw [String.toList_append, String.toList_append, toList_queryText, toList_queryText] at hlist
  cases query with
  | none =>
      cases query' with
      | none =>
          simp only [Option.elim_none, List.append_nil] at hlist
          exact ⟨String.toList_inj.mp hlist, rfl⟩
      | some query' =>
          exfalso
          apply hpath
          simp only [Option.elim_none, Option.elim_some, List.append_nil] at hlist
          simp [hlist]
  | some query =>
      cases query' with
      | none =>
          exfalso
          apply hpath'
          simp only [Option.elim_none, Option.elim_some, List.append_nil] at hlist
          simp [← hlist]
      | some query' =>
          simp only [Option.elim_some] at hlist
          obtain ⟨hp, hq⟩ := Text.append_cons_inj hpath hpath' hlist
          exact ⟨String.toList_inj.mp hp, congrArg some (String.toList_inj.mp hq)⟩

/-- The address of the login page carries the address asked for as its only parameter, holds nothing
that could end a header or start another parameter, and is different for different targets. A path
cannot hold a question mark, so path and query are told apart too. -/
theorem loginUrl_carries_target (base rest : String) (query : Option String) :
    (∃ text, Encoding.pathAndQuery (loginUrl base rest query) = (utf8 LOGIN_PATH, some text) ∧
      Encoding.queryParameters text = [(utf8 NEXT_PARAMETER, requestTarget base rest query)]) ∧
    (∀ b ∈ loginUrl base rest query, isLoginUrlByte b = true) ∧
    (∃ location, redirect (loginUrl base rest query) = .redirect location ∧
      location.bytes = loginUrl base rest query) ∧
    ∀ base' rest' query', loginUrl base rest query = loginUrl base' rest' query' →
      base ++ rest ++ queryText query = base' ++ rest' ++ queryText query' ∧
      ('?' ∉ (base ++ rest).toList → '?' ∉ (base' ++ rest').toList →
        base ++ rest = base' ++ rest' ∧ query = query') := by
  refine ⟨pathAndQuery_loginUrl base rest query, fun b => isLoginUrlByte_of_mem, ?_, ?_⟩
  · obtain ⟨location, hlocation⟩ := redirect_loginUrl base rest query
    refine ⟨location, hlocation, ?_⟩
    exact bytes_of_redirect hlocation
  · intro base' rest' query' h
    have htarget := requestTarget_of_loginUrl_eq h
    exact ⟨htarget, fun hpath hpath' => eq_of_append_queryText hpath hpath' htarget⟩

example : loginUrl "/d/abc" "/x" (some "a=1") =
    utf8 "/console/login?next=%2Fd%2Fabc%2Fx%3Fa%3D1" := by decide

end TermexoRelay
