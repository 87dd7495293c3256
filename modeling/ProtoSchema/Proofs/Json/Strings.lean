import ProtoSchema.Json.Printer
import ProtoSchema.Json.Token

set_option autoImplicit false

namespace ProtoSchema.Json.Token

def bodyAfter (c : Char) : List Char × List Char → List Char × List Char
  | (body, left) => (c :: body, left)

theorem string_body_escape {c : Char} {cs rest : List Char} (read : escape cs = .ok (c, rest)) :
    stringBody ('\\' :: cs) = (stringBody rest).map (bodyAfter c) := by
  rw [stringBody]
  split
  · rename_i fault failed
    rw [read] at failed
    cases failed
  · rename_i d after found
    rw [read] at found
    cases found
    cases stringBody rest <;> rfl

theorem string_body_plain {c : Char} (quote : c ≠ '"') (backslash : c ≠ '\\')
    (printed : ¬ c.toNat < 0x20) (rest : List Char) :
    stringBody (c :: rest) = (stringBody rest).map (bodyAfter c) := by
  rw [stringBody, if_neg printed]
  · cases stringBody rest <;> rfl
  · exact quote
  · exact backslash

theorem hex_digit_read {d : Nat} (small : d < 16) : hexDigit? (hexDigit d) = some d := by
  revert d
  decide

theorem hex_quad_read {n : Nat} (small : n < 0x20) (rest : List Char) :
    hexQuad ('0' :: '0' :: hexDigit (n / 16) :: hexDigit (n % 16) :: rest) = .ok (n, rest) := by
  have zero : hexDigit? '0' = some 0 := by decide
  have high := hex_digit_read (d := n / 16) (by omega)
  have low := hex_digit_read (d := n % 16) (by omega)
  have code : ((0 * 16 + 0) * 16 + n / 16) * 16 + n % 16 = n := by omega
  simp only [hexQuad, zero, high, low, code]

-- No control is a surrogate, so its four digits stand for a character of their own.
theorem control_escape {c : Char} (control : c.toNat < 0x20) (rest : List Char) :
    escape ('u' :: '0' :: '0' :: hexDigit (c.toNat / 16) :: hexDigit (c.toNat % 16) :: rest) =
      .ok (c, rest) := by
  have notLow : isLowSurrogate c.toNat = false := by
    simp only [isLowSurrogate, Bool.and_eq_false_iff, decide_eq_false_iff_not]
    omega
  have notHigh : isHighSurrogate c.toNat = false := by
    simp only [isHighSurrogate, Bool.and_eq_false_iff, decide_eq_false_iff_not]
    omega
  rw [escape, numberedEscape, hex_quad_read control]
  simp only [notLow, notHigh, Char.ofNat_toNat, Bool.false_eq_true, if_false]

theorem string_body_escaped (c : Char) (rest : List Char) :
    stringBody (escapedChar c ++ rest) = (stringBody rest).map (bodyAfter c) := by
  unfold escapedChar
  split
  case h_8 =>
    rename_i quote backslash _ _ _ _ _
    split
    · rename_i control
      exact string_body_escape (control_escape control rest)
    · rename_i printed
      exact string_body_plain quote backslash printed rest
  all_goals exact string_body_escape rfl

theorem string_body_read (cs rest : List Char) :
    stringBody (cs.flatMap escapedChar ++ '"' :: rest) = .ok (cs, rest) := by
  induction cs with
  | nil => rw [List.flatMap_nil, List.nil_append, stringBody]
  | cons c cs ih =>
      rw [List.flatMap_cons, List.append_assoc, string_body_escaped, ih]
      rfl

end ProtoSchema.Json.Token
