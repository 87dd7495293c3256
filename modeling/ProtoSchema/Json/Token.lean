import ProtoSchema.Json.Basic

set_option autoImplicit false

namespace ProtoSchema.Json

-- What is wrong with a text that is not JSON: it ended too early, or no continuation of it could be
-- JSON.
inductive Fault where
  | unfinished
  | malformed
deriving DecidableEq, Repr

inductive Token where
  | openBracket
  | closeBracket
  | openBrace
  | closeBrace
  | comma
  | colon
  | text (value : String)
  | scalar (value : Json)
  | brokenText (fault : Fault)
  | brokenScalar (fault : Fault)
deriving Repr

namespace Token

def isBlank (c : Char) : Bool := c = ' ' || c = '\t' || c = '\n' || c = '\r'

def hexDigit? (c : Char) : Option Nat :=
  if '0' ≤ c ∧ c ≤ '9' then some (c.toNat - '0'.toNat)
  else if 'a' ≤ c ∧ c ≤ 'f' then some (c.toNat - 'a'.toNat + 10)
  else if 'A' ≤ c ∧ c ≤ 'F' then some (c.toNat - 'A'.toNat + 10)
  else none

def byteLength (cs : List Char) : Nat := (String.ofList cs).utf8ByteSize

-- Four hexadecimal digits. A text with fewer than four bytes left is unfinished, whatever they are.
def hexQuad (cs : List Char) : Except Fault (Nat × List Char) :=
  match cs with
  | a :: b :: c :: d :: rest =>
    match hexDigit? a, hexDigit? b, hexDigit? c, hexDigit? d with
    | some a, some b, some c, some d => .ok (((a * 16 + b) * 16 + c) * 16 + d, rest)
    | _, _, _, _ => .error .malformed
  | short => .error (if byteLength short < 4 then .unfinished else .malformed)

def isHighSurrogate (code : Nat) : Bool := 0xD800 ≤ code && code ≤ 0xDBFF

def isLowSurrogate (code : Nat) : Bool := 0xDC00 ≤ code && code ≤ 0xDFFF

def ofSurrogates (high low : Nat) : Char :=
  Char.ofNat (0x10000 + (high - 0xD800) * 0x400 + (low - 0xDC00))

def lowSurrogate (high : Nat) (cs : List Char) : Except Fault (Char × List Char) :=
  match cs with
  | [] | ['\\'] => .error .unfinished
  | '\\' :: 'u' :: digits =>
    match hexQuad digits with
    | .error fault => .error fault
    | .ok (low, rest) =>
      if isLowSurrogate low then .ok (ofSurrogates high low, rest) else .error .malformed
  | _ => .error .malformed

def numberedEscape (cs : List Char) : Except Fault (Char × List Char) :=
  match hexQuad cs with
  | .error fault => .error fault
  | .ok (code, rest) =>
    if isLowSurrogate code then .error .malformed
    else if isHighSurrogate code then lowSurrogate code rest
    else .ok (Char.ofNat code, rest)

def escape (cs : List Char) : Except Fault (Char × List Char) :=
  match cs with
  | [] => .error .unfinished
  | '"' :: rest => .ok ('"', rest)
  | '\\' :: rest => .ok ('\\', rest)
  | '/' :: rest => .ok ('/', rest)
  | 'b' :: rest => .ok ('\x08', rest)
  | 'f' :: rest => .ok ('\x0c', rest)
  | 'n' :: rest => .ok ('\n', rest)
  | 'r' :: rest => .ok ('\r', rest)
  | 't' :: rest => .ok ('\t', rest)
  | 'u' :: rest => numberedEscape rest
  | _ :: _ => .error .malformed

theorem hex_quad_length {cs rest : List Char} {code : Nat} (read : hexQuad cs = .ok (code, rest)) :
    rest.length < cs.length := by
  unfold hexQuad at read
  split at read
  · split at read
    · cases read
      simp only [List.length_cons]
      omega
    · cases read
  · cases read

theorem low_surrogate_length {high : Nat} {cs rest : List Char} {c : Char}
    (read : lowSurrogate high cs = .ok (c, rest)) : rest.length < cs.length := by
  unfold lowSurrogate at read
  split at read
  · cases read
  · cases read
  · split at read
    · cases read
    · rename_i quad
      have shorter := hex_quad_length quad
      split at read
      · obtain ⟨_, rfl⟩ := Prod.mk.inj (Except.ok.inj read)
        simp only [List.length_cons]
        omega
      · cases read
  · cases read

theorem numbered_escape_length {cs rest : List Char} {c : Char}
    (read : numberedEscape cs = .ok (c, rest)) : rest.length < cs.length := by
  unfold numberedEscape at read
  split at read
  · cases read
  · rename_i quad
    have shorter := hex_quad_length quad
    split at read
    · cases read
    · split at read
      · exact Nat.lt_trans (low_surrogate_length read) shorter
      · obtain ⟨_, rfl⟩ := Prod.mk.inj (Except.ok.inj read)
        exact shorter

theorem escape_length {cs rest : List Char} {c : Char} (read : escape cs = .ok (c, rest)) :
    rest.length < cs.length := by
  unfold escape at read
  split at read
  case h_10 => exact Nat.lt_succ_of_lt (numbered_escape_length read)
  all_goals cases read
  all_goals simp

def stringBody (cs : List Char) : Except Fault (List Char × List Char) :=
  match cs with
  | [] => .error .unfinished
  | '"' :: rest => .ok ([], rest)
  | '\\' :: rest =>
    match read : escape rest with
    | .error fault => .error fault
    | .ok (c, after) =>
      have := escape_length read
      match stringBody after with
      | .error fault => .error fault
      | .ok (body, left) => .ok (c :: body, left)
  | c :: rest =>
    if c.toNat < 0x20 then .error .malformed
    else
      match stringBody rest with
      | .error fault => .error fault
      | .ok (body, left) => .ok (c :: body, left)
termination_by cs.length
decreasing_by
  · simp only [List.length_cons]
    omega
  · simp

theorem string_body_length {cs body rest : List Char} (read : stringBody cs = .ok (body, rest)) :
    rest.length < cs.length := by
  fun_induction stringBody cs generalizing body rest with
  | case1 => cases read
  | case2 => cases read; simp
  | case3 => cases read
  | case4 => cases read
  | case5 =>
    rename_i shorter _ _ left ih
    cases read
    have := ih left
    simp only [List.length_cons]
    omega
  | case6 => cases read
  | case7 => cases read
  | case8 =>
    rename_i left ih
    cases read
    have := ih left
    simp only [List.length_cons]
    omega

def digitRun (cs : List Char) : Except Fault (List Char × List Char) :=
  match cs.takeWhile Decimal.isDigit, cs.dropWhile Decimal.isDigit with
  | [], [] => .error .unfinished
  | [], _ => .error .malformed
  | ds, rest => .ok (ds, rest)

def wholePart (cs : List Char) : Except Fault (List Char × List Char) :=
  match digitRun cs with
  | .error fault => .error fault
  | .ok ('0' :: _ :: _, _) => .error .malformed
  | .ok (ds, rest) => .ok (ds, rest)

def fractionPart (cs : List Char) : Except Fault (List Char × List Char) :=
  match cs with
  | '.' :: rest => digitRun rest
  | _ => .ok ([], cs)

def exponentPart (cs : List Char) : Except Fault (Option Int × List Char) :=
  match cs with
  | 'e' :: '-' :: rest | 'E' :: '-' :: rest =>
    (digitRun rest).map fun (ds, rest) => (some (-(Decimal.value ds : Int)), rest)
  | 'e' :: '+' :: rest | 'E' :: '+' :: rest | 'e' :: rest | 'E' :: rest =>
    (digitRun rest).map fun (ds, rest) => (some (Decimal.value ds : Int), rest)
  | _ => .ok (none, cs)

def signedLimit : Nat := 0x8000000000000000
def unsignedLimit : Nat := 0x10000000000000000

-- A whole number is one of a machine word, signed or unsigned. The zero with a minus is none.
def wholeNumber? (negative : Bool) (n : Nat) : Option Int :=
  if negative then if 0 < n ∧ n ≤ signedLimit then some (-(n : Int)) else none
  else if n < unsignedLimit then some (n : Int) else none

def numberOf (negative : Bool) (whole fraction : List Char) (exponent : Option Int) :
    Except Fault Json :=
  let rounded : Except Fault Json :=
    match Decimal.Binary64.ofDecimal? negative (Decimal.value (whole ++ fraction))
        (exponent.getD 0 - fraction.length) with
    | some x => .ok (.float x)
    | none => .error .malformed
  match fraction, exponent with
  | [], none =>
    match wholeNumber? negative (Decimal.value whole) with
    | some n => .ok (.int n)
    | none => rounded
  | _, _ => rounded

def unsignedNumber (negative : Bool) (cs : List Char) : Except Fault (Json × List Char) :=
  match wholePart cs with
  | .error fault => .error fault
  | .ok (whole, rest) =>
    match fractionPart rest with
    | .error fault => .error fault
    | .ok (fraction, rest) =>
      match exponentPart rest with
      | .error fault => .error fault
      | .ok (exponent, rest) => (numberOf negative whole fraction exponent).map (·, rest)

def number (cs : List Char) : Except Fault (Json × List Char) :=
  match cs with
  | '-' :: rest => unsignedNumber true rest
  | _ => unsignedNumber false cs

theorem digit_run_length {cs ds rest : List Char} (read : digitRun cs = .ok (ds, rest)) :
    rest.length < cs.length := by
  unfold digitRun at read
  split at read
  · cases read
  · cases read
  · rename_i run left nonempty _
    obtain ⟨rfl, rfl⟩ := Prod.mk.inj (Except.ok.inj read)
    have whole := congrArg List.length (List.takeWhile_append_dropWhile (p := Decimal.isDigit) (l := cs))
    rw [List.length_append] at whole
    cases taken : cs.takeWhile Decimal.isDigit with
    | nil => simp_all
    | cons _ _ =>
      rw [taken, List.length_cons] at whole
      omega

theorem whole_part_length {cs ds rest : List Char} (read : wholePart cs = .ok (ds, rest)) :
    rest.length < cs.length := by
  unfold wholePart at read
  split at read
  · cases read
  · cases read
  · rename_i run
    obtain ⟨rfl, rfl⟩ := Prod.mk.inj (Except.ok.inj read)
    exact digit_run_length run

theorem fraction_part_length {cs ds rest : List Char} (read : fractionPart cs = .ok (ds, rest)) :
    rest.length ≤ cs.length := by
  unfold fractionPart at read
  split at read
  · exact Nat.le_succ_of_le (Nat.le_of_lt (digit_run_length read))
  · obtain ⟨_, rfl⟩ := Prod.mk.inj (Except.ok.inj read)
    exact Nat.le_refl _

theorem exponent_part_length {cs rest : List Char} {exponent : Option Int}
    (read : exponentPart cs = .ok (exponent, rest)) : rest.length ≤ cs.length := by
  have mapped {α : Type} {text left : List Char} {f : List Char × List Char → α × List Char}
      {a : α} (keeps : ∀ p, (f p).2 = p.2) (read : (digitRun text).map f = .ok (a, left)) :
      left.length < text.length := by
    cases run : digitRun text with
    | error fault => rw [run] at read; cases read
    | ok pair =>
      rw [run] at read
      have same : left = pair.2 := by
        have := keeps pair
        rwa [Except.ok.inj read] at this
      exact same ▸ digit_run_length run
  unfold exponentPart at read
  split at read
  case h_7 =>
    obtain ⟨_, rfl⟩ := Prod.mk.inj (Except.ok.inj read)
    exact Nat.le_refl _
  all_goals
    have shorter := mapped (by simp) read
    simp only [List.length_cons]
    omega

theorem unsigned_number_length {negative : Bool} {cs rest : List Char} {value : Json}
    (read : unsignedNumber negative cs = .ok (value, rest)) : rest.length < cs.length := by
  unfold unsignedNumber at read
  split at read
  · cases read
  · rename_i whole
    split at read
    · cases read
    · rename_i fraction
      split at read
      · cases read
      · rename_i left exponent
        have first := whole_part_length whole
        have second := fraction_part_length fraction
        have third := exponent_part_length exponent
        cases number : numberOf negative _ _ _ with
        | error fault => rw [number] at read; cases read
        | ok number =>
          rw [number] at read
          obtain ⟨_, rfl⟩ := Prod.mk.inj (Except.ok.inj read)
          omega

theorem number_length {cs rest : List Char} {value : Json} (read : number cs = .ok (value, rest)) :
    rest.length < cs.length := by
  unfold number at read
  split at read
  · exact Nat.lt_succ_of_lt (unsigned_number_length read)
  · exact unsigned_number_length read

-- One of the three words. A text that ends inside it is unfinished.
def word (letters : List Char) (value : Json) (cs : List Char) : Token × List Char :=
  if letters.isPrefixOf cs then (.scalar value, cs.drop letters.length)
  else (.brokenScalar (if cs.isPrefixOf letters then .unfinished else .malformed), [])

def head (c : Char) (rest : List Char) : Token × List Char :=
  match c with
  | '[' => (.openBracket, rest)
  | ']' => (.closeBracket, rest)
  | '\x7b' => (.openBrace, rest)
  | '\x7d' => (.closeBrace, rest)
  | ',' => (.comma, rest)
  | ':' => (.colon, rest)
  | '"' =>
    match stringBody rest with
    | .ok (body, rest) => (.text (String.ofList body), rest)
    | .error fault => (.brokenText fault, [])
  | 'n' => word ['n', 'u', 'l', 'l'] .null (c :: rest)
  | 't' => word ['t', 'r', 'u', 'e'] (.bool true) (c :: rest)
  | 'f' => word ['f', 'a', 'l', 's', 'e'] (.bool false) (c :: rest)
  | c =>
    match number (c :: rest) with
    | .ok (value, rest) => (.scalar value, rest)
    | .error fault => (.brokenScalar fault, [])

theorem word_length (letters : List Char) (value : Json) (c : Char) (rest : List Char)
    (some : letters ≠ []) : (word letters value (c :: rest)).2.length ≤ rest.length := by
  have positive := List.length_pos_iff.mpr some
  unfold word
  split
  · simp only [List.length_drop, List.length_cons]
    omega
  · simp

theorem head_length (c : Char) (rest : List Char) : (head c rest).2.length ≤ rest.length := by
  unfold head
  split
  case h_7 =>
    split
    · rename_i body
      exact Nat.le_of_lt (string_body_length body)
    · simp
  case h_8 | h_9 | h_10 => exact word_length _ _ _ _ (by simp)
  case h_11 =>
    split
    · rename_i read
      exact Nat.le_of_lt_succ (number_length read)
    · simp
  all_goals exact Nat.le_refl _

def ofText (cs : List Char) : List Token :=
  match cs with
  | [] => []
  | c :: rest =>
    if isBlank c then ofText rest
    else
      match _scanned : head c rest with
      | (token, left) => token :: ofText left
termination_by cs.length
decreasing_by
  · simp
  · have shorter := head_length c rest
    rw [_scanned] at shorter
    exact Nat.lt_succ_of_le shorter

end Token

end ProtoSchema.Json
