import ProtoSchema.Proofs.Json.Numbers
import ProtoSchema.Proofs.Json.Strings

set_option autoImplicit false

namespace ProtoSchema.Json

mutual

-- A value whose numbers are whole and of a machine word, and whose objects name no member twice.
def Regular : Json → Prop
  | .null | .bool _ | .string _ => True
  | .int i => Token.InWord i
  | .float _ => False
  | .array elements => RegularElements elements
  | .object members => (members.map (·.1)).Nodup ∧ RegularMembers members

def RegularElements : List Json → Prop
  | [] => True
  | element :: others => element.Regular ∧ RegularElements others

def RegularMembers : List (String × Json) → Prop
  | [] => True
  | (_, value) :: others => value.Regular ∧ RegularMembers others

end

mutual

def tokens : Json → List Token
  | .null => [.scalar .null]
  | .bool b => [.scalar (.bool b)]
  | .int i => [.scalar (.int i)]
  | .float x => [.scalar (.float x)]
  | .string s => [.text s]
  | .array [] => [.openBracket, .closeBracket]
  | .array (first :: others) =>
    .openBracket :: (first.tokens ++ elementTokens others ++ [.closeBracket])
  | .object [] => [.openBrace, .closeBrace]
  | .object ((key, value) :: others) =>
    .openBrace :: .text key :: .colon :: (value.tokens ++ memberTokens others ++ [.closeBrace])

def elementTokens : List Json → List Token
  | [] => []
  | element :: others => .comma :: (element.tokens ++ elementTokens others)

def memberTokens : List (String × Json) → List Token
  | [] => []
  | (key, value) :: others =>
    .comma :: .text key :: .colon :: (value.tokens ++ memberTokens others)

end

namespace Token

theorem of_text_blank {c : Char} (blank : isBlank c = true) (rest : List Char) :
    ofText (c :: rest) = ofText rest := by
  rw [ofText, if_pos blank]

theorem of_text_token {c : Char} {rest left : List Char} {token : Token}
    (printed : isBlank c = false) (scanned : head c rest = (token, left)) :
    ofText (c :: rest) = token :: ofText left := by
  rw [ofText, if_neg (by simp [printed])]
  split
  rename_i found
  rw [scanned] at found
  cases found
  rfl

theorem of_text_mark (c : Char) (token : Token) (printed : isBlank c = false)
    (alone : ∀ rest, head c rest = (token, rest)) (rest : List Char) :
    ofText (c :: rest) = token :: ofText rest :=
  of_text_token printed (alone rest)

theorem of_text_line (depth : Nat) (rest : List Char) :
    ofText (newLine depth ++ rest) = ofText rest := by
  have spaces (n : Nat) : ofText (List.replicate n ' ' ++ rest) = ofText rest := by
    induction n with
    | zero => rfl
    | succ n ih => rw [List.replicate_succ, List.cons_append, of_text_blank rfl, ih]
  rw [newLine, List.cons_append, of_text_blank rfl, spaces]

theorem of_text_string (s : String) (rest : List Char) :
    ofText (stringChars s ++ rest) = .text s :: ofText rest := by
  have body := string_body_read s.toList rest
  have scanned : head '"' (s.toList.flatMap escapedChar ++ '"' :: rest) = (.text s, rest) := by
    simp only [head, body, String.ofList_toList]
  rw [stringChars, List.cons_append, List.append_assoc]
  exact of_text_token rfl scanned

theorem number_head {c : Char} (starts : Decimal.isDigit c = true ∨ c = '-') {rest left : List Char}
    {value : Json} (read : number (c :: rest) = .ok (value, left)) :
    head c rest = (.scalar value, left) := by
  unfold head
  split
  case h_11 => rw [read]
  all_goals simp [Decimal.isDigit] at starts

theorem of_text_int {i : Int} (inWord : InWord i) {rest : List Char} (ends : EndsNumber rest) :
    ofText ((Decimal.intText i).toList ++ rest) = .scalar (.int i) :: ofText rest := by
  have read := number_read inWord ends
  obtain ⟨c, cs, shape, starts⟩ := Decimal.int_text_first i
  rw [shape, List.cons_append] at read ⊢
  refine of_text_token ?_ (number_head starts read)
  rcases starts with digit | rfl
  · cases blank : isBlank c with
    | false => rfl
    | true =>
        simp only [isBlank, Bool.or_eq_true, decide_eq_true_eq] at blank
        rcases blank with ((rfl | rfl) | rfl) | rfl <;> cases digit
  · rfl

theorem of_text_word (letters : List Char) (value : Json) (rest : List Char) :
    word letters value (letters ++ rest) = (.scalar value, rest) := by
  simp [word, List.isPrefixOf_iff_prefix]

theorem ends_at_line (depth : Nat) (rest : List Char) : EndsNumber (newLine depth ++ rest) := by
  intro c first
  obtain rfl : c = '\n' := (Option.some.inj first).symm
  decide

theorem ends_at_comma (rest : List Char) : EndsNumber (',' :: rest) := by
  intro c first
  obtain rfl : c = ',' := (Option.some.inj first).symm
  decide

end Token

theorem ends_at_elements (depth outer : Nat) (others : List Json) (rest : List Char) :
    Token.EndsNumber (prettyElements depth others ++ (newLine outer ++ rest)) := by
  cases others with
  | nil => exact Token.ends_at_line outer rest
  | cons element others =>
      rw [prettyElements]
      exact Token.ends_at_comma _

theorem ends_at_members (depth outer : Nat) (others : List (String × Json)) (rest : List Char) :
    Token.EndsNumber (prettyMembers depth others ++ (newLine outer ++ rest)) := by
  cases others with
  | nil => exact Token.ends_at_line outer rest
  | cons member others =>
      obtain ⟨key, value⟩ := member
      rw [prettyMembers]
      exact Token.ends_at_comma _

mutual

theorem tokens_pretty (value : Json) (regular : value.Regular) (depth : Nat) (rest : List Char)
    (ends : Token.EndsNumber rest) :
    Token.ofText (prettyChars depth value ++ rest) = value.tokens ++ Token.ofText rest := by
  match value with
  | .null => exact Token.of_text_token rfl (Token.of_text_word ['n', 'u', 'l', 'l'] .null rest)
  | .bool true =>
      exact Token.of_text_token rfl (Token.of_text_word ['t', 'r', 'u', 'e'] (.bool true) rest)
  | .bool false =>
      exact Token.of_text_token rfl
        (Token.of_text_word ['f', 'a', 'l', 's', 'e'] (.bool false) rest)
  | .int i => exact Token.of_text_int regular ends
  | .float x => exact absurd regular (by simp [Regular])
  | .string s => exact Token.of_text_string s rest
  | .array [] =>
      have opening := Token.of_text_mark '[' .openBracket rfl fun _ => rfl
      have closing := Token.of_text_mark ']' .closeBracket rfl fun _ => rfl
      simp only [prettyChars, tokens, List.cons_append, List.nil_append, opening, closing]
  | .array (first :: others) =>
      simp only [Regular, RegularElements] at regular
      have inner := tokens_pretty first regular.1 (depth + 1) _
        (ends_at_elements (depth + 1) depth others (']' :: rest))
      have later := tokens_elements others regular.2 (depth + 1) depth (']' :: rest)
      have opening := Token.of_text_mark '[' .openBracket rfl fun _ => rfl
      have closing := Token.of_text_mark ']' .closeBracket rfl fun _ => rfl
      rw [prettyChars, tokens]
      simp only [List.append_assoc, List.cons_append, List.nil_append]
      rw [opening, Token.of_text_line, inner, later, closing]
  | .object [] =>
      have opening := Token.of_text_mark '\x7b' .openBrace rfl fun _ => rfl
      have closing := Token.of_text_mark '\x7d' .closeBrace rfl fun _ => rfl
      simp only [prettyChars, tokens, List.cons_append, List.nil_append, opening, closing]
  | .object ((key, first) :: others) =>
      simp only [Regular, RegularMembers] at regular
      have inner := tokens_member key first regular.2.1 (depth + 1) _
        (ends_at_members (depth + 1) depth others ('\x7d' :: rest))
      have later := tokens_members others regular.2.2 (depth + 1) depth ('\x7d' :: rest)
      have opening := Token.of_text_mark '\x7b' .openBrace rfl fun _ => rfl
      have closing := Token.of_text_mark '\x7d' .closeBrace rfl fun _ => rfl
      rw [prettyChars, tokens]
      simp only [List.append_assoc, List.cons_append, List.nil_append] at inner ⊢
      rw [opening, Token.of_text_line, inner, later, closing]

theorem tokens_member (key : String) (value : Json) (regular : value.Regular) (depth : Nat)
    (rest : List Char) (ends : Token.EndsNumber rest) :
    Token.ofText (stringChars key ++ [':', ' '] ++ prettyChars depth value ++ rest) =
      .text key :: .colon :: (value.tokens ++ Token.ofText rest) := by
  have inner := tokens_pretty value regular depth rest ends
  have colon := Token.of_text_mark ':' .colon rfl fun _ => rfl
  simp only [List.append_assoc, List.cons_append, List.nil_append]
  rw [Token.of_text_string, colon, Token.of_text_blank rfl, inner]

theorem tokens_elements (elements : List Json) (regular : RegularElements elements)
    (depth outer : Nat) (rest : List Char) :
    Token.ofText (prettyElements depth elements ++ (newLine outer ++ rest)) =
      elementTokens elements ++ Token.ofText rest := by
  match elements with
  | [] =>
      rw [prettyElements, elementTokens, List.nil_append, Token.of_text_line]
      rfl
  | element :: others =>
      simp only [RegularElements] at regular
      have inner := tokens_pretty element regular.1 depth _
        (ends_at_elements depth outer others rest)
      have later := tokens_elements others regular.2 depth outer rest
      have comma := Token.of_text_mark ',' .comma rfl fun _ => rfl
      rw [prettyElements, elementTokens]
      simp only [List.append_assoc, List.cons_append]
      rw [comma, Token.of_text_line, inner, later]

theorem tokens_members (members : List (String × Json)) (regular : RegularMembers members)
    (depth outer : Nat) (rest : List Char) :
    Token.ofText (prettyMembers depth members ++ (newLine outer ++ rest)) =
      memberTokens members ++ Token.ofText rest := by
  match members with
  | [] =>
      rw [prettyMembers, memberTokens, List.nil_append, Token.of_text_line]
      rfl
  | (key, value) :: others =>
      simp only [RegularMembers] at regular
      have inner := tokens_member key value regular.1 depth _
        (ends_at_members depth outer others rest)
      have later := tokens_members others regular.2 depth outer rest
      have comma := Token.of_text_mark ',' .comma rfl fun _ => rfl
      rw [prettyMembers, memberTokens]
      simp only [List.append_assoc, List.cons_append, List.nil_append] at inner ⊢
      rw [comma, Token.of_text_line, inner, later]

end

end ProtoSchema.Json
