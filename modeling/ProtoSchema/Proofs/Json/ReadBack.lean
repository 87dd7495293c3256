import ProtoSchema.Json.Reader
import ProtoSchema.Proofs.Json.Tokens

set_option autoImplicit false

namespace ProtoSchema.Json

mutual

def depth : Json → Nat
  | .array elements => depthOfElements elements + 1
  | .object members => depthOfMembers members + 1
  | _ => 0

def depthOfElements : List Json → Nat
  | [] => 0
  | element :: others => max element.depth (depthOfElements others)

def depthOfMembers : List (String × Json) → Nat
  | [] => 0
  | (_, value) :: others => max value.depth (depthOfMembers others)

end

theorem set_member_new {key : String} {members : List (String × Json)}
    (new : key ∉ members.map (·.1)) (value : Json) :
    setMember key value members = members ++ [(key, value)] := by
  induction members with
  | nil => rfl
  | cons member rest ih =>
      obtain ⟨other, kept⟩ := member
      rw [List.map_cons, List.mem_cons, not_or] at new
      rw [setMember, if_neg (Ne.symm new.1), ih new.2]
      rfl

-- No value starts with a closing bracket, so the first element is read like one after a comma.
theorem read_first_element (limit : Nat) (value : Json) (outer : List Frame) (rest : List Token) :
    readTokens limit (.elementOrClose outer) (value.tokens ++ rest) =
      readTokens limit (.value (.array [] :: outer)) (value.tokens ++ rest) := by
  match value with
  | .null | .bool _ | .int _ | .float _ | .string _ | .array [] | .array (_ :: _) | .object []
  | .object ((_, _) :: _) => rfl

theorem read_tokens_step {limit : Nat} {state next : Reading} {token : Token}
    (stepped : state.step limit token = .ok next) (rest : List Token) :
    readTokens limit state (token :: rest) = readTokens limit next rest := by
  rw [readTokens, stepped]

theorem open_array {limit : Nat} {outer : List Frame} (fits : outer.length < limit) :
    Reading.step limit (.value outer) .openBracket = .ok (.elementOrClose outer) := by
  simp only [Reading.step, Reading.startValue, if_pos fits]

theorem open_object {limit : Nat} {outer : List Frame} (fits : outer.length < limit) :
    Reading.step limit (.value outer) .openBrace = .ok (.nameOrClose outer) := by
  simp only [Reading.step, Reading.startValue, if_pos fits]

mutual

theorem read_value (limit : Nat) (value : Json) (regular : value.Regular) (outer : List Frame)
    (fits : outer.length + value.depth ≤ limit) (rest : List Token) :
    readTokens limit (.value outer) (value.tokens ++ rest) =
      readTokens limit (.ended value outer) rest := by
  match value with
  | .null | .bool _ | .int _ | .float _ | .string _ => rfl
  | .array [] =>
      simp only [depth] at fits
      rw [tokens, List.cons_append, read_tokens_step (open_array (by omega))]
      rfl
  | .array (first :: others) =>
      simp only [Regular, RegularElements] at regular
      simp only [depth, depthOfElements] at fits
      have inner := read_value limit first regular.1 (.array [] :: outer)
        (by rw [List.length_cons]; omega) (elementTokens others ++ .closeBracket :: rest)
      have later := read_elements limit others regular.2 outer (by omega) first [] rest
      rw [tokens, List.cons_append, read_tokens_step (open_array (by omega))]
      simp only [List.append_assoc, List.cons_append, List.nil_append]
      rw [read_first_element, inner, later]
      rfl
  | .object [] =>
      simp only [depth] at fits
      rw [tokens, List.cons_append, read_tokens_step (open_object (by omega))]
      rfl
  | .object ((key, first) :: others) =>
      simp only [Regular, RegularMembers] at regular
      simp only [depth, depthOfMembers] at fits
      have inner := read_value limit first regular.2.1 (.object [] key :: outer)
        (by rw [List.length_cons]; omega) (memberTokens others ++ .closeBrace :: rest)
      have later := read_members limit others regular.2.2 outer (by omega) [] key first regular.1
        rest
      rw [tokens, List.cons_append, read_tokens_step (open_object (by omega))]
      simp only [List.append_assoc, List.cons_append, List.nil_append]
      rw [read_tokens_step rfl, read_tokens_step rfl, inner, later]
      rfl

theorem read_elements (limit : Nat) (others : List Json) (regular : RegularElements others)
    (outer : List Frame) (fits : outer.length + 1 + depthOfElements others ≤ limit)
    (latest : Json) (earlier : List Json) (rest : List Token) :
    readTokens limit (.ended latest (.array earlier :: outer))
        (elementTokens others ++ .closeBracket :: rest) =
      readTokens limit (.ended (.array (earlier.reverse ++ latest :: others)) outer) rest := by
  match others with
  | [] =>
      rw [elementTokens, List.nil_append, ← List.reverse_cons]
      exact read_tokens_step rfl rest
  | element :: others =>
      simp only [RegularElements] at regular
      simp only [depthOfElements] at fits
      have inner := read_value limit element regular.1 (.array (latest :: earlier) :: outer)
        (by rw [List.length_cons]; omega) (elementTokens others ++ .closeBracket :: rest)
      have later := read_elements limit others regular.2 outer (by omega) element
        (latest :: earlier) rest
      rw [elementTokens, List.cons_append, List.append_assoc, read_tokens_step rfl, inner, later,
        List.reverse_cons, List.append_assoc]
      rfl

theorem read_members (limit : Nat) (others : List (String × Json)) (regular : RegularMembers others)
    (outer : List Frame) (fits : outer.length + 1 + depthOfMembers others ≤ limit)
    (earlier : List (String × Json)) (key : String) (latest : Json)
    (distinct : ((earlier ++ (key, latest) :: others).map (·.1)).Nodup) (rest : List Token) :
    readTokens limit (.ended latest (.object earlier key :: outer))
        (memberTokens others ++ .closeBrace :: rest) =
      readTokens limit (.ended (.object (earlier ++ (key, latest) :: others)) outer) rest := by
  have new : key ∉ earlier.map (·.1) := by
    rw [List.map_append, List.map_cons] at distinct
    intro member
    exact (List.nodup_append.mp distinct).2.2 key member key List.mem_cons_self rfl
  have set := set_member_new new latest
  match others with
  | [] =>
      rw [memberTokens, List.nil_append, ← set]
      exact read_tokens_step rfl rest
  | (name, value) :: others =>
      simp only [RegularMembers] at regular
      simp only [depthOfMembers] at fits
      have inner := read_value limit value regular.1
        (.object (setMember key latest earlier) name :: outer) (by rw [List.length_cons]; omega)
        (memberTokens others ++ .closeBrace :: rest)
      have regrouped : earlier ++ (key, latest) :: (name, value) :: others =
          setMember key latest earlier ++ (name, value) :: others := by
        rw [set, List.append_assoc]
        rfl
      rw [regrouped] at distinct ⊢
      have later := read_members limit others regular.2 outer (by omega) _ name value distinct rest
      simp only [memberTokens, List.cons_append, List.append_assoc]
      rw [read_tokens_step rfl, read_tokens_step rfl, read_tokens_step rfl, inner, later]

end

theorem read_pretty {limit : Nat} {value : Json} (regular : value.Regular)
    (fits : value.depth ≤ limit) : readWithin limit (value.pretty ++ "\n") = .ok value := by
  have chars : (value.pretty ++ "\n").toList = prettyChars 0 value ++ (newLine 0 ++ []) := by
    simp [pretty, newLine]
  have scanned := tokens_pretty value regular 0 (newLine 0 ++ []) (Token.ends_at_line 0 [])
  have read := read_value limit value regular [] (by simpa using fits) []
  rw [Token.of_text_line, Token.ofText] at scanned
  rw [readWithin, chars, scanned, read]
  rfl

end ProtoSchema.Json
