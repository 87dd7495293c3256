import Mathlib.Data.List.Basic
import ProtoSchema.Name

set_option autoImplicit false

namespace ProtoSchema

namespace Text

def isSmallCode (code : Nat) : Bool := 0x61 ≤ code && code ≤ 0x7A

theorem is_lower_eq (c : Char) : c.isLower = isSmallCode c.toNat := rfl

theorem code_of_char (code : Nat) :
    (Char.ofNat code).toNat = code ∨ Char.ofNat code = '\x00' := by
  by_cases valid : code.isValidChar
  · left
    rw [Char.ofNat, dif_pos valid]
    rfl
  · right
    rw [Char.ofNat, dif_neg valid]
    rfl

theorem code_of_lower {code : Nat} (small : (Char.ofNat code).isLower = true) :
    isSmallCode code = true := by
  rcases code_of_char code with same | null
  · rwa [is_lower_eq, same] at small
  · rw [null] at small
    cases small

theorem upper_codes_cases (code : Nat) :
    (code, upperCodes code) ∈ caseExpansions ∨
      (∃ run ∈ caseRuns, run.holds code = true ∧ upperCodes code = [(code + run.offset).toNat]) ∨
      (∀ run ∈ caseRuns, run.holds code = false) ∧ upperCodes code = [code] := by
  cases expanded : caseExpansions.find? (·.1 == code) with
  | some entry =>
      have named : entry.1 = code := by simpa using List.find?_some expanded
      have codes : upperCodes code = entry.2 := by rw [upperCodes, expanded]
      rw [codes, ← named]
      exact .inl (List.mem_of_find?_eq_some expanded)
  | none =>
      right
      cases found : caseRuns.find? (·.holds code) with
      | some run =>
          have holds := List.find?_some found
          exact .inl ⟨run, List.mem_of_find?_eq_some found, holds, by rw [upperCodes, expanded, found]⟩
      | none => exact .inr ⟨by simpa using found, by rw [upperCodes, expanded, found]⟩

theorem CaseRun.bounds_of_holds {run : CaseRun} {code : Nat} (holds : run.holds code = true) :
    run.first ≤ code ∧ code ≤ run.last := by
  simp only [CaseRun.holds, Bool.and_eq_true, decide_eq_true_eq] at holds
  exact holds.1

theorem expansions_start_large :
    ∀ entry ∈ caseExpansions, ∃ first ∈ entry.2.head?, isSmallCode first = false := by
  decide

-- The run of the small ASCII letters leads away from them, and no other run leads to them or to the
-- underscore.
theorem runs_lead_past_small :
    ∀ run ∈ caseRuns, run.last + run.offset < 0x5F ∨ 0x7A < run.first + run.offset := by
  decide +kernel

theorem upper_code_of_run {run : CaseRun} {code : Nat} (member : run ∈ caseRuns)
    (holds : run.holds code = true) :
    isSmallCode (code + run.offset).toNat = false ∧ (code + run.offset).toNat ≠ 0x5F := by
  have past := runs_lead_past_small run member
  have within := CaseRun.bounds_of_holds holds
  simp only [isSmallCode, Bool.and_eq_false_iff, decide_eq_false_iff_not]
  omega

theorem upper_codes_start (code : Nat) :
    ∃ first ∈ (upperCodes code).head?, isSmallCode first = false := by
  rcases upper_codes_cases code with expanded | ⟨run, among, holds, shifted⟩ | ⟨outside, own⟩
  · exact expansions_start_large _ expanded
  · rw [shifted]
    exact ⟨_, rfl, (upper_code_of_run among holds).1⟩
  · rw [own]
    refine ⟨code, rfl, ?_⟩
    have notSmall := outside ⟨0x61, 0x7A, 1, -32⟩ List.mem_cons_self
    simpa [CaseRun.holds, isSmallCode, Nat.mod_one] using notSmall

theorem upper_start (c : Char) : ∃ first ∈ (upper c).head?, first.isLower = false := by
  obtain ⟨code, head, large⟩ := upper_codes_start c.toNat
  refine ⟨Char.ofNat code, by simp [upper, Option.mem_def.mp head], ?_⟩
  by_contra small
  rw [Bool.not_eq_false] at small
  rw [code_of_lower small] at large
  cases large

def startsSmall (text : String) : Bool := text.toList.head?.any Char.isLower

end Text

namespace Name

theorem camel_chars_head {name : List Char} {first : Char}
    (head : first ∈ (camelChars name).head?) : ∃ c, first ∈ (Text.upper c).head? := by
  rw [camelChars, List.head?_flatMap, Option.mem_def] at head
  obtain ⟨piece, _, starts⟩ := List.exists_of_findSome?_eq_some head
  cases piece with
  | nil => cases starts
  | cons c rest =>
      obtain ⟨start, own, _⟩ := Text.upper_start c
      refine ⟨c, ?_⟩
      simpa [capitalize, List.head?_append, Option.mem_def.mp own] using starts

theorem camel_case_start (name : String) : Text.startsSmall (camelCase name) = false := by
  rw [Text.startsSmall, camelCase, String.toList_ofList]
  cases head : (camelChars name.toList).head? with
  | none => rfl
  | some first =>
      obtain ⟨c, starts⟩ := camel_chars_head head
      obtain ⟨start, own, large⟩ := Text.upper_start c
      obtain rfl := Option.mem_unique starts own
      simpa using large

end Name

end ProtoSchema
