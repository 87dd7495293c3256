import Mathlib.Data.List.Basic
import ProtoSchema.Proofs.Text.Capitals

set_option autoImplicit false

namespace ProtoSchema.Text

-- Two long lists are compared member by member in one conjunction of bits.
def bitsAt (places : List Nat) : Nat := places.foldr (fun place rest => 1 <<< place ||| rest) 0

theorem test_bit_one_shifted (place other : Nat) :
    (1 <<< place).testBit other = true ↔ other = place := by
  rw [Nat.one_shiftLeft, Nat.testBit_two_pow, decide_eq_true_iff, eq_comm]

theorem test_bit_bits_at (places : List Nat) (place : Nat) :
    (bitsAt places).testBit place = true ↔ place ∈ places := by
  induction places with
  | nil => simp [bitsAt]
  | cons first rest ih =>
      have split : bitsAt (first :: rest) = 1 <<< first ||| bitsAt rest := rfl
      rw [split, Nat.testBit_or, Bool.or_eq_true, test_bit_one_shifted, ih, List.mem_cons]

theorem disjoint_of_bits {a b : List Nat} (apart : bitsAt a &&& bitsAt b = 0) : a.Disjoint b := by
  intro place inA inB
  have both : (bitsAt a &&& bitsAt b).testBit place = true := by
    rw [Nat.testBit_and, (test_bit_bits_at a place).mpr inA, (test_bit_bits_at b place).mpr inB]
    rfl
  simp [apart] at both

def CaseRun.codes (run : CaseRun) : List Nat :=
  (List.range ((run.last - run.first) / run.step + 1)).map fun place => run.first + run.step * place

theorem CaseRun.mem_codes {run : CaseRun} {code : Nat} (holds : run.holds code = true) :
    code ∈ run.codes := by
  have bounds := bounds_of_holds holds
  have aligned : (code - run.first) % run.step = 0 := by
    simp only [CaseRun.holds, Bool.and_eq_true, beq_iff_eq] at holds
    exact holds.2
  refine List.mem_map.mpr ⟨(code - run.first) / run.step, ?_, ?_⟩
  · apply List.mem_range.mpr
    apply Nat.lt_succ_of_le
    apply Nat.div_le_div_right
    omega
  · rw [Nat.mul_div_cancel' (Nat.dvd_of_mod_eq_zero aligned), Nat.add_sub_cancel' bounds.1]

def recasedCodes : List Nat := caseExpansions.map (·.1) ++ caseRuns.flatMap CaseRun.codes

def leadingCodes : List Nat :=
  caseExpansions.filterMap (·.2.head?) ++
    caseRuns.flatMap fun run => run.codes.map fun (code : Nat) => (code + run.offset).toNat

theorem leading_not_recased : leadingCodes.Disjoint recasedCodes := by
  apply disjoint_of_bits
  decide +kernel

theorem own_upper_code {code : Nat} (kept : code ∉ recasedCodes) : upperCodes code = [code] := by
  rcases upper_codes_cases code with expanded | ⟨run, among, holds, _⟩ | ⟨_, own⟩
  · have recased := List.mem_map_of_mem (f := (·.1)) expanded
    exact absurd (List.mem_append_left _ recased) kept
  · have recased := List.mem_flatMap.mpr ⟨run, among, CaseRun.mem_codes holds⟩
    exact absurd (List.mem_append_right _ recased) kept
  · exact own

theorem upper_code_settled {code first : Nat} (head : first ∈ (upperCodes code).head?) :
    upperCodes first = [first] := by
  rcases upper_codes_cases code with expanded | ⟨run, among, holds, shifted⟩ | ⟨_, own⟩
  · have leading : first ∈ leadingCodes :=
      List.mem_append_left _ (List.mem_filterMap.mpr ⟨_, expanded, head⟩)
    exact own_upper_code (leading_not_recased leading)
  · obtain rfl : (code + run.offset).toNat = first := by simpa [shifted] using head
    have leading : (code + run.offset).toNat ∈ leadingCodes := by
      apply List.mem_append_right
      apply List.mem_flatMap.mpr
      exact ⟨run, among, List.mem_map_of_mem (CaseRun.mem_codes holds)⟩
    exact own_upper_code (leading_not_recased leading)
  · obtain rfl : code = first := by simpa [own] using head
    exact own

theorem underscore_not_expanded : ∀ entry ∈ caseExpansions, 0x5F ∉ entry.2 := by
  decide

theorem underscore_code_of_upper {code : Nat} (member : 0x5F ∈ upperCodes code) : code = 0x5F := by
  rcases upper_codes_cases code with expanded | ⟨run, among, holds, shifted⟩ | ⟨_, own⟩
  · exact absurd member (underscore_not_expanded _ expanded)
  · rw [shifted, List.mem_singleton] at member
    exact absurd member.symm (upper_code_of_run among holds).2
  · rw [own, List.mem_singleton] at member
    exact member.symm

theorem upper_settled {c first : Char} (head : first ∈ (upper c).head?) : upper first = [first] := by
  rw [upper, List.head?_map] at head
  obtain ⟨code, codeHead, rfl⟩ := Option.map_eq_some_iff.mp head
  rcases code_of_char code with same | null
  · rw [upper, same, upper_code_settled codeHead]
    rfl
  · rw [null]
    decide

theorem underscore_of_upper {c : Char} (member : '_' ∈ upper c) : c = '_' := by
  obtain ⟨code, among, shown⟩ := List.mem_map.mp member
  have spot : code = 0x5F := by
    rcases code_of_char code with same | null
    · rw [← same, shown]
      rfl
    · rw [null] at shown
      cases shown
  have underscore := underscore_code_of_upper (spot ▸ among)
  exact Char.toNat_inj.mp underscore

end ProtoSchema.Text
