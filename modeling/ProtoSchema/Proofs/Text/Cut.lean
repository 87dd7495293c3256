import Mathlib.Data.List.Basic
import ProtoSchema.Text.Pieces

set_option autoImplicit false

namespace ProtoSchema.Text

theorem pieces_eq_split_on (separator : Char) (cs : List Char) :
    pieces separator cs = cs.splitOn separator := by
  induction cs with
  | nil => rfl
  | cons c rest ih =>
      rw [List.splitOn, List.splitOnP_cons_eq_if_modifyHead, ← List.splitOn, ← ih]
      by_cases same : c = separator
      · simp [pieces, same]
      · cases cut : pieces separator rest with
        | nil => exact absurd cut (pieces_ne_nil separator rest)
        | cons piece others => simp [pieces, same, cut]

variable {α : Type}

theorem run_unique (p : α → Prop) {a b r s : List α} (aAll : ∀ x ∈ a, p x) (bAll : ∀ x ∈ b, p x)
    (rHead : ∀ x ∈ r.head?, ¬ p x) (sHead : ∀ x ∈ s.head?, ¬ p x) (same : a ++ r = b ++ s) :
    a = b ∧ r = s := by
  induction a generalizing b with
  | nil =>
      cases b with
      | nil => exact ⟨rfl, same⟩
      | cons y b =>
          have start : r = y :: (b ++ s) := same
          exact absurd (bAll y (by simp)) (rHead y (by simp [start]))
  | cons x a ih =>
      cases b with
      | nil =>
          have start : s = x :: (a ++ r) := same.symm
          exact absurd (aAll x (by simp)) (sHead x (by simp [start]))
      | cons y b =>
          obtain ⟨rfl, rest⟩ := List.cons.inj same
          obtain ⟨runs, tails⟩ := ih (fun z member => aAll z (by simp [member]))
            (fun z member => bAll z (by simp [member])) rest
          exact ⟨congrArg (List.cons x) runs, tails⟩

theorem parts_unique (p : α → Prop) {a b r s : List α} (aAll : ∀ x ∈ a, p x) (bAll : ∀ x ∈ b, p x)
    (rNone : ∀ x ∈ r, ¬ p x) (sNone : ∀ x ∈ s, ¬ p x) (same : a ++ r = b ++ s) : a = b ∧ r = s :=
  run_unique p aAll bAll (fun x head => rNone x (List.mem_of_mem_head? head))
    (fun x head => sNone x (List.mem_of_mem_head? head)) same

theorem final_run_unique (p : α → Prop) {a b r s : List α} (aAll : ∀ x ∈ a, p x)
    (bAll : ∀ x ∈ b, p x) (rLast : ∀ x ∈ r.getLast?, ¬ p x) (sLast : ∀ x ∈ s.getLast?, ¬ p x)
    (same : r ++ a = s ++ b) : r = s ∧ a = b := by
  have reversed : a.reverse ++ r.reverse = b.reverse ++ s.reverse := by
    simpa only [List.reverse_append] using congrArg List.reverse same
  obtain ⟨runs, heads⟩ := run_unique p (by simpa using aAll) (by simpa using bAll)
    (by simpa using rLast) (by simpa using sLast) reversed
  exact ⟨List.reverse_inj.mp heads, List.reverse_inj.mp runs⟩

theorem first_separator_unique (separator : α) {a b r s : List α} (aFree : separator ∉ a)
    (bFree : separator ∉ b) (same : a ++ separator :: r = b ++ separator :: s) : a = b ∧ r = s := by
  obtain ⟨heads, tails⟩ := run_unique (· ≠ separator)
    (fun _ member => ne_of_mem_of_not_mem member aFree)
    (fun _ member => ne_of_mem_of_not_mem member bFree) (by simp) (by simp) same
  exact ⟨heads, (List.cons.inj tails).2⟩

theorem last_separator_unique (separator : α) {a b r s : List α} (rFree : separator ∉ r)
    (sFree : separator ∉ s) (same : a ++ separator :: r = b ++ separator :: s) : a = b ∧ r = s := by
  have grouped : (a ++ [separator]) ++ r = (b ++ [separator]) ++ s := by
    simpa only [List.append_assoc, List.singleton_append] using same
  obtain ⟨heads, tails⟩ := final_run_unique (· ≠ separator)
    (fun _ member => ne_of_mem_of_not_mem member rFree)
    (fun _ member => ne_of_mem_of_not_mem member sFree) (by simp) (by simp) grouped
  exact ⟨List.append_cancel_right heads, tails⟩

end ProtoSchema.Text
