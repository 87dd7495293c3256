import Mathlib.Data.List.Nodup
import ProtoSchema.Generate

set_option autoImplicit false

namespace ProtoSchema

theorem filter_merge_sort {α : Type} (le : α → α → Bool)
    (trans : ∀ a b c, le a b → le b c → le a c) (total : ∀ a b, le a b || le b a) (p : α → Bool)
    (level : ∀ a b, p a → p b → le a b) (xs : List α) :
    (xs.mergeSort le).filter p = xs.filter p := by
  have ordered : (xs.filter p).Pairwise fun a b => le a b :=
    List.pairwise_of_forall_mem_list fun a aMember b bMember =>
      level a b (List.mem_filter.mp aMember).2 (List.mem_filter.mp bMember).2
  have kept := (List.sublist_mergeSort trans total ordered List.filter_sublist).filter p
  rw [List.filter_filter] at kept
  simp only [Bool.and_self] at kept
  have lengths := ((List.mergeSort_perm xs le).filter p).length_eq
  exact (kept.eq_of_length lengths.symm).symm

-- One more member comes right before the first member that it need not follow.
theorem merge_sort_cons {α : Type} (le : α → α → Bool)
    (trans : ∀ a b c, le a b → le b c → le a c) (total : ∀ a b, le a b || le b a) (x : α)
    (xs : List α) :
    xs.mergeSort le =
        (xs.mergeSort le).filter (fun y => !le x y) ++ (xs.mergeSort le).filter (le x ·) ∧
      (x :: xs).mergeSort le =
        (xs.mergeSort le).filter (fun y => !le x y) ++ x :: (xs.mergeSort le).filter (le x ·) := by
  obtain ⟨front, back, extended, sorted, before⟩ := List.mergeSort_cons trans total x xs
  have ordered := List.pairwise_mergeSort trans total (x :: xs)
  rw [extended, List.pairwise_append] at ordered
  have after := (List.pairwise_cons.mp ordered.2.1).1
  have frontOut : front.filter (le x ·) = [] :=
    List.filter_eq_nil_iff.mpr fun y member => by simpa using before y member
  have backOut : back.filter (fun y => !le x y) = [] :=
    List.filter_eq_nil_iff.mpr fun y member => by simp [after y member]
  rw [extended, sorted, List.filter_append, List.filter_append, frontOut, backOut,
    List.filter_eq_self.mpr before, List.filter_eq_self.mpr after, List.append_nil,
    List.nil_append]
  exact ⟨rfl, rfl⟩

namespace Field

def Precedes (a b : Field) : Prop := ∀ m, a.tag = some m → ∃ n, b.tag = some n ∧ m ≤ n

theorem not_after_iff (a b : Field) : a.notAfter b = true ↔ a.Precedes b := by
  cases aTag : a.tag <;> cases bTag : b.tag <;> simp [notAfter, Precedes, aTag, bTag]

theorem not_after_trans (a b c : Field) (ab : a.notAfter b) (bc : b.notAfter c) : a.notAfter c := by
  rw [not_after_iff] at *
  intro m aTag
  obtain ⟨n, bTag, mn⟩ := ab m aTag
  obtain ⟨k, cTag, nk⟩ := bc n bTag
  exact ⟨k, cTag, UInt32.le_trans mn nk⟩

theorem not_after_total (a b : Field) : (a.notAfter b || b.notAfter a) = true := by
  cases aTag : a.tag <;> cases bTag : b.tag <;> simp [notAfter, aTag, bTag, UInt32.le_total]

theorem sort_ascending (fields : List Field) :
    (fields.mergeSort notAfter).Pairwise Precedes := by
  have sorted := List.pairwise_mergeSort not_after_trans not_after_total fields
  exact sorted.imp fun {a b} before => (not_after_iff a b).mp before

theorem filter_sort (tag : Option UInt32) (fields : List Field) :
    (fields.mergeSort notAfter).filter (·.tag == tag) = fields.filter (·.tag == tag) := by
  apply filter_merge_sort notAfter not_after_trans not_after_total
  intro a b aTag bTag
  rw [not_after_iff]
  intro m numbered
  exact ⟨m, by simp_all, UInt32.le_refl m⟩

theorem tag_eq_of_precedes {a b : Field} (before : a.Precedes b) (after : b.Precedes a) :
    a.tag = b.tag := by
  cases aTag : a.tag with
  | none =>
      cases bTag : b.tag with
      | none => rfl
      | some n =>
          obtain ⟨_, numbered, _⟩ := after n bTag
          rw [aTag] at numbered
          cases numbered
  | some m =>
      obtain ⟨n, bTag, mn⟩ := before m aTag
      obtain ⟨k, again, nk⟩ := after n bTag
      cases aTag.symm.trans again
      rw [bTag, UInt32.le_antisymm mn nk]

theorem sort_unique {a b : List Field} (permuted : a.Perm b) (distinct : (a.map (·.tag)).Nodup) :
    a.mergeSort notAfter = b.mergeSort notAfter := by
  have sorted := (List.mergeSort_perm a notAfter).trans
    (permuted.trans (List.mergeSort_perm b notAfter).symm)
  refine sorted.eq_of_pairwise (fun x y xMember yMember before after => ?_) (sort_ascending a)
    (sort_ascending b)
  have xIn := List.mem_mergeSort.mp xMember
  have yIn := permuted.mem_iff.mpr (List.mem_mergeSort.mp yMember)
  exact List.inj_on_of_nodup_map distinct xIn yIn (tag_eq_of_precedes before after)

end Field

end ProtoSchema
