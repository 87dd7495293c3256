set_option autoImplicit false

namespace ProtoSchema.Text

-- The pieces of a text between the separators, empty ones included; there is always one piece.
def pieces (separator : Char) : List Char → List (List Char)
  | [] => [[]]
  | c :: rest =>
    if c = separator then [] :: pieces separator rest
    else
      match pieces separator rest with
      | [] => [[c]]
      | piece :: others => (c :: piece) :: others

def stringPieces (separator : Char) (s : String) : List String :=
  (pieces separator s.toList).map String.ofList

theorem pieces_ne_nil (separator : Char) (cs : List Char) : pieces separator cs ≠ [] := by
  cases cs with
  | nil => simp [pieces]
  | cons c rest =>
    unfold pieces
    split
    · simp
    · split <;> simp

theorem separator_not_mem_pieces (separator : Char) (cs : List Char) :
    ∀ piece ∈ pieces separator cs, separator ∉ piece := by
  induction cs with
  | nil => simp [pieces]
  | cons c rest ih =>
    unfold pieces
    split
    · simpa using ih
    · rename_i different
      split
      · simpa using Ne.symm different
      · rename_i piece others cut
        rw [cut] at ih
        intro p member
        rcases List.mem_cons.mp member with rfl | later
        · simpa using ⟨Ne.symm different, ih piece (by simp)⟩
        · exact ih p (by simp [later])

theorem intercalate_pieces (separator : Char) (cs : List Char) :
    List.intercalate [separator] (pieces separator cs) = cs := by
  induction cs with
  | nil => simp [pieces, List.intercalate]
  | cons c rest ih =>
    unfold pieces
    split
    · rename_i same
      subst same
      cases cut : pieces c rest with
      | nil => exact absurd cut (pieces_ne_nil c rest)
      | cons piece others =>
        rw [cut] at ih
        simp_all [List.intercalate, List.intersperse]
    · split
      · rename_i cut
        exact absurd cut (pieces_ne_nil separator rest)
      · rename_i piece others cut
        rw [cut] at ih
        cases others <;> simp_all [List.intercalate, List.intersperse]

end ProtoSchema.Text
