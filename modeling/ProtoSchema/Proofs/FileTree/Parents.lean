import Mathlib.Data.List.DropRight
import ProtoSchema.FileTree.Path
import ProtoSchema.Proofs.Text.Cut

set_option autoImplicit false

namespace ProtoSchema.Path

theorem of_pieces (path : String) : ofPieces (pieces path) = path := by
  rw [← String.toList_inj, ofPieces, String.toList_intercalate, pieces, Text.stringPieces,
    List.map_map]
  simpa [Function.comp_def] using Text.intercalate_pieces '/' path.toList

theorem is_absolute_iff (path : String) :
    isAbsolute path = true ↔ ∃ piece rest, pieces path = "" :: piece :: rest := by
  unfold isAbsolute pieces Text.stringPieces
  cases path.toList with
  | nil => simp [Text.pieces]
  | cons c cs =>
      by_cases slash : c = '/'
      · cases cut : Text.pieces '/' cs with
        | nil => exact absurd cut (Text.pieces_ne_nil '/' cs)
        | cons piece rest => simp [Text.pieces, slash, cut]
      · cases cut : Text.pieces '/' cs <;> simp [Text.pieces, slash, cut]

theorem pieces_ne_nil (path : String) : pieces path ≠ [] := by
  simpa [pieces, Text.stringPieces] using Text.pieces_ne_nil '/' path.toList

def Tidy (path : String) : Prop := (names path).dropLast ≠ [] → (names path).getLast? ≠ some "."

-- A path in pieces, and the directory around it: its first pieces, up to idle ones before the last
-- piece that is not idle. The root is written in its own way.
structure Surrounds (path outer first : String) (between idle : List String) (last : String)
    (final : List String) : Prop where
  whole : pieces path = first :: (between ++ idle ++ last :: final)
  idles : ∀ piece ∈ idle ++ final, isIdle piece = true
  proper : isIdle last = false
  stable : dropIdleEnd between = between
  outer : pieces outer = first :: between ∧ ¬(first = "" ∧ between = []) ∨
    outer = "/" ∧ first = "" ∧ between = []

namespace Surrounds

variable {path outer first last : String} {between idle final : List String}

theorem starts (surrounds : Surrounds path outer first between idle last final) :
    ∃ rest, path = outer ++ rest := by
  have spelled := of_pieces path
  rw [surrounds.whole] at spelled
  rcases surrounds.outer with ⟨same, _⟩ | ⟨rfl, rfl, rfl⟩
  · have own := of_pieces outer
    rw [same] at own
    rw [List.append_assoc, ← List.cons_append] at spelled
    rw [← spelled, ofPieces, String.intercalate_append_of_ne_nil (by simp) (by simp), ← ofPieces,
      own, String.append_assoc]
    exact ⟨_, rfl⟩
  · rw [List.nil_append] at spelled
    rw [← spelled, ofPieces, String.intercalate_cons_of_ne_nil (by simp)]
    exact ⟨_, rfl⟩

theorem absolute (surrounds : Surrounds path outer first between idle last final) :
    isAbsolute outer = isAbsolute path := by
  rw [Bool.eq_iff_iff, is_absolute_iff path, surrounds.whole]
  rcases surrounds.outer with ⟨same, deeper⟩ | ⟨rfl, rfl, rfl⟩
  · rw [is_absolute_iff, same]
    cases between with
    | nil =>
        have relative : first ≠ "" := by simpa using deeper
        simp [relative]
    | cons own others => simp
  · have slash : isAbsolute "/" = true := by decide
    cases idle <;> simp [slash]

end Surrounds

-- One path names a directory of the other: what follows its names is one more name, and dots.
structure LiesIn (path outer : String) : Prop where
  start : ∃ rest, path = outer ++ rest
  absolute : isAbsolute outer = isAbsolute path
  tidy : Tidy outer
  names : ∃ idle last final, names path = names outer ++ idle ++ last :: final ∧
    (∀ name ∈ idle ++ final, name = ".") ∧ last ≠ "."

end ProtoSchema.Path
