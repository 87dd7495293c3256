import ProtoSchema.Proofs.Proto.Lines

set_option autoImplicit false

namespace ProtoSchema

abbrev shown (lines : List Line) : List (List Char) := lines.map Line.chars

namespace Block

def Braced (depth : Nat) (block : List Line) : Prop :=
  ∃ header body, block = braced depth header body ∧ ∀ line ∈ body, line.Within (depth + 1)

-- A block of lines none of which is blank or opens a block in braces.
def Plain (block : List Line) : Prop :=
  block ≠ [] ∧ ∀ line ∈ block, line.chars ≠ [] ∧ line.chars.getLast? ≠ some '\x7b'

def closer (depth : Nat) : List Char := List.replicate depth '\t' ++ ['\x7d']

theorem inner_not_closer {depth : Nat} {line : Line} (within : line.Within (depth + 1)) :
    line.chars ≠ closer depth := by
  cases line with
  | blank => simp [closer]
  | text k content =>
      intro same
      have deeper : depth + 1 ≤ k := within
      have tabs : List.replicate k '\t' =
          List.replicate depth '\t' ++ '\t' :: List.replicate (k - (depth + 1)) '\t' := by
        rw [← List.replicate_succ, List.replicate_append_replicate]
        congr 1
        omega
      rw [Line.chars_text, tabs, closer, List.append_assoc] at same
      have heads := List.append_cancel_left same
      simp at heads

theorem header_not_closer (depth : Nat) (header : String) :
    (Line.text depth (header ++ " \x7b")).chars ≠ closer depth := by
  intro same
  have lasts := congrArg List.getLast? same
  simp [closer] at lasts

theorem braced_shown (depth : Nat) (header : String) (body : List Line) :
    shown (braced depth header body) =
      (Line.text depth (header ++ " \x7b")).chars :: shown body ++ [closer depth] := by
  simp [shown, braced, closer]

theorem braced_unique {depth : Nat} {a b : List Line} {r s : List (List Char)}
    (aBraced : Braced depth a) (bBraced : Braced depth b) (same : shown a ++ r = shown b ++ s) :
    shown a = shown b ∧ r = s := by
  have closer_free (header : String) (body : List Line)
      (within : ∀ line ∈ body, line.Within (depth + 1)) :
      closer depth ∉ (Line.text depth (header ++ " \x7b")).chars :: shown body := by
    intro member
    rcases List.mem_cons.mp member with first | inside
    · exact header_not_closer depth header first.symm
    · obtain ⟨line, lineMember, closes⟩ := List.mem_map.mp inside
      exact inner_not_closer (within line lineMember) closes
  obtain ⟨aHeader, aBody, rfl, aWithin⟩ := aBraced
  obtain ⟨bHeader, bBody, rfl, bWithin⟩ := bBraced
  rw [braced_shown, braced_shown] at same ⊢
  simp only [List.append_assoc, List.singleton_append] at same
  obtain ⟨blocks, rests⟩ := Text.first_separator_unique (closer depth)
    (closer_free aHeader aBody aWithin) (closer_free bHeader bBody bWithin) same
  exact ⟨congrArg (· ++ [closer depth]) blocks, rests⟩

theorem spaced_head (blocks : List (List Line)) :
    ∀ line ∈ (shown (spaced blocks)).head?, ¬ line ≠ [] := by
  cases blocks <;> simp [spaced]

theorem plain_unique {a b : List Line} {aRest bRest : List (List Line)} (aPlain : Plain a)
    (bPlain : Plain b)
    (same : shown a ++ shown (spaced aRest) = shown b ++ shown (spaced bRest)) :
    shown a = shown b ∧ shown (spaced aRest) = shown (spaced bRest) := by
  have filled {block : List Line} (plain : Plain block) : ∀ line ∈ shown block, line ≠ [] := by
    intro line member
    obtain ⟨source, sourceMember, rfl⟩ := List.mem_map.mp member
    exact (plain.2 source sourceMember).1
  exact Text.run_unique (· ≠ []) (filled aPlain) (filled bPlain) (spaced_head aRest)
    (spaced_head bRest) same

theorem braced_not_plain {depth : Nat} {a b : List Line} {r s : List (List Char)}
    (aBraced : Braced depth a) (bPlain : Plain b) : shown a ++ r ≠ shown b ++ s := by
  intro same
  obtain ⟨header, body, rfl, within⟩ := aBraced
  cases b with
  | nil => exact bPlain.1 rfl
  | cons first others =>
      rw [braced_shown] at same
      have heads := (List.cons.inj same).1
      apply (bPlain.2 first (by simp)).2
      rw [← heads]
      simp

theorem spaced_unique (depth : Nat) (a b : List (List Line))
    (aBlocks : ∀ block ∈ a, Braced depth block ∨ Plain block)
    (bBlocks : ∀ block ∈ b, Braced depth block ∨ Plain block)
    (same : shown (spaced a) = shown (spaced b)) : a.map shown = b.map shown := by
  induction a generalizing b with
  | nil =>
      cases b with
      | nil => rfl
      | cons first others => simp [spaced] at same
  | cons x a ih =>
      cases b with
      | nil => simp [spaced] at same
      | cons y b =>
          have joined : shown x ++ shown (spaced a) = shown y ++ shown (spaced b) := by
            simpa [spaced] using same
          have parts : shown x = shown y ∧ shown (spaced a) = shown (spaced b) := by
            rcases aBlocks x (by simp) with xBraced | xPlain
            · rcases bBlocks y (by simp) with yBraced | yPlain
              · exact braced_unique xBraced yBraced joined
              · exact absurd joined (braced_not_plain xBraced yPlain)
            · rcases bBlocks y (by simp) with yBraced | yPlain
              · exact absurd joined.symm (braced_not_plain yBraced xPlain)
              · exact plain_unique xPlain yPlain joined
          have rest := ih b (fun block member => aBlocks block (by simp [member]))
            (fun block member => bBlocks block (by simp [member])) parts.2
          simp only [List.map_cons, parts.1, rest]

theorem not_nil {depth : Nat} {block : List Line} (sort : Braced depth block ∨ Plain block) :
    block ≠ [] := by
  rcases sort with ⟨header, body, rfl, _⟩ | plain
  · simp [braced]
  · exact plain.1

theorem join_not_nil {block : List Line} (filled : block ≠ []) (others : List (List Line)) :
    shown (joinBlocks (block :: others)) ≠ shown (joinBlocks []) := by
  rw [join_blocks_cons]
  simp [joinBlocks, filled]

theorem join_unique (depth : Nat) (a b : List (List Line))
    (aBlocks : ∀ block ∈ a, Braced depth block ∨ Plain block)
    (bBlocks : ∀ block ∈ b, Braced depth block ∨ Plain block)
    (same : shown (joinBlocks a) = shown (joinBlocks b)) : a.map shown = b.map shown := by
  apply spaced_unique depth a b aBlocks bBlocks
  cases a with
  | nil =>
      cases b with
      | nil => rfl
      | cons y b => exact absurd same.symm (join_not_nil (not_nil (bBlocks y (by simp))) b)
  | cons x a =>
      cases b with
      | nil => exact absurd same (join_not_nil (not_nil (aBlocks x (by simp))) a)
      | cons y b =>
          rw [join_blocks_cons, join_blocks_cons] at same
          simpa [spaced] using same

end Block

end ProtoSchema
