import ProtoSchema.Proofs.EnumOrder
import ProtoSchema.Proofs.Proto.Blocks

set_option autoImplicit false

namespace ProtoSchema

theorem header_unique {depth : Nat} {word a b : String}
    (same : (Line.text depth (word ++ a ++ " \x7b")).chars =
      (Line.text depth (word ++ b ++ " \x7b")).chars) : a = b := by
  simp only [Line.chars_text, String.toList_append, List.append_assoc] at same
  have names := List.append_cancel_left (List.append_cancel_left same)
  exact String.toList_inj.mp (List.append_cancel_right names)

theorem braced_parts {depth : Nat} {word a b : String} {aBody bBody : List Line}
    (same : shown (braced depth (word ++ a) aBody) = shown (braced depth (word ++ b) bBody)) :
    a = b ∧ shown aBody = shown bBody := by
  rw [Block.braced_shown, Block.braced_shown] at same
  obtain ⟨headers, rests⟩ := List.cons.inj same
  exact ⟨header_unique headers, List.append_cancel_right rests⟩

theorem EnumType.lines_unique {depth : Nat} {a b : EnumType}
    (same : shown (a.lines depth) = shown (b.lines depth)) : a = b := by
  obtain ⟨names, bodies⟩ := braced_parts same
  have injective : Function.Injective fun entry => (entryLine (depth + 1) entry).chars := by
    intro x y equal
    exact entry_line_unique (depth + 1) (String.toList_inj.mp equal)
  have ordered : a.byOrdinal = b.byOrdinal :=
    List.map_injective_iff.mpr injective (by simpa [shown, Function.comp_def] using bodies)
  have entries := a.by_ordinal_perm.symm.trans (ordered ▸ b.by_ordinal_perm)
  cases a
  cases b
  exact congr (congrArg EnumType.mk names) (SortedMap.entries_unique entries)

theorem Field.line_unique {depth : Nat} {aMessage bMessage : String} {a b : Field}
    {aLine bLine : Line} (aLegible : a.Legible) (bLegible : b.Legible)
    (aWritten : a.line depth aMessage = .ok aLine) (bWritten : b.line depth bMessage = .ok bLine)
    (same : aLine.chars = bLine.chars) : a = b := by
  obtain ⟨aTag, aNumbered, rfl⟩ := Field.line_eq_ok aWritten
  obtain ⟨bTag, bNumbered, rfl⟩ := Field.line_eq_ok bWritten
  rw [Line.chars_text, Line.chars_text] at same
  have contents := String.toList_inj.mp (List.append_cancel_left same)
  exact Field.content_unique aLegible bLegible aNumbered bNumbered contents

namespace Block

-- A section of a file is told by its first line: by the letter that it starts with, or inside a
-- message, where fields may start like anything, by the brace at its end.
def StartsWith (depth : Nat) (c : Char) (block : List (List Char)) : Prop :=
  ∃ tail, block.head? = some (List.replicate depth '\t' ++ c :: tail)

def Opens (block : List (List Char)) : Prop :=
  ∃ first, block.head? = some first ∧ first.getLast? = some '\x7b'

theorem starts_once {depth : Nat} {c d : Char} (different : c ≠ d) {block : List (List Char)}
    (starts : StartsWith depth c block) : ¬ StartsWith depth d block := by
  rintro ⟨dTail, dFirst⟩
  obtain ⟨cTail, cFirst⟩ := starts
  have firsts := Option.some.inj (cFirst.symm.trans dFirst)
  exact different (List.cons.inj (List.append_cancel_left firsts)).1

theorem opens_of_braced {depth : Nat} {block : List Line} (sort : Braced depth block) :
    Opens (shown block) := by
  obtain ⟨header, body, rfl, _⟩ := sort
  refine ⟨(Line.text depth (header ++ " \x7b")).chars, ?_, by simp⟩
  rw [braced_shown]
  rfl

theorem braced_starts (depth : Nat) (c : Char) (word : List Char) {header : String}
    (start : header.toList = c :: word) (body : List Line) :
    StartsWith depth c (shown (braced depth header body)) := by
  refine ⟨word ++ " \x7b".toList, ?_⟩
  rw [braced_shown]
  simp [start]

theorem plain_not_opens {block : List Line} (plain : Plain block) : ¬ Opens (shown block) := by
  rintro ⟨first, head, last⟩
  cases block with
  | nil => exact plain.1 rfl
  | cons line others =>
      obtain rfl : line.chars = first := by simpa using head
      exact (plain.2 line (by simp)).2 last

theorem optional_unique {a b : List Line}
    (same : (optionalBlock a).map shown = (optionalBlock b).map shown) : shown a = shown b := by
  cases a <;> cases b <;> simp_all [optionalBlock]

end Block

theorem EnumType.lines_braced (depth : Nat) (e : EnumType) : Block.Braced depth (e.lines depth) := by
  refine ⟨"enum " ++ e.name, e.byOrdinal.map (entryLine (depth + 1)), rfl, fun line member => ?_⟩
  obtain ⟨entry, _, rfl⟩ := List.mem_map.mp member
  exact Nat.le_refl _

theorem EnumType.lines_start (depth : Nat) (e : EnumType) :
    Block.StartsWith depth 'e' (shown (e.lines depth)) :=
  Block.braced_starts depth 'e' ("num ".toList ++ e.name.toList) (by simp) _

namespace Message

theorem lines_braced {depth : Nat} {message : Message} {ls : List Line}
    (written : message.lines depth = .ok ls) : Block.Braced depth ls := by
  obtain ⟨nested, own, nestedWritten, ownWritten, rfl⟩ := (lines_eq_ok_iff depth message ls).mp written
  refine ⟨_, _, rfl, fun line member => ?_⟩
  have inner := body_inner nestedWritten ownWritten member
  exact inner_within (fun nested _ => nested.lines_within (depth + 1)) inner

theorem lines_start {depth : Nat} {message : Message} {ls : List Line}
    (written : message.lines depth = .ok ls) : Block.StartsWith depth 'm' (shown ls) := by
  obtain ⟨nested, own, _, _, rfl⟩ := (lines_eq_ok_iff depth message ls).mp written
  exact Block.braced_starts depth 'm' ("essage ".toList ++ message.name.toList) (by simp) _

end Message

theorem Field.content_line_plain (depth : Nat) (field : Field) (tag : UInt32) :
    (Line.text depth (field.content tag)).chars ≠ [] ∧
      (Line.text depth (field.content tag)).chars.getLast? ≠ some '\x7b' := by
  have last : (Line.text depth (field.content tag)).chars.getLast? =
      some (if field.required then 'd' else ';') := Line.chars_last (field.content_last tag)
  refine ⟨fun empty => ?_, fun brace => ?_⟩
  · simp [empty] at last
  · rw [brace] at last
    cases required : field.required <;> simp [required] at last

theorem Field.own_plain {depth : Nat} {message : String} {fields : List Field} {own block : List Line}
    (written : fields.mapM (Field.line depth message) = .ok own) (among : block ∈ optionalBlock own) :
    Block.Plain block := by
  cases own with
  | nil => simp [optionalBlock] at among
  | cons first others =>
      obtain rfl : block = first :: others := by simpa [optionalBlock] using among
      refine ⟨by simp, fun line member => ?_⟩
      obtain ⟨field, _, fieldWritten⟩ := mem_of_map_m_ok written member
      obtain ⟨tag, _, rfl⟩ := Field.line_eq_ok fieldWritten
      exact content_line_plain depth field tag

theorem EnumType.list_unique {depth : Nat} {a b : List EnumType}
    (same : (a.map (EnumType.lines depth)).map shown = (b.map (EnumType.lines depth)).map shown) :
    a = b := by
  have injective : Function.Injective fun e => shown (EnumType.lines depth e) :=
    fun _ _ equal => EnumType.lines_unique equal
  exact List.map_injective_iff.mpr injective (by simpa [Function.comp_def] using same)

namespace Message

variable {depth : Nat}

theorem body_sorts {message : Message} {nested : List (List Line)} {own : List Line}
    (nestedWritten : message.messages.mapM (lines depth) = .ok nested)
    (ownWritten : message.fields.mapM (Field.line depth message.name) = .ok own) :
    (∀ block ∈ message.enums.map (EnumType.lines depth) ++ nested, Block.Braced depth block) ∧
      ∀ block ∈ optionalBlock own, Block.Plain block := by
  refine ⟨fun block member => ?_, fun block among => Field.own_plain ownWritten among⟩
  rcases List.mem_append.mp member with enumBlock | nestedBlock
  · obtain ⟨e, _, rfl⟩ := List.mem_map.mp enumBlock
    exact e.lines_braced depth
  · obtain ⟨inner, _, written⟩ := mem_of_map_m_ok nestedWritten nestedBlock
    exact lines_braced written

theorem nested_start {messages : List Message} {nested : List (List Line)}
    (written : messages.mapM (lines depth) = .ok nested) :
    ∀ block ∈ nested.map shown, Block.StartsWith depth 'm' block := by
  intro block member
  obtain ⟨ls, lsMember, rfl⟩ := List.mem_map.mp member
  obtain ⟨inner, _, innerWritten⟩ := mem_of_map_m_ok written lsMember
  exact lines_start innerWritten

theorem enums_start (enums : List EnumType) :
    ∀ block ∈ (enums.map (EnumType.lines depth)).map shown, Block.StartsWith depth 'e' block := by
  intro block member
  obtain ⟨ls, lsMember, rfl⟩ := List.mem_map.mp member
  obtain ⟨e, _, rfl⟩ := List.mem_map.mp lsMember
  exact e.lines_start depth

-- Enumerations come before messages, so the letter of the first line parts them.
theorem braced_sections_unique {aEnums bEnums : List EnumType} {aMessages bMessages : List Message}
    {aNested bNested : List (List Line)} (aWritten : aMessages.mapM (lines depth) = .ok aNested)
    (bWritten : bMessages.mapM (lines depth) = .ok bNested)
    (same : (aEnums.map (EnumType.lines depth)).map shown ++ aNested.map shown =
      (bEnums.map (EnumType.lines depth)).map shown ++ bNested.map shown) :
    aEnums = bEnums ∧ aNested.map shown = bNested.map shown := by
  have letters : 'm' ≠ 'e' := by decide
  obtain ⟨enums, nested⟩ := Text.parts_unique (Block.StartsWith depth 'e') (enums_start aEnums)
    (enums_start bEnums)
    (fun block member => Block.starts_once letters (nested_start aWritten block member))
    (fun block member => Block.starts_once letters (nested_start bWritten block member)) same
  exact ⟨EnumType.list_unique enums, nested⟩

theorem body_unique {a b : Message} {aNested bNested : List (List Line)} {aOwn bOwn : List Line}
    (aNestedWritten : a.messages.mapM (lines depth) = .ok aNested)
    (bNestedWritten : b.messages.mapM (lines depth) = .ok bNested)
    (aOwnWritten : a.fields.mapM (Field.line depth a.name) = .ok aOwn)
    (bOwnWritten : b.fields.mapM (Field.line depth b.name) = .ok bOwn)
    (same : shown (joinBlocks (a.bodyBlocks depth aNested aOwn)) =
      shown (joinBlocks (b.bodyBlocks depth bNested bOwn))) :
    a.enums = b.enums ∧ aNested.map shown = bNested.map shown ∧ shown aOwn = shown bOwn := by
  obtain ⟨aBraced, aPlain⟩ := body_sorts aNestedWritten aOwnWritten
  obtain ⟨bBraced, bPlain⟩ := body_sorts bNestedWritten bOwnWritten
  have blocks := Block.join_unique depth _ _
    (fun block member => (List.mem_append.mp member).imp (aBraced block) (aPlain block))
    (fun block member => (List.mem_append.mp member).imp (bBraced block) (bPlain block)) same
  simp only [List.map_append] at blocks
  have opens {braced : List (List Line)} (sort : ∀ block ∈ braced, Block.Braced depth block) :
      ∀ block ∈ braced.map shown, Block.Opens block := by
    intro block member
    obtain ⟨ls, lsMember, rfl⟩ := List.mem_map.mp member
    exact Block.opens_of_braced (sort ls lsMember)
  have notOpens {own : List Line} (sort : ∀ block ∈ optionalBlock own, Block.Plain block) :
      ∀ block ∈ (optionalBlock own).map shown, ¬ Block.Opens block := by
    intro block member
    obtain ⟨ls, lsMember, rfl⟩ := List.mem_map.mp member
    exact Block.plain_not_opens (sort ls lsMember)
  obtain ⟨front, back⟩ := Text.parts_unique Block.Opens
    (by simpa only [List.map_append] using opens aBraced)
    (by simpa only [List.map_append] using opens bBraced) (notOpens aPlain) (notOpens bPlain) blocks
  obtain ⟨enums, nested⟩ := braced_sections_unique aNestedWritten bNestedWritten front
  exact ⟨enums, nested, Block.optional_unique back⟩

-- The induction carries the depth: the text of a nested message is told apart one level deeper.
theorem lines_unique (a b : Message) (depth : Nat) (aLines bLines : List Line)
    (aLegible : ∀ message ∈ a.withNested, ∀ field ∈ message.fields, field.Legible)
    (bLegible : ∀ message ∈ b.withNested, ∀ field ∈ message.fields, field.Legible)
    (aWritten : a.lines depth = .ok aLines) (bWritten : b.lines depth = .ok bLines)
    (same : shown aLines = shown bLines) : a = b := by
  induction a using nested_induction generalizing b depth aLines bLines with
  | step a ih =>
      obtain ⟨aNested, aOwn, aNestedWritten, aOwnWritten, rfl⟩ :=
        (lines_eq_ok_iff depth a aLines).mp aWritten
      obtain ⟨bNested, bOwn, bNestedWritten, bOwnWritten, rfl⟩ :=
        (lines_eq_ok_iff depth b bLines).mp bWritten
      obtain ⟨names, bodies⟩ := braced_parts same
      obtain ⟨enums, nested, own⟩ :=
        body_unique aNestedWritten bNestedWritten aOwnWritten bOwnWritten bodies
      have messages : a.messages = b.messages := by
        refine map_m_unique shown aNestedWritten bNestedWritten ?_ nested
        intro x xMember y yMember xLines yLines xWritten yWritten equal
        exact ih x xMember y (depth + 1) xLines yLines
          (fun message inside => aLegible message (nested_mem_with_nested xMember inside))
          (fun message inside => bLegible message (nested_mem_with_nested yMember inside))
          xWritten yWritten equal
      have fields : a.fields = b.fields := by
        rw [names] at aOwnWritten
        refine map_m_unique Line.chars aOwnWritten bOwnWritten ?_ own
        intro x xMember y yMember xLine yLine xWritten yWritten equal
        exact Field.line_unique (aLegible a a.self_mem_with_nested x xMember)
          (bLegible b b.self_mem_with_nested y yMember) xWritten yWritten equal
      cases a
      cases b
      simp_all

end Message

end ProtoSchema
