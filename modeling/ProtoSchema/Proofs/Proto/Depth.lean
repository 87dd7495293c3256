import ProtoSchema.Proofs.Proto.Lines
import ProtoSchema.Proofs.Text.Layout

set_option autoImplicit false

namespace ProtoSchema

namespace Text

def tabbed (tabs : Nat) (line : List Char) : List Char :=
  if line = [] then [] else List.replicate tabs '\t' ++ line

def indentedBy (tabs : Nat) (text : String) : String :=
  String.ofList (['\n'].intercalate ((pieces '\n' text.toList).map (tabbed tabs)))

theorem intercalate_ended (written : List (List Char)) :
    ['\n'].intercalate (written ++ [[]]) = written.flatMap (· ++ ['\n']) := by
  induction written with
  | nil => rfl
  | cons line rest ih =>
      cases rest with
      | nil => simp [List.intercalate]
      | cons next others =>
          rw [List.flatMap_cons, ← ih]
          simp [List.intercalate]

theorem indented_by_ended {tabs : Nat} {text : String} {written : List (List Char)}
    (chars : text.toList = written.flatMap (· ++ ['\n'])) (whole : ∀ line ∈ written, '\n' ∉ line) :
    (indentedBy tabs text).toList = (written.map (tabbed tabs)).flatMap (· ++ ['\n']) := by
  have last : [[]].map (tabbed tabs) = [[]] := rfl
  rw [indentedBy, String.toList_ofList, chars, pieces_ended whole, List.map_append, last,
    intercalate_ended]

example : indentedBy 2 "\ta b\n\n\nc\n" = "\t\t\ta b\n\n\n\t\tc\n" := by decide

end Text

namespace Line

def deeper (more : Nat) : Line → Line
  | .blank => .blank
  | .text depth content => .text (depth + more) content

def Filled : Line → Prop
  | .blank => True
  | .text _ content => content ≠ ""

theorem chars_deeper (more : Nat) {line : Line} (filled : line.Filled) :
    (line.deeper more).chars = Text.tabbed more line.chars := by
  cases line with
  | blank => rfl
  | text depth content =>
      have some : (text depth content).chars ≠ [] := by
        intro empty
        rw [chars_text] at empty
        exact filled (String.toList_eq_nil_iff.mp (List.append_eq_nil_iff.mp empty).2)
      rw [Text.tabbed, if_neg some, deeper, chars_text, chars_text, Nat.add_comm,
        ← List.replicate_append_replicate, List.append_assoc]

end Line

theorem render_deeper (more : Nat) {lines : List Line} (whole : ∀ line ∈ lines, '\n' ∉ line.chars)
    (filled : ∀ line ∈ lines, line.Filled) :
    renderLines (lines.map (Line.deeper more)) = Text.indentedBy more (renderLines lines) := by
  have chars : (renderLines lines).toList = (lines.map Line.chars).flatMap (· ++ ['\n']) := by
    rw [render_lines_chars, List.flatMap_map]
  have moved : lines.map (fun line => (line.deeper more).chars) =
      (lines.map Line.chars).map (Text.tabbed more) := by
    rw [List.map_map]
    exact List.map_congr_left fun line member => Line.chars_deeper more (filled line member)
  apply String.toList_inj.mp
  rw [Text.indented_by_ended chars (List.forall_mem_map.mpr whole), ← moved, render_lines_chars,
    List.flatMap_map, List.flatMap_map]

theorem braced_deeper (more depth : Nat) (header : String) (body : List Line) :
    braced (depth + more) header (body.map (Line.deeper more)) =
      (braced depth header body).map (Line.deeper more) := by
  simp [braced, Line.deeper]

theorem join_blocks_deeper (more : Nat) (blocks : List (List Line)) :
    joinBlocks (blocks.map (List.map (Line.deeper more))) =
      (joinBlocks blocks).map (Line.deeper more) := by
  cases blocks with
  | nil => rfl
  | cons block others =>
      rw [List.map_cons, join_blocks_cons, join_blocks_cons, List.map_append, spaced, spaced,
        List.flatMap_map, List.map_flatMap]
      rfl

theorem optional_block_deeper (more : Nat) (lines : List Line) :
    optionalBlock (lines.map (Line.deeper more)) =
      (optionalBlock lines).map (List.map (Line.deeper more)) := by
  cases lines <;> rfl

theorem EnumType.lines_deeper (more depth : Nat) (e : EnumType) :
    e.lines (depth + more) = (e.lines depth).map (Line.deeper more) := by
  have entries : e.byOrdinal.map (entryLine (depth + more + 1)) =
      (e.byOrdinal.map (entryLine (depth + 1))).map (Line.deeper more) := by
    rw [List.map_map, Nat.add_right_comm]
    rfl
  rw [EnumType.lines, entries, braced_deeper, EnumType.lines]

theorem Field.line_deeper (more depth : Nat) (message : String) (field : Field) :
    field.line (depth + more) message = (field.line depth message).map (Line.deeper more) := by
  cases numbered : field.tag with
  | none => simp only [Field.line, numbered, Except.map]
  | some tag => simp only [Field.line, numbered, Except.map, Line.deeper]

namespace Message

theorem body_blocks_deeper (more depth : Nat) (message : Message) (nested : List (List Line))
    (own : List Line) :
    message.bodyBlocks (depth + more) (nested.map (List.map (Line.deeper more)))
        (own.map (Line.deeper more)) =
      (message.bodyBlocks depth nested own).map (List.map (Line.deeper more)) := by
  have enums : message.enums.map (EnumType.lines (depth + more)) =
      (message.enums.map (EnumType.lines depth)).map (List.map (Line.deeper more)) := by
    rw [List.map_map]
    exact List.map_congr_left fun e _ => e.lines_deeper more depth
  rw [bodyBlocks, bodyBlocks, enums, optional_block_deeper, List.map_append, List.map_append]

-- The induction carries the depth, as nested messages stand one level deeper.
theorem lines_deeper (more depth : Nat) (message : Message) :
    message.lines (depth + more) = (message.lines depth).map (List.map (Line.deeper more)) := by
  induction message using nested_induction generalizing depth with
  | step message ih =>
      have level : depth + more + 1 = depth + 1 + more := Nat.add_right_comm depth more 1
      have nested := map_m_map_results fun inner among => ih inner among (depth + 1)
      have own := map_m_map_results fun field (_ : field ∈ message.fields) =>
        field.line_deeper more (depth + 1) message.name
      rw [lines_eq, lines_eq, level, nested, own]
      cases message.messages.mapM (lines (depth + 1)) with
      | error e => rfl
      | ok nestedLines =>
          cases message.fields.mapM (Field.line (depth + 1) message.name) with
          | error e => rfl
          | ok ownLines =>
              apply congrArg Except.ok
              rw [body_blocks_deeper, join_blocks_deeper, braced_deeper]

end Message

theorem EnumType.lines_filled (depth : Nat) (e : EnumType) :
    ∀ line ∈ e.lines depth, line.Filled := by
  intro line member
  rcases mem_lines member with rfl | rfl | ⟨entry, _, rfl⟩
  · simp [Line.Filled]
  · simp [Line.Filled]
  · simp [Line.Filled, entryLine]

theorem Field.content_filled (field : Field) (tag : UInt32) : field.content tag ≠ "" := by
  intro empty
  have last := field.content_last tag
  simp [empty] at last

theorem Message.lines_filled (message : Message) (depth : Nat) (ls : List Line)
    (written : message.lines depth = .ok ls) : ∀ line ∈ ls, line.Filled := by
  induction message using nested_induction generalizing depth ls with
  | step message ih =>
      intro line member
      rcases lines_inner written member with rfl | rfl | inner
      · simp [Line.Filled]
      · simp [Line.Filled]
      · cases inner with
        | blank => trivial
        | enumeration among inside => exact EnumType.lines_filled _ _ line inside
        | nested among innerWritten inside => exact ih _ among _ _ innerWritten line inside
        | field among tag => exact Field.content_filled _ tag

-- A line feed inside a name would start a line that the depth does not indent.
theorem depth_only_indents (depth more : Nat) :
    (∀ message : Message,
      (∀ inner ∈ message.withNested, ∀ text ∈ inner.ownStrings, '\n' ∉ text.toList) →
      (message.lines (depth + more)).map renderLines =
        ((message.lines depth).map renderLines).map (Text.indentedBy more)) ∧
    ∀ e : EnumType, (∀ text ∈ e.strings, '\n' ∉ text.toList) →
      renderLines (e.lines (depth + more)) = Text.indentedBy more (renderLines (e.lines depth)) := by
  constructor
  · intro message whole
    rw [message.lines_deeper more depth]
    cases written : message.lines depth with
    | error e => rfl
    | ok ls =>
        have filled := message.lines_filled depth ls written
        apply congrArg Except.ok
        exact render_deeper more (Message.lines_whole whole written) filled
  · intro e whole
    rw [e.lines_deeper more depth]
    exact render_deeper more (e.lines_whole depth whole) (e.lines_filled depth)

-- Blank lines at several depths, and names that are empty or look like other lines.
def shelf : Message :=
  ⟨"Shelf", [⟨"\x7d", "Book", some 1, true, true⟩], [⟨"", .ofList [("\t", 1), ("A", 0)]⟩, ⟨"E", .empty⟩],
    [⟨"Book", [⟨"", "\t", some 2, false, false⟩], [⟨"Kind", .empty⟩], [⟨"", [], [], []⟩]⟩]⟩

def pile : Message :=
  ⟨"Pile", [], [], [⟨"Page", [⟨"words", "string", none, false, false⟩], [], []⟩]⟩

theorem shelf_only_indented :
    (∃ text, (shelf.lines 1).map renderLines = .ok text ∧
      (shelf.lines 3).map renderLines = .ok (Text.indentedBy 2 text)) ∧
    (pile.lines 3).map renderLines = .error (.missingTag "Page" "words") ∧
    ∀ e ∈ shelf.enums,
      renderLines (e.lines 3) = Text.indentedBy 2 (renderLines (e.lines 1)) := by
  obtain ⟨messages, enums⟩ := depth_only_indents 1 2
  obtain ⟨text, written⟩ : ∃ text, (shelf.lines 1).map renderLines = .ok text := ⟨_, rfl⟩
  have shelfWhole : ∀ inner ∈ shelf.withNested, ∀ text ∈ inner.ownStrings, '\n' ∉ text.toList := by
    decide
  have pileWhole : ∀ inner ∈ pile.withNested, ∀ text ∈ inner.ownStrings, '\n' ∉ text.toList := by
    decide
  have enumsWhole : ∀ e ∈ shelf.enums, ∀ text ∈ e.strings, '\n' ∉ text.toList := by decide
  refine ⟨⟨text, written, ?_⟩, messages pile pileWhole, fun e among => enums e (enumsWhole e among)⟩
  rw [messages shelf shelfWhole, written]
  rfl

end ProtoSchema
