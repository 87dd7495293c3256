import ProtoSchema.Proofs.FirstFailure
import ProtoSchema.Proofs.Proto.Content
import ProtoSchema.Proofs.Proto.Nested

set_option autoImplicit false

namespace ProtoSchema

namespace Line

def chars (line : Line) : List Char := line.render.toList

@[simp] theorem chars_blank : blank.chars = [] := rfl

@[simp] theorem chars_text (depth : Nat) (content : String) :
    (text depth content).chars = List.replicate depth '\t' ++ content.toList := by
  simp [chars, render]

theorem chars_last {depth : Nat} {content : String} {c : Char}
    (last : content.toList.getLast? = some c) : (text depth content).chars.getLast? = some c := by
  rw [chars_text, List.getLast?_append, last]
  rfl

theorem ended_last {depth : Nat} (front : String) {back : String} {c : Char}
    (last : back.toList.getLast? = some c) :
    (text depth (front ++ back)).chars.getLast? = some c := by
  apply chars_last
  rw [String.toList_append, List.getLast?_append, last]
  rfl

def Within (depth : Nat) : Line → Prop
  | .blank => True
  | .text k _ => depth ≤ k

theorem within_of_deeper {outer inner : Nat} (deeper : outer ≤ inner) {line : Line}
    (within : line.Within inner) : line.Within outer := by
  cases line with
  | blank => trivial
  | text k content => exact Nat.le_trans deeper within

end Line

theorem render_lines_chars (lines : List Line) :
    (renderLines lines).toList = lines.flatMap fun line => line.chars ++ ['\n'] := by
  simp [renderLines, Line.chars, List.flatMap_map]

-- The same lines with a blank one before every block, the first included.
def spaced (blocks : List (List Line)) : List Line := blocks.flatMap (Line.blank :: ·)

theorem join_blocks_cons (block : List Line) (blocks : List (List Line)) :
    joinBlocks (block :: blocks) = block ++ spaced blocks := by
  induction blocks generalizing block with
  | nil => simp [joinBlocks, spaced, List.intercalate]
  | cons next others ih =>
      have rest : joinBlocks (next :: others) = next ++ spaced others := ih next
      have step : joinBlocks (block :: next :: others) =
          block ++ .blank :: joinBlocks (next :: others) := by
        simp [joinBlocks, List.intercalate]
      rw [step, rest]
      simp [spaced]

theorem mem_join_blocks {blocks : List (List Line)} {line : Line}
    (member : line ∈ joinBlocks blocks) : line = .blank ∨ ∃ block ∈ blocks, line ∈ block := by
  cases blocks with
  | nil => simp [joinBlocks] at member
  | cons first others =>
      rw [join_blocks_cons] at member
      rcases List.mem_append.mp member with here | later
      · exact .inr ⟨first, by simp, here⟩
      · obtain ⟨block, among, inside⟩ := List.mem_flatMap.mp later
        rcases List.mem_cons.mp inside with blank | inside
        · exact .inl blank
        · exact .inr ⟨block, by simp [among], inside⟩

theorem mem_optional_block {lines block : List Line} {line : Line}
    (among : block ∈ optionalBlock lines) (member : line ∈ block) : line ∈ lines := by
  by_cases none : lines.isEmpty
  · simp [optionalBlock, none] at among
  · obtain rfl : block = lines := by simpa [optionalBlock, none] using among
    exact member

theorem mem_braced {depth : Nat} {header : String} {body : List Line} {line : Line}
    (member : line ∈ braced depth header body) :
    line = .text depth (header ++ " \x7b") ∨ line = .text depth "\x7d" ∨ line ∈ body := by
  simp only [braced, List.mem_cons, List.mem_append, List.not_mem_nil, or_false] at member
  rcases member with header | inside | closer
  · exact .inl header
  · exact .inr (.inr inside)
  · exact .inr (.inl closer)

theorem EnumType.mem_lines {depth : Nat} {e : EnumType} {line : Line}
    (member : line ∈ e.lines depth) :
    line = .text depth ("enum " ++ e.name ++ " \x7b") ∨ line = .text depth "\x7d" ∨
      ∃ entry ∈ e.values.entries, line = entryLine (depth + 1) entry := by
  rcases mem_braced member with header | closer | inside
  · exact .inl header
  · exact .inr (.inl closer)
  · obtain ⟨entry, entryMember, rfl⟩ := List.mem_map.mp inside
    exact .inr (.inr ⟨entry, List.mem_mergeSort.mp entryMember, rfl⟩)

theorem Field.line_eq_ok {depth : Nat} {message : String} {field : Field} {line : Line}
    (written : field.line depth message = .ok line) :
    ∃ tag, field.tag = some tag ∧ line = .text depth (field.content tag) := by
  cases numbered : field.tag with
  | none => simp [Field.line, numbered] at written
  | some tag => exact ⟨tag, rfl, by simpa [Field.line, numbered, eq_comm] using written⟩

namespace Message

theorem blocks_eq_map_m (depth : Nat) (messages : List Message) :
    blocks depth messages = messages.mapM (lines depth) := by
  induction messages with
  | nil => rfl
  | cons message rest ih =>
      rw [List.mapM_cons, blocks, ih]

def bodyBlocks (depth : Nat) (message : Message) (nested : List (List Line)) (own : List Line) :
    List (List Line) :=
  message.enums.map (EnumType.lines depth) ++ nested ++ optionalBlock own

theorem lines_eq (depth : Nat) (message : Message) :
    message.lines depth = do
      let nested ← message.messages.mapM (lines (depth + 1))
      let own ← message.fields.mapM (Field.line (depth + 1) message.name)
      return braced depth ("message " ++ message.name)
        (joinBlocks (message.bodyBlocks (depth + 1) nested own)) := by
  cases message
  rw [lines, blocks_eq_map_m]
  rfl

theorem lines_eq_ok_iff (depth : Nat) (message : Message) (ls : List Line) :
    message.lines depth = .ok ls ↔ ∃ nested own,
      message.messages.mapM (lines (depth + 1)) = .ok nested ∧
      message.fields.mapM (Field.line (depth + 1) message.name) = .ok own ∧
      ls = braced depth ("message " ++ message.name)
        (joinBlocks (message.bodyBlocks (depth + 1) nested own)) := by
  rw [lines_eq]
  cases message.messages.mapM (lines (depth + 1)) with
  | error e => simp [bind, Except.bind]
  | ok nested =>
      cases message.fields.mapM (Field.line (depth + 1) message.name) with
      | error e => simp [bind, Except.bind]
      | ok own => simp [bind, Except.bind, pure, Except.pure, eq_comm]

-- The lines inside the braces of a message are taken apart once; what holds of all lines of a
-- message is an induction on this.
inductive InnerLine (depth : Nat) (message : Message) : Line → Prop
  | blank : InnerLine depth message .blank
  | enumeration {e : EnumType} {line : Line} (among : e ∈ message.enums)
      (inside : line ∈ e.lines depth) : InnerLine depth message line
  | nested {inner : Message} {ls : List Line} {line : Line} (among : inner ∈ message.messages)
      (written : inner.lines depth = .ok ls) (inside : line ∈ ls) : InnerLine depth message line
  | field {field : Field} (among : field ∈ message.fields) (tag : UInt32) :
      InnerLine depth message (.text depth (field.content tag))

theorem body_inner {depth : Nat} {message : Message} {nested : List (List Line)} {own : List Line}
    (nestedWritten : message.messages.mapM (lines depth) = .ok nested)
    (ownWritten : message.fields.mapM (Field.line depth message.name) = .ok own) {line : Line}
    (member : line ∈ joinBlocks (message.bodyBlocks depth nested own)) :
    InnerLine depth message line := by
  rcases mem_join_blocks member with rfl | ⟨block, among, inside⟩
  · exact .blank
  · simp only [bodyBlocks, List.mem_append, List.mem_map] at among
    rcases among with (⟨e, enumMember, rfl⟩ | nestedMember) | ownBlock
    · exact .enumeration enumMember inside
    · obtain ⟨inner, innerMember, innerWritten⟩ := mem_of_map_m_ok nestedWritten nestedMember
      exact .nested innerMember innerWritten inside
    · obtain ⟨field, fieldMember, fieldWritten⟩ :=
        mem_of_map_m_ok ownWritten (mem_optional_block ownBlock inside)
      obtain ⟨tag, numbered, rfl⟩ := Field.line_eq_ok fieldWritten
      exact .field fieldMember tag

theorem lines_inner {depth : Nat} {message : Message} {ls : List Line} {line : Line}
    (written : message.lines depth = .ok ls) (member : line ∈ ls) :
    line = .text depth ("message " ++ message.name ++ " \x7b") ∨ line = .text depth "\x7d" ∨
      InnerLine (depth + 1) message line := by
  obtain ⟨nested, own, nestedWritten, ownWritten, rfl⟩ := (lines_eq_ok_iff depth message ls).mp written
  rcases mem_braced member with header | closer | inside
  · exact .inl header
  · exact .inr (.inl closer)
  · exact .inr (.inr (body_inner nestedWritten ownWritten inside))

end Message

theorem EnumType.lines_within (depth : Nat) (e : EnumType) :
    ∀ line ∈ e.lines depth, line.Within depth := by
  intro line member
  rcases mem_lines member with rfl | rfl | ⟨entry, _, rfl⟩
  · exact Nat.le_refl depth
  · exact Nat.le_refl depth
  · exact Nat.le_succ depth

theorem Message.inner_within {depth : Nat} {message : Message}
    (nested : ∀ inner ∈ message.messages, ∀ ls, inner.lines depth = .ok ls →
      ∀ line ∈ ls, line.Within depth)
    {line : Line} (inner : InnerLine depth message line) : line.Within depth := by
  cases inner with
  | blank => trivial
  | enumeration among inside => exact EnumType.lines_within _ _ line inside
  | nested among written inside => exact nested _ among _ written line inside
  | field among tag => exact Nat.le_refl _

theorem Message.lines_within (message : Message) (depth : Nat) (ls : List Line)
    (written : message.lines depth = .ok ls) : ∀ line ∈ ls, line.Within depth := by
  induction message using nested_induction generalizing depth ls with
  | step message ih =>
      intro line member
      rcases lines_inner written member with rfl | rfl | inner
      · exact Nat.le_refl depth
      · exact Nat.le_refl depth
      · apply Line.within_of_deeper (Nat.le_succ depth)
        exact inner_within (fun nested among => ih nested among (depth + 1)) inner

namespace ProtoFile

def blocks (file : ProtoFile) (messages : List (List Line)) : List (List Line) :=
  (if file.package.isEmpty then [] else [[file.packageLine]]) ++
    (optionalBlock (file.imports.map importLine) ++
      (file.enums.map (EnumType.lines 0) ++ messages))

theorem text_eq (file : ProtoFile) :
    file.text = (file.messages.mapM (Message.lines 0)).map fun messages =>
      renderLines (file.versionLine :: spaced (file.blocks messages)) := by
  have shape (messages : List (List Line)) :
      joinBlocks (file.headerBlocks ++ (file.enums.map (EnumType.lines 0) ++ messages)) =
        file.versionLine :: spaced (file.blocks messages) := by
    simp only [headerBlocks, List.cons_append, List.append_assoc, join_blocks_cons, blocks,
      List.nil_append]
  rw [ProtoFile.text, lines, Message.blocks_eq_map_m]
  cases file.messages.mapM (Message.lines 0) with
  | error e => rfl
  | ok messages => simp [bind, Except.bind, Except.map, pure, Except.pure, shape]

theorem text_eq_ok_iff (file : ProtoFile) (text : String) :
    file.text = .ok text ↔ ∃ messages, file.messages.mapM (Message.lines 0) = .ok messages ∧
      text = renderLines (file.versionLine :: spaced (file.blocks messages)) := by
  rw [text_eq]
  cases file.messages.mapM (Message.lines 0) <;> simp [Except.map, eq_comm]

end ProtoFile

theorem not_digit_line_feed (n : Nat) : '\n' ∉ Decimal.digits n :=
  fun member => absurd (Decimal.digits_are_digits n '\n' member) (by decide)

theorem EnumType.line_feed_source {depth : Nat} {e : EnumType} {line : Line}
    (member : line ∈ e.lines depth) (feed : '\n' ∈ line.chars) :
    ∃ text ∈ e.strings, '\n' ∈ text.toList := by
  rcases mem_lines member with rfl | rfl | ⟨entry, among, rfl⟩
  · exact ⟨e.name, by simp [strings], by simpa using feed⟩
  · simp at feed
  · refine ⟨entry.1, ?_, ?_⟩
    · exact List.mem_cons_of_mem _ (List.mem_map_of_mem among)
    · simpa [entryLine, Decimal.text, not_digit_line_feed] using feed

theorem Field.line_feed_source {field : Field} {tag : UInt32}
    (feed : '\n' ∈ (field.content tag).toList) :
    '\n' ∈ field.name.toList ∨ '\n' ∈ field.typeName.toList := by
  rw [content_chars] at feed
  cases repeated : field.repeated <;> cases required : field.required <;>
    simpa [numbered, label, note, repeated, required, not_digit_line_feed, or_comm] using feed

theorem Message.line_feed_source (message : Message) (depth : Nat) (ls : List Line)
    (written : message.lines depth = .ok ls) :
    ∀ line ∈ ls, '\n' ∈ line.chars →
      ∃ inner ∈ message.withNested, ∃ text ∈ inner.ownStrings, '\n' ∈ text.toList := by
  induction message using nested_induction generalizing depth ls with
  | step message ih =>
      intro line member feed
      have own := self_mem_with_nested message
      rcases lines_inner written member with rfl | rfl | inner
      · exact ⟨message, own, message.name, by simp [ownStrings], by simpa using feed⟩
      · simp at feed
      · cases inner with
        | blank => simp at feed
        | enumeration among inside =>
            obtain ⟨text, textMember, textFeed⟩ := EnumType.line_feed_source inside feed
            refine ⟨message, own, text, ?_, textFeed⟩
            simp only [ownStrings, List.mem_cons, List.mem_append, List.mem_flatMap]
            exact .inr (.inr ⟨_, among, textMember⟩)
        | nested among innerWritten inside =>
            obtain ⟨deepest, deepestMember, source⟩ := ih _ among _ _ innerWritten line inside feed
            exact ⟨deepest, nested_mem_with_nested among deepestMember, source⟩
        | @field field among tag =>
            have parts : ∀ text ∈ [field.name, field.typeName], text ∈ message.ownStrings := by
              intro text part
              simp only [ownStrings, List.mem_cons, List.mem_append, List.mem_flatMap]
              exact .inr (.inl ⟨field, among, by simpa using part⟩)
            have content : '\n' ∈ (field.content tag).toList := by simpa using feed
            rcases Field.line_feed_source content with inName | inType
            · exact ⟨message, own, field.name, parts _ (by simp), inName⟩
            · exact ⟨message, own, field.typeName, parts _ (by simp), inType⟩

theorem EnumType.lines_whole (depth : Nat) {e : EnumType}
    (whole : ∀ text ∈ e.strings, '\n' ∉ text.toList) :
    ∀ line ∈ e.lines depth, '\n' ∉ line.chars := by
  intro line member feed
  obtain ⟨text, among, textFeed⟩ := line_feed_source member feed
  exact whole text among textFeed

theorem Message.lines_whole {message : Message} {depth : Nat} {ls : List Line}
    (whole : ∀ inner ∈ message.withNested, ∀ text ∈ inner.ownStrings, '\n' ∉ text.toList)
    (written : message.lines depth = .ok ls) : ∀ line ∈ ls, '\n' ∉ line.chars := by
  intro line member feed
  obtain ⟨inner, among, text, own, textFeed⟩ :=
    message.line_feed_source depth ls written line member feed
  exact whole inner among text own textFeed

end ProtoSchema
