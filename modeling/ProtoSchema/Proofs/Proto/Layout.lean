import ProtoSchema.Proofs.Proto.Unambiguous
import ProtoSchema.Proofs.Text.Layout

set_option autoImplicit false

namespace ProtoSchema

open Text (Flat Tidy opens closes indent)

theorem Text.not_closes_of_last {line : List Char} {c : Char} (last : line.getLast? = some c)
    (other : c ≠ '\x7d') : closes line = false := by
  refine beq_false_of_ne fun rest => ?_
  rw [← List.takeWhile_append_dropWhile (p := (· == '\t')) (l := line), rest,
    List.getLast?_concat] at last
  exact other (Option.some.inj last).symm

theorem Text.not_opens_of_last {line : List Char} {c : Char} (last : line.getLast? = some c)
    (other : c ≠ '\x7b') : opens line = false := by
  rw [opens, last]
  exact beq_false_of_ne fun same => other (Option.some.inj same)

theorem Text.indent_tabs (d : Nat) (content : List Char) :
    d ≤ indent (List.replicate d '\t' ++ content) := by
  simp [indent]

theorem Line.flat_of_last {depth : Nat} {content : String} {c : Char}
    (last : (Line.text depth content).chars.getLast? = some c) (notOpens : c ≠ '\x7b')
    (notCloses : c ≠ '\x7d') : Flat depth (Line.text depth content).chars where
  filled := fun empty => by simp [empty] at last
  notOpens := Text.not_opens_of_last last notOpens
  notCloses := Text.not_closes_of_last last notCloses
  indented := by
    rw [chars_text]
    exact Text.indent_tabs depth _

theorem Line.flat_of_ended (depth : Nat) (front back : String)
    (ended : back.toList.getLast? = some ';') : Flat depth (Line.text depth (front ++ back)).chars :=
  flat_of_last (ended_last front ended) (by decide) (by decide)

theorem Field.content_flat (depth : Nat) (field : Field) (tag : UInt32) :
    Flat depth (Line.text depth (field.content tag)).chars := by
  refine Line.flat_of_last (Line.chars_last (field.content_last tag)) ?_ ?_
  all_goals cases field.required <;> decide

theorem join_blocks_tidy {d : Nat} {blocks : List (List Line)}
    (each : ∀ block ∈ blocks, block ≠ [] ∧ Tidy d (shown block)) :
    Tidy d (shown (joinBlocks blocks)) := by
  induction blocks with
  | nil => exact .nil d
  | cons block rest ih =>
      have own := each block List.mem_cons_self
      have later := fun other member => each other (List.mem_cons_of_mem block member)
      cases rest with
      | nil =>
          rw [join_blocks_cons]
          simpa [spaced] using own.2
      | cons next others =>
          have below := ih later
          have nextFilled := (later next List.mem_cons_self).1
          rw [join_blocks_cons] at below ⊢
          have both := own.2.separated below (by simpa using own.1) (by simp [nextFilled])
          simpa [spaced] using both

theorem braced_tidy {d : Nat} (header : String) {body : List Line} (tidy : Tidy (d + 1) (shown body)) :
    Tidy d (shown (braced d header body)) := by
  have headerLast : (Line.text d (header ++ " \x7b")).chars.getLast? = some '\x7b' :=
    Line.ended_last header rfl
  have closerLast : (Block.closer d).getLast? = some '\x7d' := List.getLast?_concat
  rw [Block.braced_shown]
  refine tidy.enclosed ?_ (Text.not_closes_of_last headerLast (by decide)) ?_ ?_
    (Text.not_opens_of_last closerLast (by decide)) (Text.indent_tabs d _)
  · exact beq_iff_eq.mpr headerLast
  · rw [Line.chars_text]
    exact Text.indent_tabs d _
  · simp [closes, Block.closer]

theorem optional_block_tidy {d : Nat} {lines : List Line} (flat : ∀ line ∈ lines, Flat d line.chars) :
    ∀ block ∈ optionalBlock lines, block ≠ [] ∧ Tidy d (shown block) := by
  cases lines with
  | nil => simp [optionalBlock]
  | cons first others =>
      intro block among
      obtain rfl : block = first :: others := by simpa [optionalBlock] using among
      exact ⟨by simp, .of_flat (List.forall_mem_map.mpr flat)⟩

theorem EnumType.lines_tidy (d : Nat) (e : EnumType) : Tidy d (shown (e.lines d)) := by
  refine braced_tidy _ (.of_flat fun line member => ?_)
  obtain ⟨written, among, rfl⟩ := List.mem_map.mp member
  obtain ⟨entry, _, rfl⟩ := List.mem_map.mp among
  exact Line.flat_of_ended (d + 1) (entry.1 ++ " = " ++ Decimal.text entry.2.toNat) ";" rfl

namespace Message

theorem lines_tidy (message : Message) (d : Nat) (ls : List Line)
    (written : message.lines d = .ok ls) : ls ≠ [] ∧ Tidy d (shown ls) := by
  induction message using nested_induction generalizing d ls with
  | step message ih =>
      obtain ⟨nested, own, nestedWritten, ownWritten, rfl⟩ :=
        (lines_eq_ok_iff d message ls).mp written
      refine ⟨by simp [braced], braced_tidy _ (join_blocks_tidy fun block member => ?_)⟩
      simp only [bodyBlocks, List.mem_append, List.mem_map] at member
      rcases member with (⟨e, _, rfl⟩ | nestedBlock) | ownBlock
      · exact ⟨by simp [EnumType.lines, braced], e.lines_tidy (d + 1)⟩
      · obtain ⟨inner, among, innerWritten⟩ := mem_of_map_m_ok nestedWritten nestedBlock
        exact ih inner among (d + 1) block innerWritten
      · refine optional_block_tidy (fun line inside => ?_) block ownBlock
        obtain ⟨field, _, fieldWritten⟩ := mem_of_map_m_ok ownWritten inside
        obtain ⟨tag, _, rfl⟩ := Field.line_eq_ok fieldWritten
        exact field.content_flat (d + 1) tag

end Message

namespace ProtoFile

variable {file : ProtoFile} {messages : List (List Line)}

theorem blocks_tidy (written : file.messages.mapM (Message.lines 0) = .ok messages) :
    ∀ block ∈ file.blocks messages, block ≠ [] ∧ Tidy 0 (shown block) := by
  intro block member
  rcases mem_blocks member with ⟨_, rfl⟩ | imports | sections
  · refine ⟨by simp, .of_flat fun line inside => ?_⟩
    obtain rfl := List.mem_singleton.mp inside
    exact Line.flat_of_ended 0 ("package " ++ file.package) ";" rfl
  · refine optional_block_tidy (fun line inside => ?_) block imports
    obtain ⟨name, _, rfl⟩ := List.mem_map.mp inside
    exact Line.flat_of_ended 0 ("import \"" ++ name) "\";" rfl
  · rcases List.mem_append.mp sections with enumBlock | messageBlock
    · obtain ⟨e, _, rfl⟩ := List.mem_map.mp enumBlock
      exact ⟨by simp [EnumType.lines, braced], e.lines_tidy 0⟩
    · obtain ⟨message, _, messageWritten⟩ := mem_of_map_m_ok written messageBlock
      exact message.lines_tidy 0 block messageWritten

theorem lines_tidy (written : file.messages.mapM (Message.lines 0) = .ok messages) :
    Tidy 0 (shown (file.versionLine :: spaced (file.blocks messages))) := by
  have joined := join_blocks_cons [file.versionLine] (file.blocks messages)
  rw [List.singleton_append] at joined
  rw [← joined]
  refine join_blocks_tidy fun block member => ?_
  rcases List.mem_cons.mp member with rfl | later
  · refine ⟨by simp, .of_flat fun line inside => ?_⟩
    obtain rfl := List.mem_singleton.mp inside
    exact Line.flat_of_ended 0 ("syntax = \"proto" ++ Decimal.text file.version.toNat) "\";" rfl
  · exact blocks_tidy written block later

theorem text_laid_out (file : ProtoFile) (text : String)
    (whole : ∀ string ∈ file.strings, '\n' ∉ string.toList) (written : file.text = .ok text) :
    Text.LaidOut text := by
  obtain ⟨messages, messagesWritten, rfl⟩ := (text_eq_ok_iff file text).mp written
  refine Text.laid_out_of_tidy ?_ ?_ ?_ (lines_tidy messagesWritten)
  · rw [render_lines_chars, List.flatMap_map]
  · exact List.forall_mem_map.mpr (lines_whole messagesWritten whole)
  · simp

-- Names that look like braces, and messages with only some of their sections.
def crampedFile : ProtoFile :=
  { empty "" with
    enums := [⟨"\x7d", .empty⟩]
    messages := [⟨"Outer", [], [], [
      ⟨"Inner \x7b", [⟨"x \x7b", "\tbytes", some 1, true, true⟩],
        [⟨"E", .ofList [("\x7d", 0), ("A \x7b", 1)]⟩], [⟨"", [], [], []⟩]⟩,
      ⟨"Bare", [⟨"\x7d", "string", some 2, false, false⟩], [], []⟩]⟩] }

theorem cramped_file_laid_out : ∃ text, crampedFile.text = .ok text ∧ Text.LaidOut text := by
  obtain ⟨text, written⟩ : ∃ text, crampedFile.text = .ok text := ⟨_, rfl⟩
  exact ⟨text, written, text_laid_out crampedFile text (by decide) written⟩

end ProtoFile

end ProtoSchema
