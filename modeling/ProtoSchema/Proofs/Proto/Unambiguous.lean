import ProtoSchema.Proofs.Proto.Sections

set_option autoImplicit false

namespace ProtoSchema

theorem shown_of_render {a b : List Line} (aWhole : ∀ line ∈ a, '\n' ∉ line.chars)
    (bWhole : ∀ line ∈ b, '\n' ∉ line.chars) (same : renderLines a = renderLines b) :
    shown a = shown b := by
  have chars := congrArg String.toList same
  rw [render_lines_chars, render_lines_chars] at chars
  clear same
  induction a generalizing b with
  | nil =>
      cases b with
      | nil => rfl
      | cons line b => simp at chars
  | cons line a ih =>
      cases b with
      | nil => simp at chars
      | cons other b =>
          simp only [List.flatMap_cons, List.append_assoc, List.singleton_append] at chars
          obtain ⟨heads, tails⟩ := Text.first_separator_unique '\n' (aWhole line (by simp))
            (bWhole other (by simp)) chars
          have back := ih (fun x member => aWhole x (by simp [member]))
            (fun x member => bWhole x (by simp [member])) tails
          simp only [List.map_cons, heads, back]

namespace ProtoFile

variable {file : ProtoFile} {messages : List (List Line)}

theorem mem_blocks {block : List Line} (member : block ∈ file.blocks messages) :
    (file.package.isEmpty = false ∧ block = [file.packageLine]) ∨
      block ∈ optionalBlock (file.imports.map importLine) ∨
      block ∈ file.enums.map (EnumType.lines 0) ++ messages := by
  rcases List.mem_append.mp member with package | rest
  · cases empty : file.package.isEmpty with
    | true => simp [empty] at package
    | false => exact .inl ⟨rfl, by simpa [empty] using package⟩
  · exact .inr (List.mem_append.mp rest)

theorem version_line_whole (file : ProtoFile) : '\n' ∉ file.versionLine.chars := by
  simp [versionLine, Decimal.text, not_digit_line_feed]

theorem blocks_whole (written : file.messages.mapM (Message.lines 0) = .ok messages)
    (whole : ∀ text ∈ file.strings, '\n' ∉ text.toList) :
    ∀ block ∈ file.blocks messages, ∀ line ∈ block, '\n' ∉ line.chars := by
  intro block member line inside feed
  simp only [strings, List.mem_cons, List.mem_append, List.mem_flatMap] at whole
  rcases mem_blocks member with ⟨_, rfl⟩ | imports | sections
  · obtain rfl := List.mem_singleton.mp inside
    exact whole file.package (.inl rfl) (by simpa [packageLine] using feed)
  · obtain ⟨name, among, rfl⟩ := List.mem_map.mp (mem_optional_block imports inside)
    exact whole name (.inr (.inl (.inl among))) (by simpa [importLine] using feed)
  · rcases List.mem_append.mp sections with enumBlock | messageBlock
    · obtain ⟨e, among, rfl⟩ := List.mem_map.mp enumBlock
      refine EnumType.lines_whole 0 (fun text source => ?_) line inside feed
      exact whole text (.inr (.inl (.inr ⟨e, among, source⟩)))
    · obtain ⟨message, among, messageWritten⟩ := mem_of_map_m_ok written messageBlock
      refine Message.lines_whole (fun inner innerMember text source => ?_) messageWritten line
        inside feed
      have nested := List.mem_flatMap.mpr ⟨message, among, innerMember⟩
      exact whole text (.inr (.inr ⟨inner, nested, source⟩))

theorem ended_line_plain (front back : String) (ended : back.toList.getLast? = some ';') :
    (Line.text 0 (front ++ back)).chars ≠ [] ∧
      (Line.text 0 (front ++ back)).chars.getLast? ≠ some '\x7b' := by
  have last : (Line.text 0 (front ++ back)).chars.getLast? = some ';' := Line.ended_last front ended
  exact ⟨fun empty => by simp [empty] at last,
    fun brace => absurd (brace.symm.trans last) (by decide)⟩

theorem blocks_sorts (written : file.messages.mapM (Message.lines 0) = .ok messages) :
    ∀ block ∈ file.blocks messages, Block.Braced 0 block ∨ Block.Plain block := by
  intro block member
  rcases mem_blocks member with ⟨_, rfl⟩ | imports | sections
  · refine .inr ⟨by simp, fun line inside => ?_⟩
    obtain rfl := List.mem_singleton.mp inside
    exact ended_line_plain ("package " ++ file.package) ";" rfl
  · refine .inr ⟨?_, fun line inside => ?_⟩
    · rintro rfl
      simp [optionalBlock] at imports
    · obtain ⟨name, _, rfl⟩ := List.mem_map.mp (mem_optional_block imports inside)
      exact ended_line_plain ("import \"" ++ name) "\";" rfl
  · rcases List.mem_append.mp sections with enumBlock | messageBlock
    · obtain ⟨e, _, rfl⟩ := List.mem_map.mp enumBlock
      exact .inl (e.lines_braced 0)
    · obtain ⟨message, _, messageWritten⟩ := mem_of_map_m_ok written messageBlock
      exact .inl (Message.lines_braced messageWritten)

def packageBlocks (file : ProtoFile) : List (List Line) :=
  if file.package.isEmpty then [] else [[file.packageLine]]

theorem package_start (file : ProtoFile) :
    ∀ block ∈ file.packageBlocks.map shown, Block.StartsWith 0 'p' block := by
  intro block member
  cases empty : file.package.isEmpty with
  | true => simp [packageBlocks, empty] at member
  | false =>
      obtain rfl : block = shown [file.packageLine] := by simpa [packageBlocks, empty] using member
      exact ⟨"ackage ".toList ++ file.package.toList ++ [';'], by simp [packageLine]⟩

theorem imports_start (imports : List String) :
    ∀ block ∈ (optionalBlock (imports.map importLine)).map shown, Block.StartsWith 0 'i' block := by
  intro block member
  cases imports with
  | nil => simp [optionalBlock] at member
  | cons name others =>
      obtain rfl : block = shown ((name :: others).map importLine) := by
        simpa [optionalBlock] using member
      exact ⟨"mport \"".toList ++ name.toList ++ "\";".toList, by simp [importLine]⟩

theorem package_unique {a b : ProtoFile}
    (same : a.packageBlocks.map shown = b.packageBlocks.map shown) : a.package = b.package := by
  cases aEmpty : a.package.isEmpty <;> cases bEmpty : b.package.isEmpty <;>
    simp [packageBlocks, aEmpty, bEmpty, packageLine] at same
  · exact String.toList_inj.mp same
  · rw [String.isEmpty_iff.mp aEmpty, String.isEmpty_iff.mp bEmpty]

theorem imports_unique {a b : List String}
    (same : shown (a.map importLine) = shown (b.map importLine)) : a = b := by
  have injective : Function.Injective fun name => (importLine name).chars := by
    intro x y equal
    exact String.toList_inj.mp (by simpa [importLine] using equal)
  exact List.map_injective_iff.mpr injective (by simpa [Function.comp_def] using same)

theorem version_unique {a b : ProtoFile} (same : a.versionLine.chars = b.versionLine.chars) :
    a.version = b.version := by
  simp only [versionLine, Line.chars_text, String.toList_append, List.append_assoc] at same
  have digits := List.append_cancel_left (List.append_cancel_left same)
  simp only [Decimal.text, String.toList_ofList] at digits
  exact UInt32.toNat_inj.mp (Decimal.digits_injective (List.append_cancel_right digits))

theorem braced_letter (enums : List EnumType) {messages : List Message}
    {written : List (List Line)} (done : messages.mapM (Message.lines 0) = .ok written) :
    ∀ block ∈ (enums.map (EnumType.lines 0)).map shown ++ written.map shown,
      Block.StartsWith 0 'e' block ∨ Block.StartsWith 0 'm' block := by
  intro block member
  exact (List.mem_append.mp member).imp (Message.enums_start enums block)
    (Message.nested_start done block)

-- Each section of a file starts with a letter of its own: package, import, enum, message.
theorem blocks_unique {a b : ProtoFile} {aMessages bMessages : List (List Line)}
    (aWritten : a.messages.mapM (Message.lines 0) = .ok aMessages)
    (bWritten : b.messages.mapM (Message.lines 0) = .ok bMessages)
    (same : (a.blocks aMessages).map shown = (b.blocks bMessages).map shown) :
    a.package = b.package ∧ a.imports = b.imports ∧ a.enums = b.enums ∧
      aMessages.map shown = bMessages.map shown := by
  have notImport (file : ProtoFile) {written : List (List Line)}
      (done : file.messages.mapM (Message.lines 0) = .ok written) :
      ∀ block ∈ (file.enums.map (EnumType.lines 0)).map shown ++ written.map shown,
        ¬ Block.StartsWith 0 'i' block := by
    intro block member
    rcases braced_letter file.enums done block member with letter | letter
    · exact Block.starts_once (by decide) letter
    · exact Block.starts_once (by decide) letter
  have notPackage (file : ProtoFile) {written : List (List Line)}
      (done : file.messages.mapM (Message.lines 0) = .ok written) :
      ∀ block ∈ (optionalBlock (file.imports.map importLine)).map shown ++
        ((file.enums.map (EnumType.lines 0)).map shown ++ written.map shown),
        ¬ Block.StartsWith 0 'p' block := by
    intro block member
    rcases List.mem_append.mp member with imports | sections
    · exact Block.starts_once (by decide) (imports_start file.imports block imports)
    · rcases braced_letter file.enums done block sections with letter | letter
      · exact Block.starts_once (by decide) letter
      · exact Block.starts_once (by decide) letter
  simp only [blocks, List.map_append] at same
  obtain ⟨packages, rest⟩ := Text.parts_unique (Block.StartsWith 0 'p') (package_start a)
    (package_start b) (notPackage a aWritten) (notPackage b bWritten) same
  obtain ⟨imports, sections⟩ := Text.parts_unique (Block.StartsWith 0 'i') (imports_start a.imports)
    (imports_start b.imports) (notImport a aWritten) (notImport b bWritten) rest
  obtain ⟨enums, messages⟩ := Message.braced_sections_unique aWritten bWritten sections
  exact ⟨package_unique packages, imports_unique (Block.optional_unique imports), enums, messages⟩

theorem lines_whole (written : file.messages.mapM (Message.lines 0) = .ok messages)
    (whole : ∀ text ∈ file.strings, '\n' ∉ text.toList) :
    ∀ line ∈ file.versionLine :: spaced (file.blocks messages), '\n' ∉ line.chars := by
  intro line member
  rcases List.mem_cons.mp member with rfl | later
  · exact version_line_whole file
  · obtain ⟨block, among, inside⟩ := List.mem_flatMap.mp later
    rcases List.mem_cons.mp inside with rfl | inside
    · simp
    · exact blocks_whole written whole block among line inside

theorem text_unambiguous (a b : ProtoFile) (text : String)
    (aWhole : ∀ string ∈ a.strings, '\n' ∉ string.toList)
    (bWhole : ∀ string ∈ b.strings, '\n' ∉ string.toList)
    (aLegible : ∀ message ∈ a.allMessages, ∀ field ∈ message.fields, field.Legible)
    (bLegible : ∀ message ∈ b.allMessages, ∀ field ∈ message.fields, field.Legible)
    (aText : a.text = .ok text) :
    b.text = .ok text ↔ a.version = b.version ∧ a.package = b.package ∧ a.imports = b.imports ∧
      a.enums = b.enums ∧ a.messages = b.messages := by
  constructor
  · intro bText
    obtain ⟨aMessages, aWritten, aShape⟩ := (text_eq_ok_iff a text).mp aText
    obtain ⟨bMessages, bWritten, bShape⟩ := (text_eq_ok_iff b text).mp bText
    have shows := shown_of_render (lines_whole aWritten aWhole) (lines_whole bWritten bWhole)
      (aShape.symm.trans bShape)
    obtain ⟨versions, rests⟩ := List.cons.inj shows
    have sections := Block.spaced_unique 0 _ _ (blocks_sorts aWritten) (blocks_sorts bWritten) rests
    obtain ⟨packages, imports, enums, blocks⟩ := blocks_unique aWritten bWritten sections
    refine ⟨version_unique versions, packages, imports, enums, ?_⟩
    refine map_m_unique shown aWritten bWritten ?_ blocks
    intro x xMember y yMember xLines yLines xWritten yWritten equal
    refine Message.lines_unique x y 0 xLines yLines (fun message inside => ?_)
      (fun message inside => ?_) xWritten yWritten equal
    · exact aLegible message (List.mem_flatMap.mpr ⟨x, xMember, inside⟩)
    · exact bLegible message (List.mem_flatMap.mpr ⟨y, yMember, inside⟩)
  · rintro ⟨versions, packages, imports, enums, messages⟩
    have same : b.text = a.text := by
      simp only [ProtoFile.text, lines, headerBlocks, versionLine, packageLine, versions, packages,
        imports, enums, messages]
    exact same.trans aText

-- A field of a type named like the word for lists, inside names that look like other lines.
def disguised (field : Field) : ProtoFile :=
  { empty "p = 1;" with
    imports := ["a", "a"]
    enums := [⟨"E \x7b", .ofList [("\x7d", 1), ("A = 2;", 0)]⟩]
    messages := [⟨"M // required", [], [⟨"", .empty⟩], [⟨"message \x7b", [field], [], []⟩]⟩] }

theorem type_named_repeated_told :
    ∃ text, (disguised ⟨"x", "repeated", some 1, false, false⟩).text = .ok text ∧
      (disguised ⟨"x", "", some 1, true, false⟩).text ≠ .ok text := by
  obtain ⟨text, written⟩ :
      ∃ text, (disguised ⟨"x", "repeated", some 1, false, false⟩).text = .ok text := ⟨_, rfl⟩
  refine ⟨text, written, fun same => ?_⟩
  have parts := (text_unambiguous _ _ text (by decide) (by decide) (by decide) (by decide) written).mp
    same
  simp [disguised] at parts

end ProtoFile

end ProtoSchema
