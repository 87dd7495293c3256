import ProtoSchema.Proto.Json
import ProtoSchema.Proofs.Json.ReadBack
import ProtoSchema.Proofs.Proto.Nested
import ProtoSchema.Proofs.SortedKeys

set_option autoImplicit false

namespace ProtoSchema

theorem map_m_recovers {α β : Type} (write : α → β) (read : β → Option α) (xs : List α)
    (recovers : ∀ x ∈ xs, read (write x) = some x) : (xs.map write).mapM read = some xs := by
  induction xs with
  | nil => rfl
  | cons x xs ih =>
      have rest := ih fun y member => recovers y (List.mem_cons_of_mem x member)
      rw [List.map_cons, List.mapM_cons, recovers x List.mem_cons_self, rest]
      rfl

theorem word_recovered (n : UInt32) : word? (.int n.toNat) = some n := by
  have bound : n.toNat < 0x100000000 := n.toNat_lt
  rw [word?, if_pos ⟨by omega, by omega⟩, Int.toNat_natCast, UInt32.ofNat_toNat]

theorem Field.recovered (field : Field) : ofJson? field.toJson = some field := by
  rcases field with ⟨name, typeName, _ | tag, repeated, _ | _⟩
  case none.false | none.true => rfl
  all_goals
    have word := word_recovered tag
    simp [toJson, ofJson?, tag?, word]

theorem map_recovered {α : Type} (write : α → Json) (read : Json → Option α)
    (recovers : ∀ x, read (write x) = some x) (map : SortedMap α) :
    mapOf? read (map.entries.map fun entry => (entry.1, write entry.2)) = some map := by
  have entries := map_m_recovers (fun entry : String × α => (entry.1, write entry.2))
    (fun entry => (read entry.2).map (entry.1, ·)) map.entries fun entry _ => by simp [recovers]
  unfold mapOf?
  simp only [entries]
  exact dif_pos map.ascending

theorem EnumType.recovered (e : EnumType) : ofJson? e.toJson = some e := by
  have values := map_recovered _ _ word_recovered e.values
  simp only [toJson, ofJson?, values, Option.map_some]

theorem Message.list_recovered {messages : List Message}
    (each : ∀ message ∈ messages, ofJson? message.toJson = some message) :
    listOfJson? (listToJson messages) = some messages := by
  induction messages with
  | nil => rfl
  | cons message rest ih =>
      have later := ih fun other member => each other (List.mem_cons_of_mem message member)
      rw [listToJson, listOfJson?, each message List.mem_cons_self, later]
      rfl

theorem Message.recovered (message : Message) : ofJson? message.toJson = some message := by
  induction message using nested_induction with
  | step message ih =>
      rcases message with ⟨name, fields, enums, messages⟩
      have ownFields := map_m_recovers _ _ fields fun field _ => Field.recovered field
      have ownEnums := map_m_recovers _ _ enums fun e _ => EnumType.recovered e
      have nested := list_recovered ih
      simp only [toJson, ofJson?, ownFields, ownEnums, nested]
      rfl

theorem ProtoFile.recovered (file : ProtoFile) : ofJson? file.toJson = some file := by
  have imports := map_m_recovers Json.string Json.string? file.imports fun _ _ => rfl
  have enums := map_m_recovers _ _ file.enums fun e _ => EnumType.recovered e
  have nested (messages : List Message) :
      Message.listOfJson? (Message.listToJson messages) = some messages :=
    Message.list_recovered fun message _ => message.recovered
  have options := map_recovered Json.string Json.string? (fun _ => rfl) file.options
  simp only [toJson, ofJson?, texts, word_recovered, imports, enums, nested, options]
  rfl

namespace Json

theorem regular_elements_iff (elements : List Json) :
    RegularElements elements ↔ ∀ element ∈ elements, element.Regular := by
  induction elements with
  | nil => simp [RegularElements]
  | cons element others ih => simp [RegularElements, ih]

theorem regular_members_iff (members : List (String × Json)) :
    RegularMembers members ↔ ∀ member ∈ members, member.2.Regular := by
  induction members with
  | nil => simp [RegularMembers]
  | cons member others ih => simp [RegularMembers, ih]

theorem regular_string (s : String) : (Json.string s).Regular := by
  simp only [Regular]

theorem regular_array {elements : List Json} (each : ∀ element ∈ elements, element.Regular) :
    (Json.array elements).Regular := by
  rw [Regular, regular_elements_iff]
  exact each

theorem regular_object {members : List (String × Json)} (names : List String)
    (named : members.map (·.1) = names) (distinct : names.Nodup)
    (each : ∀ member ∈ members, member.2.Regular) : (Json.object members).Regular := by
  rw [Regular, regular_members_iff, named]
  exact ⟨distinct, each⟩

theorem word_in_word (n : UInt32) : Token.InWord n.toNat := by
  have bound : n.toNat < 0x100000000 := n.toNat_lt
  simp only [Token.InWord, Token.signedLimit, Token.unsignedLimit]
  omega

theorem regular_array_map {α : Type} (write : α → Json) {xs : List α}
    (each : ∀ x ∈ xs, (write x).Regular) : (Json.array (xs.map write)).Regular := by
  refine regular_array fun element inside => ?_
  obtain ⟨x, member, rfl⟩ := List.mem_map.mp inside
  exact each x member

theorem regular_map {α : Type} (write : α → Json) (each : ∀ x, (write x).Regular)
    (map : SortedMap α) :
    (Json.object (map.entries.map fun entry => (entry.1, write entry.2))).Regular := by
  refine regular_object map.keys (by rw [List.map_map]; rfl) map.keys_nodup ?_
  intro member inside
  obtain ⟨entry, _, rfl⟩ := List.mem_map.mp inside
  exact each entry.2

end Json

theorem texts_regular (values : List String) : (texts values).Regular :=
  Json.regular_array_map Json.string fun value _ => Json.regular_string value

theorem Field.regular (field : Field) : field.toJson.Regular := by
  rcases field with ⟨name, typeName, _ | tag, repeated, _ | _⟩
  case none.false | some.false =>
    refine Json.regular_object ["name", "type", "tag", "repeated"] rfl (by decide) ?_
    simp [Json.Regular, Json.word_in_word]
  case none.true | some.true =>
    refine Json.regular_object ["name", "type", "tag", "repeated", "required"] rfl (by decide) ?_
    simp [Json.Regular, Json.word_in_word]

theorem EnumType.regular (e : EnumType) : e.toJson.Regular := by
  have word (n : UInt32) : (Json.int n.toNat).Regular := by
    rw [Json.Regular]
    exact Json.word_in_word n
  have values := Json.regular_map _ word e.values
  refine Json.regular_object ["name", "values"] rfl (by decide) ?_
  simpa [Json.Regular] using values

theorem Message.list_to_json_eq (messages : List Message) :
    listToJson messages = messages.map toJson := by
  induction messages with
  | nil => rfl
  | cons message rest ih => rw [listToJson, ih, List.map_cons]

theorem Message.list_regular {messages : List Message}
    (each : ∀ message ∈ messages, message.toJson.Regular) :
    (Json.array (listToJson messages)).Regular := by
  rw [list_to_json_eq]
  exact Json.regular_array_map toJson each

theorem Message.regular (message : Message) : message.toJson.Regular := by
  induction message using nested_induction with
  | step message ih =>
      rcases message with ⟨name, fields, enums, messages⟩
      have ownFields :=
        Json.regular_array_map Field.toJson fun field (_ : field ∈ fields) => field.regular
      have ownEnums := Json.regular_array_map EnumType.toJson fun e (_ : e ∈ enums) => e.regular
      have nested := list_regular ih
      rw [toJson]
      refine Json.regular_object ["name", "fields", "enums", "messages"] rfl (by decide) ?_
      simp [ownFields, ownEnums, nested, Json.regular_string]

theorem ProtoFile.regular (file : ProtoFile) : file.toJson.Regular := by
  have version : (Json.int file.version.toNat).Regular := by
    rw [Json.Regular]
    exact Json.word_in_word file.version
  have imports := texts_regular file.imports
  have enums := Json.regular_array_map EnumType.toJson fun e (_ : e ∈ file.enums) => e.regular
  have nested (messages : List Message) : (Json.array (Message.listToJson messages)).Regular :=
    Message.list_regular fun message _ => message.regular
  have options := Json.regular_map Json.string Json.regular_string file.options
  refine Json.regular_object
    ["syntax", "package", "imports", "enums", "messages", "options", "extends"] rfl (by decide) ?_
  simp [version, Json.regular_string, imports, enums, nested, options]

theorem ProtoFile.json_text_read {file : ProtoFile} {limit : Nat}
    (fits : file.toJson.depth ≤ limit) : Json.readWithin limit file.jsonText = .ok file.toJson :=
  Json.read_pretty file.regular fits

theorem ProtoFile.json_text_unique {a b : ProtoFile} (same : a.jsonText = b.jsonText) : a = b := by
  have aRead := json_text_read (Nat.le_max_left a.toJson.depth b.toJson.depth)
  have bRead := json_text_read (Nat.le_max_right a.toJson.depth b.toJson.depth)
  rw [same, bRead] at aRead
  have recovered := a.recovered
  rw [← Except.ok.inj aRead, b.recovered] at recovered
  exact (Option.some.inj recovered).symm

theorem json_text_tells_file (file : ProtoFile) :
    (file.toJson.depth ≤ 127 → Json.read file.jsonText = .ok file.toJson) ∧
      ProtoFile.ofJson? file.toJson = some file ∧
      ∀ other : ProtoFile, file.jsonText = other.jsonText → file = other :=
  ⟨ProtoFile.json_text_read, file.recovered, fun _ => ProtoFile.json_text_unique⟩

-- Signs that need escapes, an option with no name, and a field that is required or not in a message
-- inside a message.
def escapedFile (required : Bool) : ProtoFile :=
  { ProtoFile.empty "a\x00\x1f\"\\\n" with
    options := .ofList [("", "\x7f/é")]
    extensions := [⟨"", [], [], [⟨"\t",
      [⟨"[", ",", some 4294967295, true, required⟩, ⟨"", "", none, false, false⟩], [], []⟩]⟩] }

theorem escaped_file_told :
    (escapedFile true).toJson.depth = 7 ∧
      Json.read (escapedFile true).jsonText = .ok (escapedFile true).toJson ∧
      (escapedFile true).jsonText ≠ (escapedFile false).jsonText := by
  obtain ⟨read, _, unique⟩ := json_text_tells_file (escapedFile true)
  refine ⟨by decide, read (by decide), fun same => ?_⟩
  have files := unique (escapedFile false) same
  simp [escapedFile] at files

end ProtoSchema
