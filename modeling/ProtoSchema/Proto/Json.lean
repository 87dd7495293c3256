import ProtoSchema.Json.Printer
import ProtoSchema.Proto.Basic

set_option autoImplicit false

namespace ProtoSchema

def texts (values : List String) : Json := .array (values.map .string)

def Field.toJson (field : Field) : Json :=
  .object ([
    ("name", .string field.name),
    ("type", .string field.typeName),
    ("tag", match field.tag with
      | some tag => .int tag.toNat
      | none => .null),
    ("repeated", .bool field.repeated)] ++
    if field.required then [("required", .bool true)] else [])

def EnumType.toJson (e : EnumType) : Json :=
  .object [
    ("name", .string e.name),
    ("values", .object (e.values.entries.map fun (literal, ordinal) =>
      (literal, .int ordinal.toNat)))]

mutual

def Message.toJson : Message → Json
  | ⟨name, fields, enums, messages⟩ =>
    .object [
      ("name", .string name),
      ("fields", .array (fields.map Field.toJson)),
      ("enums", .array (enums.map EnumType.toJson)),
      ("messages", .array (Message.listToJson messages))]

def Message.listToJson : List Message → List Json
  | [] => []
  | message :: rest => message.toJson :: Message.listToJson rest

end

def ProtoFile.toJson (file : ProtoFile) : Json :=
  .object [
    ("syntax", .int file.version.toNat),
    ("package", .string file.package),
    ("imports", texts file.imports),
    ("enums", .array (file.enums.map EnumType.toJson)),
    ("messages", .array (Message.listToJson file.messages)),
    ("options", .object (file.options.entries.map fun (name, value) => (name, .string value))),
    ("extends", .array (Message.listToJson file.extensions))]

def ProtoFile.jsonText (file : ProtoFile) : String := file.toJson.pretty ++ "\n"

def word? : Json → Option UInt32
  | .int n => if 0 ≤ n ∧ n < 0x100000000 then some (UInt32.ofNat n.toNat) else none
  | _ => none

def tag? : Json → Option (Option UInt32)
  | .null => some none
  | value => (word? value).map some

def Field.ofJson? : Json → Option Field
  | .object [("name", .string name), ("type", .string typeName), ("tag", tag),
      ("repeated", .bool repeated)] =>
    (tag? tag).map fun tag => ⟨name, typeName, tag, repeated, false⟩
  | .object [("name", .string name), ("type", .string typeName), ("tag", tag),
      ("repeated", .bool repeated), ("required", .bool true)] =>
    (tag? tag).map fun tag => ⟨name, typeName, tag, repeated, true⟩
  | _ => none

def mapOf? {α : Type} (read : Json → Option α) (members : List (String × Json)) :
    Option (SortedMap α) := do
  let entries ← members.mapM fun (key, value) => (read value).map (key, ·)
  if ascending : entries.Pairwise fun a b => a.1 < b.1 then some ⟨entries, ascending⟩ else none

def EnumType.ofJson? : Json → Option EnumType
  | .object [("name", .string name), ("values", .object values)] =>
    (mapOf? word? values).map fun values => ⟨name, values⟩
  | _ => none

mutual

def Message.ofJson? : Json → Option Message
  | .object [("name", .string name), ("fields", .array fields), ("enums", .array enums),
      ("messages", .array messages)] => do
    let fields ← fields.mapM Field.ofJson?
    let enums ← enums.mapM EnumType.ofJson?
    let messages ← Message.listOfJson? messages
    return ⟨name, fields, enums, messages⟩
  | _ => none

def Message.listOfJson? : List Json → Option (List Message)
  | [] => some []
  | value :: rest => do return (← Message.ofJson? value) :: (← Message.listOfJson? rest)

end

def ProtoFile.ofJson? : Json → Option ProtoFile
  | .object [("syntax", version), ("package", .string package), ("imports", .array imports),
      ("enums", .array enums), ("messages", .array messages), ("options", .object options),
      ("extends", .array extensions)] => do
    return {
      version := ← word? version
      package
      imports := ← imports.mapM Json.string?
      enums := ← enums.mapM EnumType.ofJson?
      messages := ← Message.listOfJson? messages
      options := ← mapOf? Json.string? options
      extensions := ← Message.listOfJson? extensions }
  | _ => none

end ProtoSchema
