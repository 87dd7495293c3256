import ProtoSchema.Error
import ProtoSchema.Proto.Basic

set_option autoImplicit false

namespace ProtoSchema

inductive Line where
  | blank
  | text (depth : Nat) (content : String)
deriving DecidableEq, Repr

def Line.render : Line → String
  | .blank => ""
  | .text depth content => String.ofList (List.replicate depth '\t') ++ content

def renderLines (lines : List Line) : String :=
  String.join (lines.map fun line => line.render ++ "\n")

def joinBlocks (blocks : List (List Line)) : List Line := List.intercalate [.blank] blocks

def braced (depth : Nat) (header : String) (body : List Line) : List Line :=
  .text depth (header ++ " \x7b") :: (body ++ [.text depth "\x7d"])

def optionalBlock (lines : List Line) : List (List Line) := if lines.isEmpty then [] else [lines]

namespace EnumType

def entryLine (depth : Nat) (entry : String × UInt32) : Line :=
  .text depth (entry.1 ++ " = " ++ Decimal.text entry.2.toNat ++ ";")

def lines (depth : Nat) (e : EnumType) : List Line :=
  braced depth ("enum " ++ e.name) (e.byOrdinal.map (entryLine (depth + 1)))

end EnumType

namespace Field

-- The text of a field with this number. The mark for required fields is a comment, as the language
-- has no word for them.
def content (field : Field) (tag : UInt32) : String :=
  (if field.repeated then "repeated " else "") ++ field.typeName ++ " " ++ field.name ++ " = " ++
    Decimal.text tag.toNat ++ ";" ++ (if field.required then " // required" else "")

def line (depth : Nat) (message : String) (field : Field) : Except Error Line :=
  match field.tag with
  | some tag => .ok (.text depth (field.content tag))
  | none => .error (.missingTag message field.name)

end Field

namespace Message

mutual

-- The lines of a message. Nested messages come before its own fields, so a nested field without a
-- number is found first.
def lines (depth : Nat) : Message → Except Error (List Line)
  | ⟨name, fields, enums, messages⟩ => do
    let nested ← blocks (depth + 1) messages
    let own ← fields.mapM (Field.line (depth + 1) name)
    let body := enums.map (EnumType.lines (depth + 1)) ++ nested ++ optionalBlock own
    return braced depth ("message " ++ name) (joinBlocks body)

def blocks (depth : Nat) : List Message → Except Error (List (List Line))
  | [] => .ok []
  | message :: rest => do return (← message.lines depth) :: (← blocks depth rest)

end

end Message

namespace ProtoFile

def versionLine (file : ProtoFile) : Line :=
  .text 0 ("syntax = \"proto" ++ Decimal.text file.version.toNat ++ "\";")

def packageLine (file : ProtoFile) : Line := .text 0 ("package " ++ file.package ++ ";")

def importLine (name : String) : Line := .text 0 ("import \"" ++ name ++ "\";")

def headerBlocks (file : ProtoFile) : List (List Line) :=
  [file.versionLine] :: ((if file.package.isEmpty then [] else [[file.packageLine]]) ++
    optionalBlock (file.imports.map importLine))

def lines (file : ProtoFile) : Except Error (List Line) := do
  let messages ← Message.blocks 0 file.messages
  return joinBlocks (file.headerBlocks ++ file.enums.map (EnumType.lines 0) ++ messages)

def text (file : ProtoFile) : Except Error String := file.lines.map renderLines

end ProtoFile

end ProtoSchema
