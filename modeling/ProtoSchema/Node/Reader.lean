import ProtoSchema.Node.Basic
import ProtoSchema.Decimal.Shortest
import ProtoSchema.Text.Quoted

set_option autoImplicit false

namespace ProtoSchema.Node

inductive Kind where
  | null
  | bool (value : Bool)
  | int (value : Int)
  | float (value : Decimal.Binary64)
  | string (value : String)
  | array
  | object
deriving DecidableEq, Repr

def Kind.of : Json → Kind
  | .null => .null
  | .bool b => .bool b
  | .int n => .int n
  | .float x => .float x
  | .string s => .string s
  | .array _ => .array
  | .object _ => .object

inductive Expected where
  | node
  | string
  | tag
  | map
deriving DecidableEq, Repr

inductive Misfit where
  | wrongKind (found : Kind) (expected : Expected)
  | tagOutOfRange (value : Int)
  | tooManyAttributes (count : Nat)
  | inProperty (name : String) (cause : Misfit)
deriving DecidableEq, Repr

def wrongKind (value : Json) (expected : Expected) : Misfit := .wrongKind (Kind.of value) expected

def readText : Json → Except Misfit (Option String)
  | .null => .ok none
  | .string s => .ok (some s)
  | value => .error (wrongKind value .string)

def tagLimit : Int := 0x100000000

def readTag : Json → Except Misfit (Option UInt32)
  | .null => .ok none
  | .int n =>
    if 0 ≤ n ∧ n < tagLimit then .ok (some (UInt32.ofNat n.toNat)) else .error (.tagOutOfRange n)
  | value => .error (wrongKind value .tag)

def readAny : Json → Option Json
  | .null => none
  | value => some value

-- The texts of a list; a list may hold other values, and another value counts as no list.
def readRequired (value : Json) : List String :=
  (value.elements?.getD []).filterMap Json.string?

def setPlain (node : Node) (slot : Plain) (value : Json) : Except Misfit Node :=
  match slot with
  | .typeName => (readText value).map fun s => { node with typeName := s }
  | .enumeration => .ok { node with enumeration := readAny value }
  | .objectType => (readText value).map fun s => { node with objectType := s }
  | .additional => .ok { node with additional := readAny value }
  | .required => .ok { node with required := readRequired value }
  | .tag => (readTag value).map fun n => { node with tag := n }
  | .messageName => (readText value).map fun s => { node with messageName := s }

mutual

def read : Json → Except Misfit Node
  | .object members => readMembers members empty
  | .array values => readPositions values.length Attribute.all values empty
  | value => .error (wrongKind value .node)

def readMembers (members : List (String × Json)) (node : Node) : Except Misfit Node :=
  match members with
  | [] => .ok node
  | (key, value) :: rest =>
    match Attribute.ofKey? key with
    | none => readMembers rest node
    | some (.plain slot) => do readMembers rest (← setPlain node slot value)
    | some .items => do
      let items ← if value.isNull then .ok none else (read value).map some
      readMembers rest { node with items }
    | some .properties => do
      readMembers rest { node with properties := (← readProperties value) }

-- The attributes by position; there may be fewer values than attributes but not more.
def readPositions (count : Nat) (attributes : List Attribute) (values : List Json) (node : Node) :
    Except Misfit Node :=
  match values, attributes with
  | [], _ => .ok node
  | _ :: _, [] => .error (.tooManyAttributes count)
  | value :: rest, .plain slot :: attributes => do
    readPositions count attributes rest (← setPlain node slot value)
  | value :: rest, .items :: attributes => do
    let items ← if value.isNull then .ok none else (read value).map some
    readPositions count attributes rest { node with items }
  | value :: rest, .properties :: attributes => do
    readPositions count attributes rest { node with properties := (← readProperties value) }

def readProperties : Json → Except Misfit (List (String × Node))
  | .object members => readEach members
  | value => .error (wrongKind value .map)

def readEach (members : List (String × Json)) : Except Misfit (List (String × Node)) :=
  match members with
  | [] => .ok []
  | (name, value) :: rest =>
    match read value with
    | .error cause => .error (.inProperty name cause)
    | .ok node => do .ok ((name, node) :: (← readEach rest))

end

-- The root of a document. A root that is no object has no attributes at all.
def ofJson : Json → Except Misfit Node
  | .object members => readMembers members empty
  | _ => .ok empty

def Kind.message : Kind → String
  | .null => "null"
  | .bool b => "boolean `" ++ (if b then "true" else "false") ++ "`"
  | .int n => "integer `" ++ Decimal.intText n ++ "`"
  | .float x => "floating point `" ++ Decimal.FloatFormat.standard.write x ++ "`"
  | .string s => "string " ++ Text.quoted s
  | .array => "sequence"
  | .object => "map"

def Expected.message : Expected → String
  | .node => "struct SchemaNode"
  | .string => "a string"
  | .tag => "u32"
  | .map => "a map"

def Misfit.message : Misfit → String
  | .wrongKind found expected =>
    "invalid type: " ++ found.message ++ ", expected " ++ expected.message
  | .tagOutOfRange n => "invalid value: integer `" ++ Decimal.intText n ++ "`, expected u32"
  | .tooManyAttributes count =>
    "invalid length " ++ Decimal.text count ++ ", expected fewer elements in array"
  | .inProperty name cause => "property '" ++ name ++ "': " ++ cause.message

end ProtoSchema.Node
