import ProtoSchema.Generate

set_option autoImplicit false

namespace ProtoSchema

inductive Request where
  | addType (objectType : String)
  | add (name : String)
  | takeFiles
  | field (name : String) (node : Node)
  | message (node : Node)

inductive Answer where
  | done
  | files (names : List String)
  | field (result : Except Error Field)
  | message (result : Except Error Message)

namespace Imports

def answer (options : Options) (imports : Imports) : Request → Imports × Answer
  | .addType objectType => (imports.addType objectType, .done)
  | .add name => (imports.add name, .done)
  | .takeFiles => (imports.cleared, .files imports.files)
  | .field name node =>
    match Property.ofNode name node with
    | .error e => (imports, .field (.error e))
    | .ok property =>
      (imports.addTypes property.reference?.toList, .field (.ok (property.field options)))
  | .message node => (imports.addTypes node.references, .message (Message.ofNode options node))

-- The state after each request, with the answer to it. Every request comes with its own options.
def answers (imports : Imports) : List (Options × Request) → List (Imports × Answer)
  | [] => []
  | (options, request) :: rest =>
    let (next, answer) := imports.answer options request
    (next, answer) :: next.answers rest

end Imports

end ProtoSchema
