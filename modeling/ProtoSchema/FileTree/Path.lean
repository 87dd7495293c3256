import ProtoSchema.Text.Pieces

set_option autoImplicit false

namespace ProtoSchema.Path

def pieces (path : String) : List String := Text.stringPieces '/' path

def ofPieces (ps : List String) : String := String.intercalate "/" ps

def isAbsolute (path : String) : Bool := path.toList.head? = some '/'

def names (path : String) : List String := (pieces path).filter (· ≠ "")

def endsInSlash (path : String) : Bool := path.toList.getLast? = some '/'

def isIdle (piece : String) : Bool := piece = "" || piece = "."

def dropIdleEnd (ps : List String) : List String := (ps.reverse.dropWhile isIdle).reverse

-- The root and the empty path lie in none, and a path of one piece lies in the empty path. The first
-- piece of a relative path counts even when it is a dot.
def parent? (path : String) : Option String :=
  match pieces path with
  | [] => none
  | "" :: rest =>
    match dropIdleEnd rest with
    | [] => none
    | body =>
      match dropIdleEnd body.dropLast with
      | [] => some "/"
      | outer => some (ofPieces ("" :: outer))
  | first :: rest =>
    match dropIdleEnd rest with
    | [] => some ""
    | body => some (ofPieces (first :: dropIdleEnd body.dropLast))

def ancestors (count : Nat) (path : String) : List String :=
  match count with
  | 0 => []
  | count + 1 =>
    match parent? path with
    | none => []
    | some outer => if outer = "" then [] else outer :: ancestors count outer

def lineage (path : String) : List String := path :: ancestors path.length path

end ProtoSchema.Path
