import ProtoSchema.FileTree.Path

set_option autoImplicit false

namespace ProtoSchema

inductive FileError where
  | notFound
  | alreadyExists
  | notADirectory
  | isADirectory
  | nameTooLong
  | notText
  | nulInPath
  | other (detail : String)
deriving DecidableEq, Repr

def FileError.message : FileError → String
  | .notFound => "No such file or directory (os error 2)"
  | .alreadyExists => "File exists (os error 17)"
  | .notADirectory => "Not a directory (os error 20)"
  | .isADirectory => "Is a directory (os error 21)"
  | .nameTooLong => "File name too long (os error 36)"
  | .notText => "stream did not contain valid UTF-8"
  | .nulInPath => "file name contained an unexpected NUL byte"
  | .other detail => detail

abbrev Location := List String

inductive Entry where
  | directory
  | file (content : ByteArray)

def Entry.isDirectory : Entry → Bool
  | .directory => true
  | .file _ => false

structure FileTree where
  entries : List (Location × Entry)
  working : Location

namespace FileTree

def find? (tree : FileTree) (place : Location) : Option Entry :=
  if place.isEmpty then some .directory else tree.entries.lookup place

def content? (tree : FileTree) (place : Location) : Option ByteArray :=
  match tree.find? place with
  | some (.file content) => some content
  | _ => none

def put (tree : FileTree) (place : Location) (entry : Entry) : FileTree :=
  { tree with entries := (place, entry) :: tree.entries.filter (·.1 ≠ place) }

-- The sizes beyond which paths and names are refused, in bytes.
def pathLimit : Nat := 4096
def nameLimit : Nat := 255

def checkPath (path : String) : Except FileError Unit :=
  if path.toList.contains '\x00' then .error .nulInPath
  else if path.isEmpty then .error .notFound
  else if pathLimit ≤ path.utf8ByteSize then .error .nameTooLong
  else .ok ()

def start (tree : FileTree) (path : String) : Location :=
  if Path.isAbsolute path then [] else tree.working

def follow (tree : FileTree) (place : Location) (name : String) : Except FileError Location :=
  match tree.find? place with
  | some .directory =>
    if name = "." then .ok place
    else if name = ".." then .ok place.dropLast
    else if nameLimit < name.utf8ByteSize then .error .nameTooLong
    else if (tree.find? (place ++ [name])).isSome then .ok (place ++ [name])
    else .error .notFound
  | some (.file _) => .error .notADirectory
  | none => .error .notFound

def resolve (tree : FileTree) (path : String) : Except FileError Location := do
  checkPath path
  (Path.names path).foldlM tree.follow (tree.start path)

def isDirectory (tree : FileTree) (path : String) : Bool :=
  match tree.resolve path with
  | .ok place => (tree.find? place).any Entry.isDirectory
  | .error _ => false

-- The directory of a path and its last name; no name when the path ends at a directory that is
-- there already, as the root and the dots do.
def resolveParent (tree : FileTree) (path : String) : Except FileError (Location × Option String) := do
  checkPath path
  let names := Path.names path
  let place ← names.dropLast.foldlM tree.follow (tree.start path)
  match tree.find? place with
  | some .directory =>
    match names.getLast? with
    | none | some "." | some ".." => .ok (place, none)
    | some name => .ok (place, some name)
  | some (.file _) => .error .notADirectory
  | none => .error .notFound

def readBytes (tree : FileTree) (path : String) : Except FileError ByteArray := do
  let place ← tree.resolve path
  match tree.find? place with
  | some (.file content) =>
    if Path.endsInSlash path then .error .notADirectory else .ok content
  | some .directory => .error .isADirectory
  | none => .error .notFound

def readText (tree : FileTree) (path : String) : Except FileError String := do
  let bytes ← tree.readBytes path
  match String.fromUTF8? bytes with
  | some text => .ok text
  | none => .error .notText

def writeText (tree : FileTree) (path text : String) : Except FileError FileTree := do
  let (place, name?) ← tree.resolveParent path
  match name? with
  | none => .error .isADirectory
  | some name =>
    if Path.endsInSlash path then .error .isADirectory
    else if nameLimit < name.utf8ByteSize then .error .nameTooLong
    else if (tree.find? (place ++ [name])).any Entry.isDirectory then .error .isADirectory
    else .ok (tree.put (place ++ [name]) (.file text.toUTF8))

def makeDirectory (tree : FileTree) (path : String) : Except FileError FileTree := do
  let (place, name?) ← tree.resolveParent path
  match name? with
  | none => .error .alreadyExists
  | some name =>
    if nameLimit < name.utf8ByteSize then .error .nameTooLong
    else if (tree.find? (place ++ [name])).isSome then .error .alreadyExists
    else .ok (tree.put (place ++ [name]) .directory)

end FileTree

end ProtoSchema
