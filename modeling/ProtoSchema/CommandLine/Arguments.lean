import ProtoSchema.Text.Pieces

set_option autoImplicit false

namespace ProtoSchema.CommandLine

inductive Key where
  | verbose
  | quiet
  | version
  | input
  | package
  | output
  | format
  | importStem
  | mapElementTypes
  | imports
deriving DecidableEq, Repr

namespace Key

def longName : Key → String
  | .verbose => "verbose"
  | .quiet => "quiet"
  | .version => "version"
  | .input => "input"
  | .package => "package"
  | .output => "output"
  | .format => "emit"
  | .importStem => "import-prefix"
  | .mapElementTypes => "map-array-items"
  | .imports => "import"

def letter? : Key → Option Char
  | .verbose => some 'v'
  | .quiet => some 'q'
  | .version => some 'V'
  | .input => some 'i'
  | .package => some 'p'
  | .output => some 'o'
  | _ => none

def takesValue : Key → Bool
  | .verbose | .quiet | .version | .mapElementTypes => false
  | _ => true

def isRepeatable : Key → Bool
  | .imports => true
  | _ => false

end Key

structure Given where
  key : Key
  value : String
deriving DecidableEq, Repr

def addGiven (given : List Given) (key : Key) (value : String) : Option (List Given) :=
  if !key.isRepeatable && given.any (·.key == key) then none else some (given ++ [⟨key, value⟩])

inductive Said where
  | refused
  | version
  | word
  | delimiter
  | complete (given : List Given)
  | pending (given : List Given) (key : Key)

def Said.ofGiven : Option (List Given) → Said
  | none => .refused
  | some given => .complete given

-- Letters after one dash. What follows the letter of an option with a value is that value, and one
-- equals sign before it is dropped. The version is told at once.
def readLetters (allowed : List Key) (given : List Given) : List Char → Said
  | [] => .complete given
  | c :: rest =>
    match allowed.find? (·.letter? == some c) with
    | none => .refused
    | some .version => .version
    | some key =>
      if key.takesValue then
        match rest with
        | [] => .pending given key
        | '=' :: value => .ofGiven (addGiven given key (String.ofList value))
        | value => .ofGiven (addGiven given key (String.ofList value))
      else
        match addGiven given key "" with
        | none => .refused
        | some given => readLetters allowed given rest

def readLongName (allowed : List Key) (given : List Given) (cs : List Char) : Said :=
  let name := String.ofList (cs.takeWhile (· ≠ '='))
  match allowed.find? (·.longName == name), cs.dropWhile (· ≠ '=') with
  | none, _ => .refused
  | some key, [] =>
    if key.takesValue then .pending given key
    else if key = .version then .version
    else .ofGiven (addGiven given key "")
  | some key, _ :: value =>
    if key.takesValue then .ofGiven (addGiven given key (String.ofList value)) else .refused

def readArgument (allowed : List Key) (given : List Given) (argument : String) : Said :=
  match argument.toList with
  | ['-', '-'] => .delimiter
  | '-' :: '-' :: name => readLongName allowed given name
  | ['-'] => .word
  | '-' :: letters => readLetters allowed given letters
  | _ => .word

-- A value of its own may be a dash but not begin with one.
def isValue (argument : String) : Bool :=
  match argument.toList with
  | '-' :: _ :: _ => false
  | _ => true

inductive Stopped where
  | refused
  | version
  | word (given : List Given) (word : String) (rest : List String)
  | delimiter (given : List Given) (rest : List String)
  | finished (given : List Given)

def readOptions (allowed : List Key) (given : List Given) : List String → Stopped
  | [] => .finished given
  | argument :: rest =>
    match readArgument allowed given argument with
    | .refused => .refused
    | .version => .version
    | .word => .word given argument rest
    | .delimiter => .delimiter given rest
    | .complete given => readOptions allowed given rest
    | .pending given key =>
      match rest with
      | [] => .refused
      | value :: rest =>
        if isValue value then
          match addGiven given key value with
          | none => .refused
          | some given => readOptions allowed given rest
        else .refused

inductive Format where
  | proto
  | json
deriving DecidableEq, Repr

structure Convert where
  input : String
  package : String
  output : Option String
  format : Format
  importStem : Option String
  mapElementTypes : Bool
deriving DecidableEq, Repr

structure Combine where
  package : String
  imports : List String
  output : Option String
deriving DecidableEq, Repr

inductive Command where
  | convert (job : Convert)
  | combine (job : Combine)
deriving DecidableEq, Repr

structure Invocation where
  verbose : Bool
  quiet : Bool
  command : Command
deriving DecidableEq, Repr

inductive Arguments where
  | version
  | invocation (invocation : Invocation)
deriving DecidableEq, Repr

def generalKeys : List Key := [.verbose, .quiet]

def rootKeys : List Key := .version :: generalKeys

def convertKeys : List Key :=
  generalKeys ++ [.input, .package, .output, .format, .importStem, .mapElementTypes]

def combineKeys : List Key := generalKeys ++ [.package, .imports, .output]

namespace Given

def value? (given : List Given) (key : Key) : Option String :=
  (given.find? (·.key == key)).map (·.value)

def values (given : List Given) (key : Key) : List String :=
  (given.filter (·.key == key)).map (·.value)

def has (given : List Given) (key : Key) : Bool := given.any (·.key == key)

-- Telling more and telling less exclude each other where they stand side by side.
def isConsistent (given : List Given) : Bool := !(has given .verbose && has given .quiet)

end Given

def pathValue (value : String) : Option String := if value.isEmpty then none else some value

def optionalValue {α : Type} (given : List Given) (key : Key) (read : String → Option α) :
    Option (Option α) :=
  match Given.value? given key with
  | none => some none
  | some value => (read value).map some

def Format.ofName? : String → Option Format
  | "proto" => some .proto
  | "json" => some .json
  | _ => none

def Convert.ofGiven? (given : List Given) : Option Convert := do
  let input ← (Given.value? given .input).bind pathValue
  let package ← Given.value? given .package
  let output ← optionalValue given .output pathValue
  let format ← optionalValue given .format Format.ofName?
  return {
    input, package, output
    format := format.getD .proto
    importStem := Given.value? given .importStem
    mapElementTypes := Given.has given .mapElementTypes }

def splitImports (values : List String) : List String := values.flatMap (Text.stringPieces ',')

def Combine.ofGiven? (given : List Given) : Option Combine := do
  let package ← Given.value? given .package
  let output ← optionalValue given .output pathValue
  let values := Given.values given .imports
  if values.isEmpty then none
  else return { package, imports := splitImports values, output }

def Command.ofGiven? (name : String) (rest : List String) : Option (Command × List Given) :=
  let read (allowed : List Key) (command? : List Given → Option Command) :=
    match readOptions allowed [] rest with
    | .finished given | .delimiter given [] => (command? given).map (·, given)
    | _ => none
  match name with
  | "convert" => read convertKeys fun given => (Convert.ofGiven? given).map .convert
  | "combine" => read combineKeys fun given => (Combine.ofGiven? given).map .combine
  | _ => none

def Arguments.ofList? (arguments : List String) : Option Arguments :=
  match readOptions rootKeys [] arguments with
  | .version => some .version
  | .word given name rest => do
    let (command, more) ← Command.ofGiven? name rest
    if Given.isConsistent given && Given.isConsistent more then
      some (.invocation {
        verbose := Given.has given .verbose || Given.has more .verbose
        quiet := Given.has given .quiet || Given.has more .quiet
        command })
    else none
  | _ => none

end ProtoSchema.CommandLine
