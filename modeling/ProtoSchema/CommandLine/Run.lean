import ProtoSchema.CommandLine.Arguments
import ProtoSchema.CommandLine.Script
import ProtoSchema.Proto.Json

set_option autoImplicit false

namespace ProtoSchema.CommandLine

structure Environment where
  logFilter : Option String
  importStem : Option String

def logFilterVariable : String := "RUST_LOG"

def importStemVariable : String := "JSONSCHEMA_PROTO_IMPORT_PREFIX"

def Environment.ofLookup (lookup : String → Option String) : Environment where
  logFilter := lookup logFilterVariable
  importStem := lookup importStemVariable

-- The most detailed level that a filter lets through, if any. The filter is a level in any case or
-- its rank; an empty one lets errors through, and any other word names nothing of this program.
def levelOfFilter (filter : String) : Option Level :=
  let word := String.ofList (filter.toList.map Char.toLower)
  if word = "" then some .error
  else
    [Level.error, .warn, .info, .debug, .trace].find? fun level =>
      word = String.ofList (level.name.toList.map Char.toLower) || word = Decimal.text level.rank

def threshold (environment : Environment) (invocation : Invocation) : Option Level :=
  if invocation.verbose then some .debug
  else
    match environment.logFilter with
    | some filter => levelOfFilter filter
    | none => some (if invocation.quiet then .error else .warn)

def logged (threshold : Option Level) (events : List Event) : List Notice :=
  match threshold with
  | none => []
  | some level => (events.filter fun event => event.level.rank ≤ level.rank).map .logged

def Format.write : Format → ProtoFile → Except Error String
  | .proto, file => file.text
  | .json, file => .ok file.jsonText

def generatedLine (file : ProtoFile) : String :=
  "Generated " ++ Decimal.text file.messages.length ++ " messages, " ++
    Decimal.text (file.messages.flatMap (·.enums)).length ++ " enums, " ++
    Decimal.text file.imports.length ++ " imports"

def writeFile (quiet : Bool) (path text : String) : Script :=
  .writeText path text fun
    | .error cause => .fail (.unwritable path cause)
    | .ok () => .mention quiet ("Wrote " ++ path) (.exit 0)

def deliver (quiet : Bool) (output : Option String) (text : String) : Script :=
  match output with
  | none => .print text (.exit 0)
  | some path =>
    match (Path.parent? path).filter (· ≠ "") with
    | none => writeFile quiet path text
    | some directory =>
      .makeDirectories directory fun
        | .error cause => .fail (.unwritable directory cause)
        | .ok () => writeFile quiet path text

def deliverResult (quiet : Bool) (output : Option String) : Except Error String → Script
  | .error e => .fail e
  | .ok text => deliver quiet output text

def Convert.options (environment : Environment) (job : Convert) : Options where
  importStem := (job.importStem <|> environment.importStem).getD Options.defaultStem
  mapElementTypes := job.mapElementTypes

def generate (environment : Environment) (invocation : Invocation) (job : Convert) (root : Node) :
    Script :=
  let options := job.options environment
  .notifyAll (logged (threshold environment invocation) (ProtoFile.events options root)) <|
    match ProtoFile.ofNode options job.package root with
    | .error e => .fail e
    | .ok file =>
      .mention invocation.quiet (generatedLine file) <|
        deliverResult invocation.quiet job.output (job.format.write file)

def convert (environment : Environment) (invocation : Invocation) (job : Convert) : Script :=
  .mention invocation.quiet ("Loading schema from " ++ job.input) <|
    .readText job.input fun
      | .error cause => .fail (.unreadable job.input cause)
      | .ok text =>
        match Node.ofText text with
        | .error e => .fail e
        | .ok root => generate environment invocation job root

def combine (invocation : Invocation) (job : Combine) : Script :=
  deliverResult invocation.quiet job.output (ProtoFile.umbrella job.imports job.package).text

def versionText : String := "jsonschema-proto-gen 0.1.0\n"

def usageError : Script := .notify (.plain "error: the command line is not understood") (.exit 2)

def Invocation.script (environment : Environment) (invocation : Invocation) : Script :=
  match invocation.command with
  | .convert job => convert environment invocation job
  | .combine job => combine invocation job

def script (environment : Environment) (arguments : List String) : Script :=
  match Arguments.ofList? arguments with
  | none => usageError
  | some .version => .print versionText (.exit 0)
  | some (.invocation invocation) => invocation.script environment

def run (environment : Environment) (arguments : List String) (tree : FileTree) : Outcome :=
  (script environment arguments).runOn tree

end ProtoSchema.CommandLine
