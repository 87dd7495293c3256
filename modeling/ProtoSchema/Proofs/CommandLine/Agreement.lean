import ProtoSchema.Proofs.CommandLine.Commands
import ProtoSchema.Proofs.CommandLine.Delivery
import ProtoSchema.Proofs.Proto.Untagged

set_option autoImplicit false

namespace ProtoSchema

namespace CommandLine

-- The import stem of a conversion: the one of its option, else the one of the environment, which
-- may be empty, else the usual one.
def Convert.stem (environment : Environment) (job : Convert) : String :=
  match job.importStem, environment.importStem with
  | some stem, _ => stem
  | none, some stem => stem
  | none, none => "ipersist_"

def Convert.result (stem : String) (job : Convert) (text : String) : Except Error String :=
  let options : Options := { importStem := stem, mapElementTypes := job.mapElementTypes }
  match job.format with
  | .proto => do (← Node.ofText text).protoText options job.package
  | .json => do return (← ProtoFile.ofNode options job.package (← Node.ofText text)).jsonText

def silentConvert (stem : String) (job : Convert) : Script :=
  .readText job.input fun
    | .error _ => .exit 1
    | .ok text => deliverResult true job.output (job.result stem text)

-- A command line apart from what it tells. Of the environment only the import stem counts, and of
-- the arguments only those that are not about verbosity.
def silent (importStem : Option String) (read : Arguments) : Script :=
  match read with
  | .version => .print versionText (.exit 0)
  | .invocation invocation =>
    match invocation.command with
    | .convert job => silentConvert (job.stem ⟨none, importStem⟩) job
    | .combine job =>
      deliverResult true job.output (ProtoFile.umbrella job.imports job.package).text

end CommandLine

end ProtoSchema
