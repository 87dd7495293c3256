import ProtoSchema.CommandLine.Run

set_option autoImplicit false

namespace ProtoSchema.CommandLine

-- The number of a system error. Some requests give it negated.
def errorNumber (code : UInt32) : UInt32 := if code < 0x80000000 then code else 0 - code

def fileError (e : IO.Error) : FileError :=
  match e with
  | .noFileOrDirectory _ _ _ => .notFound
  | .alreadyExists _ _ _ => .alreadyExists
  | .inappropriateType _ code _ | .invalidArgument _ code _ =>
    match errorNumber code with
    | 20 => .notADirectory
    | 21 => .isADirectory
    | 36 => .nameTooLong
    | _ => .other (toString e)
  | _ => .other (toString e)

def asked {α : Type} (request : IO α) : IO (Except FileError α) := do
  try return .ok (← request)
  catch e => return .error (fileError e)

def Script.perform : Script → IO UInt32
  | .exit code => return code
  | .print text next => do
    (← IO.getStdout).putStr text
    next.perform
  | .notify notice next => do
    (← IO.getStderr).putStrLn notice.text
    next.perform
  | .readText path next => do
    let answer ← asked (IO.FS.readBinFile path)
    let text := answer.bind fun bytes =>
      match String.fromUTF8? bytes with
      | some text => .ok text
      | none => .error .notText
    (next text).perform
  | .makeDirectory path next => do
    (next (← asked (IO.FS.createDir path))).perform
  | .askDirectory path next => do
    let answer ← asked do (← IO.FS.realPath path).isDir
    (next (answer.toOption.getD false)).perform
  | .writeText path text next => do
    (next (← asked (IO.FS.writeFile path text))).perform

end ProtoSchema.CommandLine

def main (arguments : List String) : IO UInt32 := do
  let logFilter ← IO.getEnv ProtoSchema.CommandLine.logFilterVariable
  let importStem ← IO.getEnv ProtoSchema.CommandLine.importStemVariable
  (ProtoSchema.CommandLine.script { logFilter, importStem } arguments).perform
