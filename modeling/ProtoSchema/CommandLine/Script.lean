import ProtoSchema.Error
import ProtoSchema.Trace

set_option autoImplicit false

namespace ProtoSchema.CommandLine

inductive Notice where
  | plain (text : String)
  | logged (event : Event)
deriving DecidableEq, Repr

def Notice.text : Notice → String
  | .plain text => text
  | .logged event => event.level.name ++ " " ++ event.text

inductive Script where
  | exit (code : UInt32)
  | print (text : String) (next : Script)
  | notify (notice : Notice) (next : Script)
  | readText (path : String) (next : Except FileError String → Script)
  | makeDirectory (path : String) (next : Except FileError Unit → Script)
  | askDirectory (path : String) (next : Bool → Script)
  | writeText (path text : String) (next : Except FileError Unit → Script)

structure Outcome where
  code : UInt32
  printed : String
  notices : List Notice
  tree : FileTree

namespace Script

def runOn (tree : FileTree) : Script → Outcome
  | .exit code => ⟨code, "", [], tree⟩
  | .print text next =>
    let outcome := next.runOn tree
    { outcome with printed := text ++ outcome.printed }
  | .notify notice next =>
    let outcome := next.runOn tree
    { outcome with notices := notice :: outcome.notices }
  | .readText path next => (next (tree.readText path)).runOn tree
  | .makeDirectory path next =>
    match tree.makeDirectory path with
    | .ok made => (next (.ok ())).runOn made
    | .error e => (next (.error e)).runOn tree
  | .askDirectory path next => (next (tree.isDirectory path)).runOn tree
  | .writeText path text next =>
    match tree.writeText path text with
    | .ok written => (next (.ok ())).runOn written
    | .error e => (next (.error e)).runOn tree

def notifyAll (notices : List Notice) (next : Script) : Script := notices.foldr notify next

def mention (quiet : Bool) (text : String) (next : Script) : Script :=
  if quiet then next else .notify (.plain text) next

def fail (e : Error) : Script :=
  .notify (.plain ("error: " ++ e.message)) <|
    notifyAll (e.cause?.toList.map fun cause => .plain ("  caused by: " ++ cause)) (.exit 1)

def acceptDirectory (path : String) (e : FileError) (next : Except FileError Unit → Script) :
    Script :=
  .askDirectory path fun there => next (if there then .ok () else .error e)

-- Makes the first of a line of directories, each of which lies in the next. A directory whose
-- surroundings are missing is tried again once they are made; what was made stays when a later step
-- fails.
def makeLineage (paths : List String) (next : Except FileError Unit → Script) : Script :=
  match paths with
  | [] => next (.ok ())
  | path :: outer =>
    .makeDirectory path fun
      | .ok () => next (.ok ())
      | .error .notFound =>
        makeLineage outer fun
          | .error e => next (.error e)
          | .ok () =>
            .makeDirectory path fun
              | .ok () => next (.ok ())
              | .error e => acceptDirectory path e next
      | .error e => acceptDirectory path e next

def makeDirectories (path : String) (next : Except FileError Unit → Script) : Script :=
  makeLineage (Path.lineage path) next

end Script

end ProtoSchema.CommandLine
