import Mathlib.Logic.Relation
import ProtoSchema.CommandLine.Run
import ProtoSchema.Proofs.FileTree.Directories

set_option autoImplicit false

namespace ProtoSchema

def Path.Around (path outer : String) : Prop :=
  Relation.TransGen (fun inner directory => parent? inner = some directory) path outer

theorem Path.around_of_ancestor {count : Nat} {path outer : String}
    (member : outer ∈ ancestors count path) : Around path outer := by
  induction count generalizing path with
  | zero => cases member
  | succ count ih =>
      unfold ancestors at member
      split at member
      · cases member
      · rename_i directory parent
        split at member
        · cases member
        · rcases List.mem_cons.mp member with rfl | further
          · exact .single parent
          · exact .head parent (ih further)

theorem Path.around_of_lineage {path directory outer : String}
    (parent : parent? path = some directory) (member : outer ∈ lineage directory) :
    Around path outer := by
  rcases List.mem_cons.mp member with rfl | further
  · exact .single parent
  · exact .head parent (around_of_ancestor further)

namespace CommandLine

namespace Script

def Succeeds (script : Script) : Prop := ∀ tree, (script.runOn tree).code = 0

-- A script that prints or writes only when nothing can fail any more. The directories that it makes
-- are among the paths.
def Harmless (paths : String → Prop) (script : Script) : Prop :=
  ∀ tree, (script.runOn tree).code ≠ 0 →
    (script.runOn tree).printed = "" ∧ tree.Gains paths (script.runOn tree).tree

variable {paths : String → Prop}

theorem harmless_exit (code : UInt32) : (exit code).Harmless paths :=
  fun tree _ => ⟨rfl, .refl paths tree⟩

theorem harmless_of_succeeds {script : Script} (succeeds : script.Succeeds) :
    script.Harmless paths :=
  fun tree failed => absurd (succeeds tree) failed

theorem harmless_print (text : String) {next : Script} (succeeds : next.Succeeds) :
    (print text next).Harmless paths :=
  harmless_of_succeeds succeeds

theorem harmless_notify (notice : Notice) {next : Script} (harmless : next.Harmless paths) :
    (notify notice next).Harmless paths := harmless

theorem harmless_notify_all (notices : List Notice) {next : Script}
    (harmless : next.Harmless paths) : (notifyAll notices next).Harmless paths := by
  induction notices with
  | nil => exact harmless
  | cons notice others ih => exact harmless_notify notice ih

theorem harmless_mention (quiet : Bool) (text : String) {next : Script}
    (harmless : next.Harmless paths) : (mention quiet text next).Harmless paths := by
  cases quiet with
  | false => exact harmless_notify _ harmless
  | true => exact harmless

theorem harmless_fail (e : Error) : (fail e).Harmless paths :=
  harmless_notify _ (harmless_notify_all _ (harmless_exit 1))

theorem harmless_read {path : String} {next : Except FileError String → Script}
    (each : ∀ answer, (next answer).Harmless paths) : (readText path next).Harmless paths :=
  fun tree => each (tree.readText path) tree

theorem harmless_ask {path : String} {next : Bool → Script}
    (each : ∀ answer, (next answer).Harmless paths) : (askDirectory path next).Harmless paths :=
  fun tree => each (tree.isDirectory path) tree

theorem harmless_make {path : String} {next : Except FileError Unit → Script}
    (among : paths path) (each : ∀ answer, (next answer).Harmless paths) :
    (makeDirectory path next).Harmless paths := by
  intro tree failed
  unfold runOn at failed ⊢
  cases made : tree.makeDirectory path with
  | error e =>
      rw [made] at failed
      exact each (.error e) tree failed
  | ok more =>
      rw [made] at failed
      obtain ⟨silent, gains⟩ := each (.ok ()) more failed
      exact ⟨silent, (FileTree.Gains.of_make_directory among made).trans gains⟩

theorem harmless_write {path text : String} {next : Except FileError Unit → Script}
    (succeeds : (next (.ok ())).Succeeds) (each : ∀ e, (next (.error e)).Harmless paths) :
    (writeText path text next).Harmless paths := by
  intro tree failed
  unfold runOn at failed ⊢
  cases written : tree.writeText path text with
  | error e =>
      rw [written] at failed
      exact each e tree failed
  | ok more =>
      rw [written] at failed
      exact absurd (succeeds more) failed

theorem harmless_accept {path : String} {e : FileError} {next : Except FileError Unit → Script}
    (each : ∀ answer, (next answer).Harmless paths) :
    (acceptDirectory path e next).Harmless paths :=
  harmless_ask fun _ => each _

theorem harmless_make_lineage {directories : List String}
    {next : Except FileError Unit → Script} (among : ∀ path ∈ directories, paths path)
    (each : ∀ answer, (next answer).Harmless paths) :
    (makeLineage directories next).Harmless paths := by
  induction directories generalizing next with
  | nil => exact each (.ok ())
  | cons path outer ih =>
      have own := among path List.mem_cons_self
      have others := fun other member => among other (List.mem_cons_of_mem path member)
      refine harmless_make own fun answer => ?_
      split
      · exact each (.ok ())
      · refine ih others fun surroundings => ?_
        split
        · exact each _
        · refine harmless_make own fun again => ?_
          split
          · exact each (.ok ())
          · exact harmless_accept each
      · exact harmless_accept each

end Script

def Command.output : Command → Option String
  | .convert job => job.output
  | .combine job => job.output

def outputOf (arguments : List String) : Option String :=
  match Arguments.ofList? arguments with
  | some (.invocation invocation) => invocation.command.output
  | _ => none

def AroundOutput (output? : Option String) (outer : String) : Prop :=
  ∃ output, output? = some output ∧ Path.Around output outer

theorem mention_succeeds (quiet : Bool) (text : String) :
    (Script.mention quiet text (.exit 0)).Succeeds := by
  cases quiet <;> exact fun _ => rfl

theorem harmless_write_file (paths : String → Prop) (quiet : Bool) (path text : String) :
    (writeFile quiet path text).Harmless paths :=
  Script.harmless_write (mention_succeeds quiet _) fun _ => Script.harmless_fail _

theorem harmless_deliver (quiet : Bool) (output : Option String) (text : String) :
    (deliver quiet output text).Harmless (AroundOutput output) := by
  cases output with
  | none => exact Script.harmless_print text fun _ => rfl
  | some path =>
      unfold deliver
      simp only
      split
      · exact harmless_write_file _ quiet path text
      · rename_i directory found
        have parent := (Option.filter_eq_some_iff.mp found).1
        refine Script.harmless_make_lineage
          (fun outer member => ⟨path, rfl, Path.around_of_lineage parent member⟩) fun answer => ?_
        cases answer with
        | error cause => exact Script.harmless_fail _
        | ok _ => exact harmless_write_file _ quiet path text

theorem harmless_deliver_result (quiet : Bool) (output : Option String)
    (result : Except Error String) :
    (deliverResult quiet output result).Harmless (AroundOutput output) := by
  cases result with
  | error e => exact Script.harmless_fail e
  | ok text => exact harmless_deliver quiet output text

theorem harmless_generate (environment : Environment) (invocation : Invocation) (job : Convert)
    (root : Node) :
    (generate environment invocation job root).Harmless (AroundOutput job.output) := by
  refine Script.harmless_notify_all _ ?_
  split
  · exact Script.harmless_fail _
  · exact Script.harmless_mention _ _ (harmless_deliver_result _ _ _)

theorem harmless_convert (environment : Environment) (invocation : Invocation) (job : Convert) :
    (convert environment invocation job).Harmless (AroundOutput job.output) := by
  refine Script.harmless_mention _ _ (Script.harmless_read fun answer => ?_)
  cases answer with
  | error cause => exact Script.harmless_fail _
  | ok text =>
      simp only
      split
      · exact Script.harmless_fail _
      · exact harmless_generate environment invocation job _

theorem harmless_combine (invocation : Invocation) (job : Combine) :
    (combine invocation job).Harmless (AroundOutput job.output) :=
  harmless_deliver_result invocation.quiet job.output _

theorem harmless_script (environment : Environment) (arguments : List String) :
    (script environment arguments).Harmless (AroundOutput (outputOf arguments)) := by
  unfold script outputOf
  cases Arguments.ofList? arguments with
  | none => exact Script.harmless_notify _ (Script.harmless_exit 2)
  | some read =>
      cases read with
      | version => exact Script.harmless_print versionText fun _ => rfl
      | invocation invocation =>
          rcases invocation with ⟨verbose, quiet, command⟩
          cases command with
          | convert job => exact harmless_convert environment ⟨verbose, quiet, _⟩ job
          | combine job => exact harmless_combine ⟨verbose, quiet, _⟩ job

-- No file is new, gone or changed. What is new are directories that the output path lies in.
structure Outcome.LeavesFiles (outcome : Outcome) (output? : Option String) (before : FileTree) :
    Prop where
  printed : outcome.printed = ""
  contents : ∀ place, outcome.tree.content? place = before.content? place
  changes : ∀ place, outcome.tree.find? place ≠ before.find? place →
    before.find? place = none ∧ outcome.tree.find? place = some .directory ∧
      ∃ outer, AroundOutput output? outer ∧ outcome.tree.resolve outer = .ok place

theorem failed_run_leaves_files (environment : Environment) (arguments : List String)
    (tree : FileTree) (failed : (run environment arguments tree).code ≠ 0) :
    (run environment arguments tree).LeavesFiles (outputOf arguments) tree := by
  obtain ⟨printed, gains⟩ := harmless_script environment arguments tree failed
  refine ⟨printed, gains.content, fun place changed => ?_⟩
  cases before : tree.find? place with
  | some entry => exact absurd ((gains.kept place entry before).trans before.symm) changed
  | none =>
      cases after : (run environment arguments tree).tree.find? place with
      | none => exact absurd (after.trans before.symm) changed
      | some entry =>
          obtain ⟨rfl, fresh⟩ := gains.fresh place entry before after
          exact ⟨rfl, rfl, fresh⟩

-- The directory is made, and then the file cannot be written because its path ends in a slash.
def slashedArguments : List String :=
  ["combine", "--package", "shapes", "--import", "Circle", "--output", "drawings/shapes/"]

theorem failed_run_made_directory :
    let outcome := run ⟨none, none⟩ slashedArguments ⟨[], []⟩
    outcome.code ≠ 0 ∧ outcome.tree.find? ["drawings"] = some .directory ∧
      outcome.LeavesFiles (some "drawings/shapes/") ⟨[], []⟩ := by
  have failed : (run ⟨none, none⟩ slashedArguments ⟨[], []⟩).code ≠ 0 := by decide
  exact ⟨failed, rfl, failed_run_leaves_files ⟨none, none⟩ slashedArguments ⟨[], []⟩ failed⟩

end CommandLine

end ProtoSchema
