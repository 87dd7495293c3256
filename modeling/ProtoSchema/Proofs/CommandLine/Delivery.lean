import ProtoSchema.CommandLine.Run
import ProtoSchema.Proofs.FileTree.Preparing

set_option autoImplicit false

namespace ProtoSchema.CommandLine

structure Outcome.SameEffect (one other : Outcome) : Prop where
  code : one.code = other.code
  printed : one.printed = other.printed
  tree : one.tree = other.tree

theorem Outcome.SameEffect.symm {one other : Outcome} (same : one.SameEffect other) :
    other.SameEffect one := ⟨same.code.symm, same.printed.symm, same.tree.symm⟩

theorem Outcome.SameEffect.trans {one other third : Outcome} (first : one.SameEffect other)
    (second : other.SameEffect third) : one.SameEffect third :=
  ⟨first.code.trans second.code, first.printed.trans second.printed,
    first.tree.trans second.tree⟩

namespace Script

def Alike (one other : Script) : Prop := ∀ tree, (one.runOn tree).SameEffect (other.runOn tree)

variable {one other : Script}

theorem Alike.refl (script : Script) : script.Alike script := fun _ => ⟨rfl, rfl, rfl⟩

theorem Alike.symm (alike : one.Alike other) : other.Alike one := fun tree => (alike tree).symm

theorem Alike.trans {third : Script} (first : one.Alike other) (second : other.Alike third) :
    one.Alike third := fun tree => (first tree).trans (second tree)

section Answers

variable {next after : Except FileError Unit → Script}
  (each : ∀ answer, (next answer).Alike (after answer))

include each

end Answers

variable {ready tree : FileTree} {path : String}

end Script

end ProtoSchema.CommandLine
