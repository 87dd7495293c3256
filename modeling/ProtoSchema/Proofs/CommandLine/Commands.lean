import ProtoSchema.Proofs.CommandLine.Verbosity
import ProtoSchema.Proofs.Text.Cut

set_option autoImplicit false

namespace ProtoSchema.CommandLine

namespace Given

end Given

def Command.name : Command → String
  | .convert _ => "convert"
  | .combine _ => "combine"

def Command.keys : Command → List Key
  | .convert _ => convertKeys
  | .combine _ => combineKeys

def GivenOnce (given : List Given) : Prop :=
  ∀ key, Key.isRepeatable key = false → (Given.values given key).length ≤ 1

end ProtoSchema.CommandLine
