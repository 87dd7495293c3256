import ProtoSchema.Proofs.FileTree.Directories

set_option autoImplicit false

namespace ProtoSchema.FileTree

def Takes (tree : FileTree) (path : String) (place : Location) : Prop :=
  ∃ outer name, tree.resolveParent path = .ok (outer, some name) ∧
    Path.endsInSlash path = false ∧ name.utf8ByteSize ≤ nameLimit ∧
    place = outer ++ [name] ∧ tree.find? place ≠ some .directory

end ProtoSchema.FileTree
