import ProtoSchema.Proofs.FileTree.Parents
import ProtoSchema.Proofs.FileTree.Writing

set_option autoImplicit false

namespace ProtoSchema.FileTree

structure Sound (tree : FileTree) : Prop where
  working : tree.find? tree.working = some .directory
  inside : ∀ place name, (tree.find? (place ++ [name])).isSome = true →
    tree.find? place = some .directory

namespace Sound

variable {tree : FileTree}

theorem start (sound : tree.Sound) (path : String) :
    tree.find? (tree.start path) = some .directory := by
  unfold FileTree.start
  split
  · rfl
  · exact sound.working

theorem outer (sound : tree.Sound) {place : Location} (there : (tree.find? place).isSome = true) :
    tree.find? place.dropLast = some .directory := by
  rcases List.eq_nil_or_concat place with rfl | ⟨outer, name, rfl⟩
  · rfl
  · rw [List.concat_eq_append] at there ⊢
    rw [List.dropLast_concat]
    exact sound.inside outer name there

end Sound

variable {tree ready : FileTree}

variable {path : String} {outer place : Location}

structure Enters (tree : FileTree) (path : String) (outer : Location) : Prop where
  checked : checkPath path = .ok ()
  followed : (Path.names path).dropLast.foldlM tree.follow (tree.start path) = .ok outer

theorem Takes.entered (takes : tree.Takes path place) :
    ∃ outer name, tree.Enters path outer ∧ tree.find? outer = some .directory ∧
      (Path.names path).getLast? = some name ∧ (name ≠ "." ∧ name ≠ "..") ∧
      place = outer ++ [name] := by
  obtain ⟨outer, name, led, _, _, rfl, _⟩ := takes
  obtain ⟨checked, ⟨front, parts, followed⟩, proper, found⟩ := resolve_parent_eq_ok led
  refine ⟨outer, name, ⟨checked, ?_⟩, found, ?_, proper, rfl⟩
  · rw [parts, List.dropLast_concat]
    exact followed
  · rw [parts, List.getLast?_concat]

theorem Takes.tidy (takes : tree.Takes path place) : Path.Tidy path := by
  obtain ⟨_, name, _, _, last, proper, _⟩ := takes.entered
  rw [Path.Tidy, last]
  exact fun _ dot => proper.1 (Option.some.inj dot)

end ProtoSchema.FileTree
