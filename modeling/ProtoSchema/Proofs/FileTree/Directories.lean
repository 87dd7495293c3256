import Mathlib.Data.List.Basic
import ProtoSchema.FileTree.Basic
import ProtoSchema.Proofs.FirstFailure

set_option autoImplicit false

namespace ProtoSchema.FileTree

theorem lookup_without {place query : Location} (other : query ≠ place)
    (entries : List (Location × Entry)) :
    (entries.filter (·.1 ≠ place)).lookup query = entries.lookup query := by
  induction entries with
  | nil => rfl
  | cons first rest ih =>
      rcases first with ⟨own, entry⟩
      by_cases same : own = place
      · have skipped : (query == own) = false := beq_false_of_ne (same ▸ other)
        simpa [same, List.lookup_cons, skipped, beq_false_of_ne other] using ih
      · simp only [List.filter_cons, same, ne_eq, not_false_eq_true, decide_true, if_true,
          List.lookup_cons]
        rw [← ih]

theorem find_put_same (tree : FileTree) {place : Location} (inner : place ≠ []) (entry : Entry) :
    (tree.put place entry).find? place = some entry := by
  simp [find?, put, inner]

theorem find_put_other (tree : FileTree) {place query : Location} (other : query ≠ place)
    (entry : Entry) : (tree.put place entry).find? query = tree.find? query := by
  have without := lookup_without other tree.entries
  have skipped : (query == place) = false := beq_false_of_ne other
  simp [find?, put, List.lookup_cons, skipped] at without ⊢
  rw [without]

theorem follow_eq_ok_iff (tree : FileTree) (place next : Location) (name : String) :
    tree.follow place name = .ok next ↔ tree.find? place = some .directory ∧
      (name = "." ∧ next = place ∨ name = ".." ∧ next = place.dropLast ∨
        (name ≠ "." ∧ name ≠ "..") ∧ name.utf8ByteSize ≤ nameLimit ∧
          (tree.find? (place ++ [name])).isSome = true ∧ next = place ++ [name]) := by
  unfold follow
  cases found : tree.find? place with
  | none => simp
  | some entry =>
      cases entry with
      | file content => simp
      | directory =>
          by_cases here : name = "."
          · simp [here, @eq_comm _ place]
          · by_cases up : name = ".."
            · simp [up, @eq_comm _ place.dropLast]
            · by_cases long : nameLimit < name.utf8ByteSize
              · simp [here, up, long, Nat.not_le.mpr long]
              · have short := Nat.not_lt.mp long
                cases present : (tree.find? (place ++ [name])).isSome <;>
                  simp [here, up, long, short, @eq_comm _ (place ++ [name])]

theorem resolve_of_followed {tree : FileTree} {path : String} {place : Location}
    (checked : checkPath path = .ok ())
    (followed : (Path.names path).foldlM tree.follow (tree.start path) = .ok place) :
    tree.resolve path = .ok place := by
  show (checkPath path).bind _ = _
  rw [checked]
  exact followed

-- A tree in which all paths lead where they led in another one: directories stay directories, and
-- what is there stays there, though a file may hold something else.
structure Leads (before after : FileTree) : Prop where
  working : after.working = before.working
  directories : ∀ place, before.find? place = some .directory →
    after.find? place = some .directory
  there : ∀ place, (before.find? place).isSome = true → (after.find? place).isSome = true

namespace Leads

variable {before after : FileTree}

theorem follow (leads : Leads before after) {place next : Location} {name : String}
    (followed : before.follow place name = .ok next) : after.follow place name = .ok next := by
  rw [follow_eq_ok_iff] at followed ⊢
  obtain ⟨found, stays | up | ⟨proper, short, present, same⟩⟩ := followed
  · exact ⟨leads.directories place found, .inl stays⟩
  · exact ⟨leads.directories place found, .inr (.inl up)⟩
  · exact ⟨leads.directories place found, .inr (.inr ⟨proper, short, leads.there _ present, same⟩)⟩

theorem follow_all (leads : Leads before after) {names : List String} {start place : Location}
    (followed : names.foldlM before.follow start = .ok place) :
    names.foldlM after.follow start = .ok place := by
  induction names generalizing start with
  | nil => exact followed
  | cons name rest ih =>
      rw [List.foldlM_cons] at followed ⊢
      obtain ⟨next, first, others⟩ := bind_eq_ok followed
      rw [leads.follow first]
      exact ih others

theorem start (leads : Leads before after) (path : String) :
    after.start path = before.start path := by
  unfold FileTree.start
  rw [leads.working]

theorem resolve (leads : Leads before after) {path : String} {place : Location}
    (led : before.resolve path = .ok place) : after.resolve path = .ok place := by
  obtain ⟨_, checked, followed⟩ := bind_eq_ok led
  rw [← leads.start] at followed
  exact resolve_of_followed checked (leads.follow_all followed)

end Leads

structure Keeps (before after : FileTree) : Prop where
  working : after.working = before.working
  kept : ∀ place entry, before.find? place = some entry → after.find? place = some entry

namespace Keeps

variable {before after : FileTree}

theorem refl (tree : FileTree) : Keeps tree tree := ⟨rfl, fun _ _ found => found⟩

theorem trans {middle : FileTree} (first : Keeps before middle) (second : Keeps middle after) :
    Keeps before after where
  working := second.working.trans first.working
  kept place entry found := second.kept place entry (first.kept place entry found)

theorem leads (keeps : Keeps before after) : Leads before after where
  working := keeps.working
  directories place := keeps.kept place .directory
  there place found := by
    obtain ⟨entry, present⟩ := Option.isSome_iff_exists.mp found
    rw [keeps.kept place entry present, Option.isSome_some]

end Keeps

theorem resolve_parent_eq_ok {tree : FileTree} {path name : String} {place : Location}
    (led : tree.resolveParent path = .ok (place, some name)) :
    checkPath path = .ok () ∧
      (∃ outer, Path.names path = outer ++ [name] ∧
        outer.foldlM tree.follow (tree.start path) = .ok place) ∧
      (name ≠ "." ∧ name ≠ "..") ∧ tree.find? place = some .directory := by
  obtain ⟨_, checked, rest⟩ := bind_eq_ok led
  obtain ⟨own, followed, last⟩ := bind_eq_ok rest
  split at last
  · rename_i found
    split at last
    · cases last
    · cases last
    · cases last
    · rename_i final notHere notUp ends
      cases last
      obtain ⟨outer, parts⟩ := List.getLast?_eq_some_iff.mp ends
      rw [parts, List.dropLast_concat] at followed
      exact ⟨checked, ⟨outer, parts, followed⟩, ⟨notHere, notUp⟩, found⟩
  · cases last
  · cases last

-- A new place is found by its path in any tree that has it and leads where the old one led.
theorem resolve_of_parent {before after : FileTree} {path name : String} {place : Location}
    (led : before.resolveParent path = .ok (place, some name)) (leads : Leads before after)
    (short : name.utf8ByteSize ≤ nameLimit)
    (present : (after.find? (place ++ [name])).isSome = true) :
    after.resolve path = .ok (place ++ [name]) := by
  obtain ⟨checked, ⟨outer, parts, followed⟩, proper, directory⟩ := resolve_parent_eq_ok led
  have last : after.follow place name = .ok (place ++ [name]) :=
    (follow_eq_ok_iff _ _ _ _).mpr ⟨leads.directories place directory,
      .inr (.inr ⟨proper, short, present, rfl⟩)⟩
  refine resolve_of_followed checked ?_
  rw [parts, leads.start, List.foldlM_append, leads.follow_all followed]
  show (after.follow place name).bind _ = _
  rw [last]
  rfl

theorem make_directory_eq_ok {tree made : FileTree} {path : String}
    (done : tree.makeDirectory path = .ok made) :
    ∃ place name, tree.resolveParent path = .ok (place, some name) ∧
      name.utf8ByteSize ≤ nameLimit ∧ tree.find? (place ++ [name]) = none ∧
      made = tree.put (place ++ [name]) .directory := by
  obtain ⟨⟨place, name?⟩, led, rest⟩ := bind_eq_ok done
  cases name? with
  | none => cases rest
  | some name =>
      simp only at rest
      split at rest
      · cases rest
      · rename_i short
        split at rest
        · cases rest
        · rename_i absent
          cases rest
          refine ⟨place, name, led, Nat.not_lt.mp short, ?_, rfl⟩
          simpa using absent

theorem make_directory_keeps {tree made : FileTree} {path : String}
    (done : tree.makeDirectory path = .ok made) : Keeps tree made := by
  obtain ⟨place, name, _, _, absent, rfl⟩ := make_directory_eq_ok done
  refine ⟨rfl, fun query entry found => ?_⟩
  have other : query ≠ place ++ [name] := by
    rintro rfl
    cases absent.symm.trans found
  rwa [find_put_other tree other]

theorem make_directory_resolves {tree made : FileTree} {path : String}
    (done : tree.makeDirectory path = .ok made) {place : Location}
    (absent : tree.find? place = none) {entry : Entry} (found : made.find? place = some entry) :
    entry = .directory ∧ made.resolve path = .ok place := by
  have keeps := make_directory_keeps done
  obtain ⟨outer, name, led, short, _, rfl⟩ := make_directory_eq_ok done
  have inner : outer ++ [name] ≠ [] := by simp
  have same : place = outer ++ [name] := by
    by_contra other
    rw [find_put_other tree other, absent] at found
    cases found
  subst same
  have new := find_put_same tree inner .directory
  exact ⟨Option.some.inj (found.symm.trans new),
    resolve_of_parent led keeps.leads short (Option.isSome_of_eq_some new)⟩

structure Gains (paths : String → Prop) (before after : FileTree) : Prop extends
    Keeps before after where
  fresh : ∀ place entry, before.find? place = none → after.find? place = some entry →
    entry = .directory ∧ ∃ path, paths path ∧ after.resolve path = .ok place

namespace Gains

variable {paths : String → Prop} {before after : FileTree}

theorem refl (paths : String → Prop) (tree : FileTree) : Gains paths tree tree :=
  { Keeps.refl tree with
    fresh := fun _ _ absent found => by cases absent.symm.trans found }

theorem trans {middle : FileTree} (first : Gains paths before middle)
    (second : Gains paths middle after) : Gains paths before after :=
  { first.toKeeps.trans second.toKeeps with
    fresh := fun place entry absent found => by
      cases between : middle.find? place with
      | none => exact second.fresh place entry between found
      | some own =>
          obtain ⟨rfl, path, among, led⟩ := first.fresh place own absent between
          have same := (second.kept place _ between).symm.trans found
          exact ⟨(Option.some.inj same).symm, path, among, second.toKeeps.leads.resolve led⟩ }

theorem of_make_directory {path : String} (among : paths path)
    (done : before.makeDirectory path = .ok after) : Gains paths before after :=
  { make_directory_keeps done with
    fresh := fun _ _ absent found => by
      obtain ⟨directory, led⟩ := make_directory_resolves done absent found
      exact ⟨directory, path, among, led⟩ }

theorem content (gains : Gains paths before after) (place : Location) :
    after.content? place = before.content? place := by
  unfold content?
  cases found : before.find? place with
  | some entry => rw [gains.kept place entry found]
  | none =>
      cases new : after.find? place with
      | none => rfl
      | some entry =>
          obtain ⟨rfl, _⟩ := gains.fresh place entry found new
          rfl

end Gains

end ProtoSchema.FileTree
