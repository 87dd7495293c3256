set_option autoImplicit false

namespace ProtoSchema

structure SortedMap (α : Type) where
  entries : List (String × α)
  ascending : entries.Pairwise fun a b => a.1 < b.1
deriving DecidableEq

namespace SortedMap

variable {α : Type}

-- Puts an entry in its place, instead of an earlier one with the same key.
def insertEntry (key : String) (value : α) : List (String × α) → List (String × α)
  | [] => [(key, value)]
  | (k, v) :: rest =>
    if key < k then (key, value) :: (k, v) :: rest
    else if key = k then (key, value) :: rest
    else (k, v) :: insertEntry key value rest

theorem keys_of_insert {key : String} {value : α} {entries : List (String × α)}
    {entry : String × α} (member : entry ∈ insertEntry key value entries) :
    entry.1 = key ∨ entry ∈ entries := by
  induction entries with
  | nil => simp_all [insertEntry]
  | cons first tail ih =>
    rcases first with ⟨k, v⟩
    unfold insertEntry at member
    split at member
    · grind
    · split at member <;> grind

theorem ascending_insert (key : String) (value : α) {entries : List (String × α)}
    (ascending : entries.Pairwise fun a b => a.1 < b.1) :
    (insertEntry key value entries).Pairwise fun a b => a.1 < b.1 := by
  induction entries with
  | nil => simp [insertEntry]
  | cons first tail ih =>
    rcases first with ⟨k, v⟩
    obtain ⟨below, tailAscending⟩ := List.pairwise_cons.mp ascending
    unfold insertEntry
    split
    · rename_i before
      refine List.pairwise_cons.mpr ⟨fun entry member => ?_, ascending⟩
      rcases List.mem_cons.mp member with rfl | later
      · exact before
      · exact String.lt_trans before (below entry later)
    · rename_i notBefore
      split
      · rename_i same
        subst same
        exact List.pairwise_cons.mpr ⟨below, tailAscending⟩
      · rename_i different
        have after : k < key :=
          Std.lt_of_le_of_ne (String.not_lt.mp notBefore) (Ne.symm different)
        refine List.pairwise_cons.mpr ⟨fun entry member => ?_, ih tailAscending⟩
        rcases keys_of_insert member with same | later
        · exact same ▸ after
        · exact below entry later

theorem lookup_insert_entry (key query : String) (value : α) (entries : List (String × α)) :
    (insertEntry key value entries).lookup query =
      if query = key then some value else entries.lookup query := by
  induction entries with
  | nil =>
    by_cases same : query = key
    · simp [insertEntry, same]
    · simp [insertEntry, List.lookup_cons, beq_false_of_ne same, same]
  | cons first tail ih =>
    rcases first with ⟨k, v⟩
    unfold insertEntry
    by_cases same : query = key
    · subst same
      split
      · simp
      · rename_i notBefore
        split
        · simp
        · rename_i different
          simp [List.lookup_cons, beq_false_of_ne different, ih]
    · split
      · simp [List.lookup_cons, beq_false_of_ne same]
      · rename_i notBefore
        split
        · rename_i here
          subst here
          simp [List.lookup_cons, beq_false_of_ne same]
        · by_cases here : query = k
          · subst here
            simp
          · simp [List.lookup_cons, beq_false_of_ne here, ih, same]

def empty : SortedMap α := ⟨[], List.Pairwise.nil⟩

instance : Inhabited (SortedMap α) := ⟨empty⟩

def insert (map : SortedMap α) (key : String) (value : α) : SortedMap α :=
  ⟨insertEntry key value map.entries, ascending_insert key value map.ascending⟩

def ofList (entries : List (String × α)) : SortedMap α :=
  entries.foldl (fun map entry => map.insert entry.1 entry.2) empty

def get? (map : SortedMap α) (key : String) : Option α := map.entries.lookup key

def keys (map : SortedMap α) : List String := map.entries.map (·.1)

def size (map : SortedMap α) : Nat := map.entries.length

@[simp] theorem get_insert (map : SortedMap α) (key query : String) (value : α) :
    (map.insert key value).get? query = if query = key then some value else map.get? query :=
  lookup_insert_entry key query value map.entries

end SortedMap

end ProtoSchema
