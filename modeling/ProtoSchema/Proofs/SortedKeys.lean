import ProtoSchema.SortedMap

set_option autoImplicit false

namespace ProtoSchema.SortedMap

variable {α : Type}

theorem keys_ascending (map : SortedMap α) : map.keys.Pairwise (· < ·) :=
  List.pairwise_map.mpr map.ascending

theorem keys_nodup (map : SortedMap α) : map.keys.Nodup :=
  map.keys_ascending.imp fun {_ _} before => Std.ne_of_lt before

theorem keys_unique {a b : SortedMap α} (same : ∀ key, key ∈ a.keys ↔ key ∈ b.keys) :
    a.keys = b.keys := by
  have permuted := (List.perm_ext_iff_of_nodup a.keys_nodup b.keys_nodup).mpr same
  refine permuted.eq_of_pairwise (fun x y _ _ before after => ?_) a.keys_ascending b.keys_ascending
  exact absurd after (String.lt_asymm before)

theorem entries_unique {a b : SortedMap α} (same : a.entries.Perm b.entries) : a = b := by
  have lists : a.entries = b.entries := by
    refine List.Perm.eq_of_pairwise (fun x y _ _ less greater => ?_) a.ascending b.ascending same
    exact absurd (String.lt_trans less greater) (String.lt_irrefl _)
  cases a
  cases b
  simpa using lists

theorem mem_keys_insert_entry (key query : String) (value : α) (entries : List (String × α)) :
    query ∈ (insertEntry key value entries).map (·.1) ↔
      query = key ∨ query ∈ entries.map (·.1) := by
  induction entries with
  | nil => simp [insertEntry]
  | cons first tail ih =>
      rcases first with ⟨k, v⟩
      unfold insertEntry
      split
      · simp
      · split
        · rename_i same
          simp [same]
        · rw [List.map_cons, List.mem_cons, ih, List.map_cons, List.mem_cons]
          exact or_left_comm

theorem mem_keys_insert (map : SortedMap α) (key query : String) (value : α) :
    query ∈ (map.insert key value).keys ↔ query = key ∨ query ∈ map.keys :=
  mem_keys_insert_entry key query value map.entries

theorem keys_insert_entry (key : String) (value : α) (entries : List (String × α)) :
    (insertEntry key value entries).map (·.1) = entries.map (·.1) ∨
      ∃ front back, entries.map (·.1) = front ++ back ∧
        (insertEntry key value entries).map (·.1) = front ++ key :: back := by
  induction entries with
  | nil => exact .inr ⟨[], [], rfl, rfl⟩
  | cons first tail ih =>
      rcases first with ⟨k, v⟩
      unfold insertEntry
      split
      · exact .inr ⟨[], k :: tail.map (·.1), rfl, rfl⟩
      · split
        · rename_i same
          exact .inl (by simp [same])
        · rcases ih with same | ⟨front, back, older, newer⟩
          · exact .inl (by rw [List.map_cons, List.map_cons, same])
          · refine .inr ⟨k :: front, back, ?_, ?_⟩
            · rw [List.map_cons, older, List.cons_append]
            · rw [List.map_cons, newer, List.cons_append]

theorem keys_insert (map : SortedMap α) (key : String) (value : α) :
    (map.insert key value).keys = map.keys ∨
      ∃ front back, map.keys = front ++ back ∧
        (map.insert key value).keys = front ++ key :: back :=
  keys_insert_entry key value map.entries

def renamed (rename : String → String) (entries : List (String × α)) : List (String × α) :=
  entries.map fun entry => (rename entry.1, entry.2)

theorem insert_renamed {rename : String → String} (kept : ∀ a b, rename a < rename b ↔ a < b)
    (key : String) (value : α) (entries : List (String × α)) :
    insertEntry (rename key) value (renamed rename entries) =
      renamed rename (insertEntry key value entries) := by
  have apart (a b : String) (same : rename a = rename b) : a = b := by
    have notBefore : ¬ a < b := fun before => Std.ne_of_lt ((kept a b).mpr before) same
    have notAfter : ¬ b < a := fun after => Std.ne_of_lt ((kept b a).mpr after) same.symm
    exact String.le_antisymm (String.not_lt.mp notAfter) (String.not_lt.mp notBefore)
  induction entries with
  | nil => rfl
  | cons first tail ih =>
      rcases first with ⟨k, v⟩
      by_cases before : key < k
      · have first : rename key < rename k := (kept key k).mpr before
        simp [renamed, insertEntry, before, first]
      · have notFirst : ¬ rename key < rename k := fun first => before ((kept key k).mp first)
        by_cases same : key = k
        · simp [renamed, insertEntry, same]
        · have different : rename key ≠ rename k := fun equal => same (apart key k equal)
          simpa [renamed, insertEntry, before, same, notFirst, different] using ih

end ProtoSchema.SortedMap
