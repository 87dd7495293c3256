import Mathlib.Data.List.Induction
import Mathlib.Data.List.Nodup
import ProtoSchema.Proofs.FieldOrder
import ProtoSchema.Proofs.SortedKeys
import ProtoSchema.Proofs.Text.ByteOrder

set_option autoImplicit false

namespace ProtoSchema

namespace SortedMap

variable {α : Type}

def GivenLast (given : List (String × α)) (key : String) (value : α) : Prop :=
  ∃ before after, given = before ++ (key, value) :: after ∧ ∀ later ∈ after, later.1 ≠ key

theorem GivenLast.mem_keys {given : List (String × α)} {key : String} {value : α}
    (last : GivenLast given key value) : key ∈ given.map (·.1) := by
  obtain ⟨before, after, rfl, _⟩ := last
  exact List.mem_map.mpr ⟨(key, value), List.mem_append_right before List.mem_cons_self, rfl⟩

theorem of_list_snoc (given : List (String × α)) (last : String × α) :
    ofList (given ++ [last]) = (ofList given).insert last.1 last.2 := by
  rw [ofList, List.foldl_append]
  rfl

theorem get_of_list (given : List (String × α)) (key : String) :
    (ofList given).get? key = given.reverse.lookup key := by
  induction given using List.reverseRecOn with
  | nil => rfl
  | append_singleton given last ih =>
      rcases last with ⟨k, value⟩
      rw [of_list_snoc, get_insert, ih, List.reverse_append, List.reverse_singleton,
        List.singleton_append, List.lookup_cons]
      by_cases same : key = k
      · simp [same]
      · simp [same, beq_false_of_ne same]

theorem get_of_list_iff (given : List (String × α)) (key : String) (value : α) :
    (ofList given).get? key = some value ↔ GivenLast given key value := by
  rw [get_of_list, List.lookup_eq_some_iff]
  constructor
  · rintro ⟨after, before, parts, others⟩
    refine ⟨before.reverse, after.reverse, ?_, fun later member => ?_⟩
    · simpa using congrArg List.reverse parts
    · have different := bne_iff_ne.mp (others later (List.mem_reverse.mp member))
      exact different.symm
  · rintro ⟨before, after, rfl, others⟩
    refine ⟨after.reverse, before.reverse, by simp, fun earlier member => ?_⟩
    exact bne_iff_ne.mpr (others earlier (List.mem_reverse.mp member)).symm

theorem mem_entries_iff (map : SortedMap α) (key : String) (value : α) :
    (key, value) ∈ map.entries ↔ map.get? key = some value := by
  rw [get?, List.lookup_eq_some_iff]
  constructor
  · intro member
    obtain ⟨before, after, parts⟩ := List.append_of_mem member
    refine ⟨before, after, parts, fun earlier among => ?_⟩
    have ascending := map.ascending
    rw [parts] at ascending
    have less := (List.pairwise_append.mp ascending).2.2 earlier among _ List.mem_cons_self
    exact bne_iff_ne.mpr (Std.ne_of_lt less).symm
  · rintro ⟨before, after, parts, -⟩
    rw [parts]
    exact List.mem_append_right before List.mem_cons_self

theorem mem_of_list_iff (given : List (String × α)) (key : String) (value : α) :
    (key, value) ∈ (ofList given).entries ↔ GivenLast given key value := by
  rw [mem_entries_iff, get_of_list_iff]

theorem of_list_eq {given other : List (String × α)}
    (same : ∀ key value, GivenLast given key value ↔ GivenLast other key value) :
    ofList given = ofList other := by
  have distinct (map : SortedMap α) : map.entries.Nodup := map.keys_nodup.of_map
  refine entries_unique ((List.perm_ext_iff_of_nodup (distinct _) (distinct _)).mpr ?_)
  rintro ⟨key, value⟩
  rw [mem_of_list_iff, mem_of_list_iff, same]

theorem mem_keys_of_list (given : List (String × α)) (key : String) :
    key ∈ (ofList given).keys ↔ key ∈ given.map (·.1) := by
  induction given using List.reverseRecOn with
  | nil => rfl
  | append_singleton given last ih =>
      rw [of_list_snoc, mem_keys_insert, ih, List.map_append, List.mem_append, or_comm]
      simp

end SortedMap

namespace EnumType

-- Literals come by their ordinals, and those of one ordinal by their bytes.
def Precedes (a b : String × UInt32) : Prop :=
  a.2 < b.2 ∨ a.2 = b.2 ∧ Text.bytes a.1 < Text.bytes b.1

instance : DecidableRel Precedes := fun a b =>
  inferInstanceAs (Decidable (a.2 < b.2 ∨ a.2 = b.2 ∧ Text.bytes a.1 < Text.bytes b.1))

theorem precedes_asymm {a b : String × UInt32} (before : Precedes a b) : ¬ Precedes b a := by
  rintro (less | ⟨same, bytes⟩)
  · rcases before with more | ⟨same, _⟩
    · exact UInt32.lt_asymm less more
    · exact UInt32.lt_irrefl _ (same ▸ less)
  · rcases before with more | ⟨_, otherBytes⟩
    · exact UInt32.lt_irrefl _ (same ▸ more)
    · exact List.lt_asymm bytes otherBytes

structure InOrder (given entries : List (String × UInt32)) : Prop where
  once : (entries.map (·.1)).Nodup
  listed : ∀ literal, literal ∈ entries.map (·.1) ↔ literal ∈ given.map (·.1)
  last : ∀ entry ∈ entries, SortedMap.GivenLast given entry.1 entry.2
  ascending : entries.Pairwise Precedes

theorem in_order_iff (given entries : List (String × UInt32)) :
    InOrder given entries ↔
      (entries.map (·.1)).Nodup ∧ (∀ literal ∈ given.map (·.1), literal ∈ entries.map (·.1)) ∧
        (∀ entry ∈ entries, (SortedMap.ofList given).get? entry.1 = some entry.2) ∧
        entries.Pairwise Precedes := by
  constructor
  · intro ordered
    refine ⟨ordered.once, fun literal => (ordered.listed literal).mpr, ?_, ordered.ascending⟩
    intro entry member
    exact (SortedMap.get_of_list_iff given _ _).mpr (ordered.last entry member)
  · rintro ⟨once, known, own, ascending⟩
    have last := fun entry member => (SortedMap.get_of_list_iff given _ _).mp (own entry member)
    refine ⟨once, fun literal => ⟨fun member => ?_, known literal⟩, last, ascending⟩
    obtain ⟨entry, among, rfl⟩ := List.mem_map.mp member
    exact (last entry among).mem_keys

instance (given entries : List (String × UInt32)) : Decidable (InOrder given entries) :=
  decidable_of_iff _ (in_order_iff given entries).symm

theorem InOrder.mem_iff {given entries : List (String × UInt32)} (ordered : InOrder given entries)
    (entry : String × UInt32) :
    entry ∈ entries ↔ SortedMap.GivenLast given entry.1 entry.2 := by
  refine ⟨ordered.last entry, fun last => ?_⟩
  obtain ⟨other, member, same⟩ := List.mem_map.mp ((ordered.listed entry.1).mpr last.mem_keys)
  have otherLast := ordered.last other member
  rw [same, ← SortedMap.get_of_list_iff] at otherLast
  rw [← SortedMap.get_of_list_iff, otherLast] at last
  rwa [← Prod.ext same (Option.some.inj last)]

theorem InOrder.unique {given a b : List (String × UInt32)} (first : InOrder given a)
    (second : InOrder given b) : a = b := by
  have permuted := (List.perm_ext_iff_of_nodup first.once.of_map second.once.of_map).mpr
    fun entry => (first.mem_iff entry).trans (second.mem_iff entry).symm
  exact permuted.eq_of_pairwise
    (fun _ _ _ _ before after => absurd after (precedes_asymm before))
    first.ascending second.ascending

theorem by_ordinal_perm (e : EnumType) : e.byOrdinal.Perm e.values.entries :=
  List.mergeSort_perm _ _

theorem ordinal_trans (a b c : String × UInt32) (ab : decide (a.2 ≤ b.2))
    (bc : decide (b.2 ≤ c.2)) : decide (a.2 ≤ c.2) :=
  decide_eq_true (UInt32.le_trans (of_decide_eq_true ab) (of_decide_eq_true bc))

theorem ordinal_total (a b : String × UInt32) :
    (decide (a.2 ≤ b.2) || decide (b.2 ≤ a.2)) = true := by
  simp [UInt32.le_total]

theorem ordinals_ascending (e : EnumType) : e.byOrdinal.Pairwise fun a b => a.2 ≤ b.2 := by
  have sorted := List.pairwise_mergeSort ordinal_trans ordinal_total e.values.entries
  exact sorted.imp of_decide_eq_true

-- Sorting leaves literals of one ordinal in the order of the map, which is that of their bytes.
theorem level_literals_ascending (e : EnumType) (ordinal : UInt32) :
    (e.byOrdinal.filter (·.2 == ordinal)).Pairwise fun a b => Text.bytes a.1 < Text.bytes b.1 := by
  have kept : e.byOrdinal.filter (·.2 == ordinal) =
      e.values.entries.filter (·.2 == ordinal) := by
    apply filter_merge_sort _ ordinal_trans ordinal_total
    intro a b aLevel bLevel
    simp_all
  rw [kept]
  exact (e.values.ascending.filter _).imp Text.bytes_lt

theorem by_ordinal_ascending (e : EnumType) : e.byOrdinal.Pairwise Precedes := by
  refine List.pairwise_iff_forall_sublist.mpr fun {a b} within => ?_
  have ordinals := List.pairwise_iff_forall_sublist.mp e.ordinals_ascending within
  by_cases same : a.2 = b.2
  · have level := within.filter (·.2 == b.2)
    simp only [List.filter_cons, same, beq_self_eq_true, if_true, List.filter_nil] at level
    exact .inr ⟨same, List.pairwise_iff_forall_sublist.mp (e.level_literals_ascending b.2) level⟩
  · exact .inl (UInt32.lt_of_le_of_ne ordinals same)

theorem by_ordinal_in_order (name : String) (given : List (String × UInt32)) :
    InOrder given (EnumType.mk name (.ofList given)).byOrdinal := by
  have permuted := by_ordinal_perm ⟨name, .ofList given⟩
  exact {
    once := (permuted.map Prod.fst).nodup_iff.mpr (SortedMap.ofList given).keys_nodup
    listed := fun literal =>
      (permuted.map (·.1)).mem_iff.trans (SortedMap.mem_keys_of_list given literal)
    last := fun entry member =>
      (SortedMap.mem_of_list_iff given entry.1 entry.2).mp (permuted.mem_iff.mp member)
    ascending := by_ordinal_ascending _ }

theorem literals_by_ordinal (name : String) (given : List (String × UInt32)) :
    (∀ entries, InOrder given entries ↔
      entries = (EnumType.mk name (.ofList given)).byOrdinal) ∧
    (∀ ordinal, ((EnumType.mk name (.ofList given)).byOrdinal.filter (·.2 == ordinal)).Pairwise
      fun a b => Text.bytes a.1 < Text.bytes b.1) ∧
    ∀ other, (∀ literal ordinal, SortedMap.GivenLast given literal ordinal ↔
        SortedMap.GivenLast other literal ordinal) →
      (EnumType.mk name (.ofList given)).byOrdinal =
        (EnumType.mk name (.ofList other)).byOrdinal := by
  have ordered := by_ordinal_in_order name given
  refine ⟨fun entries => ⟨fun own => own.unique ordered, ?_⟩,
    level_literals_ascending _, fun other same => ?_⟩
  · rintro rfl
    exact ordered
  · rw [SortedMap.of_list_eq same]

-- Two histories of one enumeration: a literal is given twice, and two literals have one ordinal.
def repaintedEntries : List (String × UInt32) :=
  [("RED", 5), ("BLUE", 5), ("RED", 1), ("AMBER", 5)]

def plainEntries : List (String × UInt32) := [("AMBER", 5), ("BLUE", 5), ("RED", 1)]

theorem repainted_by_ordinal :
    InOrder repaintedEntries [("RED", 1), ("AMBER", 5), ("BLUE", 5)] ∧
      (EnumType.mk "Paint" (.ofList repaintedEntries)).byOrdinal =
        [("RED", 1), ("AMBER", 5), ("BLUE", 5)] ∧
      (∀ literal ordinal, SortedMap.GivenLast repaintedEntries literal ordinal ↔
        SortedMap.GivenLast plainEntries literal ordinal) ∧
      (EnumType.mk "Paint" (.ofList repaintedEntries)).byOrdinal =
        (EnumType.mk "Paint" (.ofList plainEntries)).byOrdinal := by
  obtain ⟨unique, _, same⟩ := literals_by_ordinal "Paint" repaintedEntries
  have ordered : InOrder repaintedEntries [("RED", 1), ("AMBER", 5), ("BLUE", 5)] := by decide
  have leave (literal : String) (ordinal : UInt32) :
      SortedMap.GivenLast repaintedEntries literal ordinal ↔
        SortedMap.GivenLast plainEntries literal ordinal := by
    have one : SortedMap.ofList repaintedEntries = .ofList plainEntries := by decide
    rw [← SortedMap.get_of_list_iff, ← SortedMap.get_of_list_iff, one]
  exact ⟨ordered, ((unique _).mp ordered).symm, leave, same plainEntries leave⟩

def placed (literals : List String) : List (String × UInt32) :=
  literals.zipIdx.map fun (literal, place) => (literal, UInt32.ofNat place)

theorem placed_literals (literals : List String) :
    (placed literals).map (·.1) = literals := by
  rw [placed, List.map_map]
  exact List.zipIdx_map_fst 0 literals

def LastPlace (literals : List String) (literal : String) (place : Nat) : Prop :=
  ∃ before after, literals = before ++ literal :: after ∧ literal ∉ after ∧ place = before.length

theorem last_place_unique {literals : List String} {a b : String} {place : Nat}
    (first : LastPlace literals a place) (second : LastPlace literals b place) : a = b := by
  obtain ⟨before, after, parts, _, rfl⟩ := first
  obtain ⟨front, back, otherParts, _, same⟩ := second
  have heads := (List.append_inj (parts.symm.trans otherParts) same).2
  exact (List.cons.inj heads).1

-- Each literal listed with the last of its places, in the order of these places.
structure InListedOrder (literals : List String) (entries : List (String × UInt32)) : Prop where
  once : (entries.map (·.1)).Nodup
  listed : ∀ literal, literal ∈ entries.map (·.1) ↔ literal ∈ literals
  last : ∀ entry ∈ entries, LastPlace literals entry.1 entry.2.toNat
  ascending : entries.Pairwise fun a b => a.2 < b.2

section

variable {literals : List String} (few : literals.length < UInt32.size)

include few

theorem placed_places : (placed literals).map (fun entry => (entry.1, entry.2.toNat)) =
    literals.zipIdx := by
  rw [placed, List.map_map]
  refine (List.map_congr_left fun entry member => ?_).trans (List.map_id _)
  have place : entry.2 < literals.length := by simpa using (List.mem_zipIdx member).2.1
  exact congrArg (Prod.mk entry.1) (UInt32.toNat_ofNat_of_lt' (Nat.lt_trans place few))

theorem last_place_of_given {literal : String} {ordinal : UInt32}
    (last : SortedMap.GivenLast (placed literals) literal ordinal) :
    LastPlace literals literal ordinal.toNat := by
  obtain ⟨before, after, parts, others⟩ := last
  have listed := congrArg (List.map Prod.fst) parts
  have places := congrArg (·.map (fun entry => (entry.1, entry.2.toNat))) parts
  rw [placed_literals, List.map_append, List.map_cons] at listed
  simp only [placed_places few, List.map_append, List.map_cons] at places
  refine ⟨before.map Prod.fst, after.map Prod.fst, listed, ?_, ?_⟩
  · intro again
    obtain ⟨later, among, same⟩ := List.mem_map.mp again
    exact others later among same
  · have here := congrArg (·[before.length]?) places
    simpa [listed, eq_comm] using here

theorem in_listed_order (field : String) :
    InListedOrder literals (ofLiterals field literals).byOrdinal := by
  have ordered := by_ordinal_in_order (Name.camelCase field) (placed literals)
  have last := fun entry member => last_place_of_given few (ordered.last entry member)
  refine ⟨ordered.once, fun literal => ?_, last, ?_⟩
  · exact (ordered.listed literal).trans (by rw [placed_literals])
  · refine ordered.ascending.imp_of_mem fun {a b} aMember bMember before => ?_
    rcases before with less | ⟨same, bytes⟩
    · exact less
    · have places := last a aMember
      rw [same] at places
      rw [last_place_unique places (last b bMember)] at bytes
      exact absurd bytes (List.lt_irrefl _)

theorem placed_ascending : (placed literals).Pairwise fun a b => a.2 < b.2 := by
  have places : literals.zipIdx.Pairwise fun a b => a.2 < b.2 := by
    have numbers := List.pairwise_lt_range' (s := 0) (n := literals.length)
    rw [← List.zipIdx_map_snd] at numbers
    exact List.pairwise_map.mp numbers
  rw [← placed_places few] at places
  exact (List.pairwise_map.mp places).imp UInt32.lt_iff_toNat_lt.mpr

theorem placed_in_order (distinct : literals.Nodup) : InOrder (placed literals) (placed literals) := by
  have once : ((placed literals).map (·.1)).Nodup := by rwa [placed_literals]
  refine ⟨once, fun _ => Iff.rfl, fun entry member => ?_, ?_⟩
  · obtain ⟨before, after, parts⟩ := List.append_of_mem member
    refine ⟨before, after, parts, fun later among same => ?_⟩
    rw [parts, List.map_append, List.map_cons] at once
    have fresh := (List.nodup_cons.mp (List.nodup_append.mp once).2.1).1
    exact fresh (List.mem_map.mpr ⟨later, among, same⟩)
  · exact (placed_ascending few).imp .inl

end

theorem literals_in_listed_order (field : String) (literals : List String)
    (few : literals.length < UInt32.size) :
    InListedOrder literals (ofLiterals field literals).byOrdinal ∧
      (literals.Nodup → (ofLiterals field literals).byOrdinal.map
        (fun entry => (entry.1, entry.2.toNat)) = literals.zipIdx) := by
  refine ⟨in_listed_order few field, fun distinct => ?_⟩
  have ordered := by_ordinal_in_order (Name.camelCase field) (placed literals)
  rw [← placed_places few, (placed_in_order few distinct).unique ordered]
  rfl

theorem repeated_literal_listed :
    InListedOrder ["RED", "GREEN", "RED", "BLUE"] [("GREEN", 1), ("RED", 2), ("BLUE", 3)] ∧
      ["RED", "GREEN", "BLUE"].Nodup ∧
      (ofLiterals "status" ["RED", "GREEN", "BLUE"]).byOrdinal.map
        (fun entry => (entry.1, entry.2.toNat)) = [("RED", 0), ("GREEN", 1), ("BLUE", 2)] := by
  have repeated := (literals_in_listed_order "status" ["RED", "GREEN", "RED", "BLUE"] (by decide)).1
  have made := by_ordinal_in_order "Status" (placed ["RED", "GREEN", "RED", "BLUE"])
  have ordered : InOrder (placed ["RED", "GREEN", "RED", "BLUE"])
    [("GREEN", 1), ("RED", 2), ("BLUE", 3)] := by decide
  have plain := literals_in_listed_order "status" ["RED", "GREEN", "BLUE"] (by decide)
  have entries : (ofLiterals "status" ["RED", "GREEN", "RED", "BLUE"]).byOrdinal =
    [("GREEN", 1), ("RED", 2), ("BLUE", 3)] := made.unique ordered
  exact ⟨entries ▸ repeated, by decide, plain.2 (by decide)⟩

end EnumType

end ProtoSchema
