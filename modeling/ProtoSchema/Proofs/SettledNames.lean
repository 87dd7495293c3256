import ProtoSchema.Proofs.NameCases
import ProtoSchema.Proofs.Text.OwnUpper

set_option autoImplicit false

namespace ProtoSchema.Name

theorem no_capital_started (c : Char) : ∀ d ∈ startWord c, d.isUpper = false := by
  intro d member
  by_cases capital : c.isUpper = true
  · rw [startWord, if_pos capital] at member
    rcases List.mem_cons.mp member with rfl | small
    · rfl
    · obtain rfl := List.mem_singleton.mp small
      exact Char.isUpper_toLower_eq_false c
  · rw [startWord, if_neg capital] at member
    obtain rfl := List.mem_singleton.mp member
    exact Bool.eq_false_of_not_eq_true capital

theorem snake_chars_small (name : List Char) : ∀ c ∈ snakeChars name, c.isUpper = false := by
  cases name with
  | nil => nofun
  | cons first rest =>
      intro c member
      rcases List.mem_cons.mp member with rfl | later
      · exact Char.isUpper_toLower_eq_false first
      · obtain ⟨d, _, started⟩ := List.mem_flatMap.mp later
        exact no_capital_started d c started

theorem snake_chars_of_small {name : List Char} (small : ∀ c ∈ name, c.isUpper = false) :
    snakeChars name = name := by
  cases name with
  | nil => rfl
  | cons first rest =>
      have plain := no_word_started fun c member => small c (List.mem_cons_of_mem first member)
      have kept : ¬ first.isUpper = true := by simp [small first List.mem_cons_self]
      rw [snakeChars, plain, Char.toLower_eq_of_not_isUpper kept]

def segments (name : String) : List (List Char) :=
  (name.toList.splitOn '_').filter (· ≠ [])

theorem capitalize_filled (pieces : List (List Char)) :
    (pieces.filter (· ≠ [])).flatMap capitalize = pieces.flatMap capitalize := by
  induction pieces with
  | nil => rfl
  | cons piece rest ih =>
      rw [List.flatMap_cons, ← ih]
      cases piece with
      | nil => simp [capitalize]
      | cons c others => simp

theorem camel_chars_eq (name : String) :
    camelChars name.toList = (segments name).flatMap capitalize := by
  rw [camelChars, Text.pieces_eq_split_on, segments, capitalize_filled]

theorem underscore_not_in_camel (name : List Char) : '_' ∉ camelChars name := by
  intro member
  obtain ⟨piece, among, inside⟩ := List.mem_flatMap.mp member
  have free := Text.separator_not_mem_pieces '_' name piece among
  cases piece with
  | nil => cases inside
  | cons c rest =>
      rcases List.mem_append.mp inside with raised | later
      · exact free (Text.underscore_of_upper raised ▸ List.mem_cons_self)
      · exact free (List.mem_cons_of_mem c later)

theorem camel_chars_of_settled {name : List Char} (free : '_' ∉ name)
    (start : ∀ first ∈ name.head?, Text.upper first = [first]) : camelChars name = name := by
  rw [camelChars, Text.pieces_eq_split_on, List.splitOn_eq_singleton free, List.flatMap_singleton]
  cases name with
  | nil => rfl
  | cons first rest =>
      rw [capitalize, start first rfl]
      rfl

theorem camel_chars_start (name : List Char) :
    ∀ first ∈ (camelChars name).head?, Text.upper first = [first] := by
  intro first head
  obtain ⟨c, raised⟩ := camel_chars_head head
  exact Text.upper_settled raised

theorem spellings_settled :
    (∀ name, snakeCase (snakeCase name) = snakeCase name ∧
      ∀ c ∈ (snakeCase name).toList, c.isUpper = false) ∧
    (∀ name, camelCase (camelCase name) = camelCase name ∧ '_' ∉ (camelCase name).toList) ∧
    ∀ a b, segments a = segments b → camelCase a = camelCase b := by
  refine ⟨fun name => ?_, fun name => ?_, fun a b same => ?_⟩
  · have small := snake_chars_small name.toList
    rw [snakeCase, snakeCase, String.toList_ofList, snake_chars_of_small small]
    exact ⟨rfl, small⟩
  · have free := underscore_not_in_camel name.toList
    have start := camel_chars_start name.toList
    rw [camelCase, camelCase, String.toList_ofList, camel_chars_of_settled free start]
    exact ⟨rfl, free⟩
  · rw [camelCase, camelCase, camel_chars_eq, camel_chars_eq, same]

-- Two of the first characters have an upper case of two characters.
theorem scattered_name_settled :
    segments "_ßig__ŉow_" = segments "ßig_ŉow" ∧ camelCase "_ßig__ŉow_" = camelCase "ßig_ŉow" ∧
      camelCase "ßig_ŉow" = "SSigʼNow" ∧ camelCase "SSigʼNow" = "SSigʼNow" := by
  obtain ⟨_, camel, alike⟩ := spellings_settled
  have same : segments "_ßig__ŉow_" = segments "ßig_ŉow" := by decide
  have spelled : camelCase "ßig_ŉow" = "SSigʼNow" := by decide
  exact ⟨same, alike _ _ same, spelled, spelled ▸ (camel "ßig_ŉow").1⟩

end ProtoSchema.Name
