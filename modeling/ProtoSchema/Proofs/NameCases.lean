import Mathlib
import ProtoSchema.Imports
import ProtoSchema.Proofs.Text.Capitals
import ProtoSchema.Proofs.Text.Cut
import ProtoSchema.Proto.Basic

set_option autoImplicit false

namespace ProtoSchema

namespace Text

theorem small_of_capital {c : Char} (capital : c.isUpper = true) : c.toLower.isLower = true := by
  rw [Char.isLower_toLower_eq_isAlpha, Char.isAlpha, capital, Bool.true_or]

theorem capital_of_small {c : Char} (small : c.isLower = true) : c.toUpper.isUpper = true := by
  rw [Char.isUpper_toUpper_eq_isAlpha, Char.isAlpha, small, Bool.or_true]

theorem capital_restored {c : Char} (capital : c.isUpper = true) : c.toLower.toUpper = c := by
  rw [Char.toUpper_toLower_eq_toUpper]
  exact Char.toUpper_eq_of_not_isLower (Char.not_isLower_of_isUpper capital)

theorem small_restored {c : Char} (small : c.isLower = true) : c.toUpper.toLower = c := by
  rw [Char.toLower_toUpper_eq_toLower]
  exact Char.toLower_eq_of_not_isUpper (Char.not_isUpper_of_isLower small)

theorem upper_of_small {c : Char} (small : c.isLower = true) : upper c = [c.toUpper] := by
  have table : ∀ place < 26, upperCodes (0x61 + place) = [0x41 + place] := by decide
  have range : 0x61 ≤ c.toNat ∧ c.toNat ≤ 0x7A := by
    simpa [is_lower_eq, isSmallCode] using small
  obtain ⟨place, spot⟩ := Nat.exists_eq_add_of_le range.1
  have code : c.toNat - 32 = 0x41 + place := by omega
  rw [upper, Char.toUpper_eq_of_isLower small, code, spot, table place (by omega)]
  rfl

end Text

namespace Name

-- A word starts with a small letter and has no capital. Both are letters of ASCII; any other
-- character but the underscore may follow.
def IsWord (word : List Char) : Prop :=
  ∃ c rest, word = c :: rest ∧ c.isLower = true ∧ ∀ d ∈ rest, d ≠ '_' ∧ d.isUpper = false

def AreWords (words : List (List Char)) : Prop := words ≠ [] ∧ ∀ word ∈ words, IsWord word

theorem capitalize_small {c : Char} (small : c.isLower = true) (rest : List Char) :
    capitalize (c :: rest) = c.toUpper :: rest := by
  rw [capitalize, Text.upper_of_small small]
  rfl

theorem underscore_not_in_word {word : List Char} (isWord : IsWord word) : '_' ∉ word := by
  obtain ⟨c, rest, rfl, small, free⟩ := isWord
  intro member
  rcases List.mem_cons.mp member with rfl | later
  · cases small
  · exact (free '_' later).1 rfl

theorem underscore_not_in_capitalized {word : List Char} (isWord : IsWord word) :
    '_' ∉ capitalize word := by
  obtain ⟨c, rest, rfl, small, free⟩ := isWord
  rw [capitalize_small small]
  intro member
  rcases List.mem_cons.mp member with same | later
  · have capital := Text.capital_of_small small
    rw [← same] at capital
    cases capital
  · exact (free '_' later).1 rfl

theorem capital_starts_word {c : Char} {rest : List Char} (capital : c.isUpper = true)
    (free : ∀ d ∈ rest, d ≠ '_' ∧ d.isUpper = false) :
    IsWord (c.toLower :: rest) ∧ capitalize (c.toLower :: rest) = c :: rest := by
  have small := Text.small_of_capital capital
  refine ⟨⟨_, rest, rfl, small, free⟩, ?_⟩
  rw [capitalize_small small, Text.capital_restored capital]

theorem no_word_started {rest : List Char} (free : ∀ d ∈ rest, d.isUpper = false) :
    rest.flatMap startWord = rest := by
  induction rest with
  | nil => rfl
  | cons d rest ih =>
      have later := ih fun e member => free e (List.mem_cons_of_mem d member)
      rw [List.flatMap_cons, later, startWord, free d List.mem_cons_self]
      rfl

theorem word_started {word : List Char} (isWord : IsWord word) :
    (capitalize word).flatMap startWord = '_' :: word := by
  obtain ⟨c, rest, rfl, small, free⟩ := isWord
  have plain := no_word_started fun d member => (free d member).2
  rw [capitalize_small small, List.flatMap_cons, plain, startWord, Text.capital_of_small small,
    if_pos rfl, Text.small_restored small]
  rfl

theorem join_words (word : List Char) (words : List (List Char)) :
    ['_'].intercalate (word :: words) = word ++ words.flatMap ('_' :: ·) := by
  induction words generalizing word with
  | nil => simp [List.intercalate]
  | cons next words ih =>
      rw [List.intercalate_cons_cons, ih next]
      simp

theorem words_started {words : List (List Char)} (each : ∀ word ∈ words, IsWord word) :
    (words.flatMap capitalize).flatMap startWord = words.flatMap ('_' :: ·) := by
  rw [List.flatMap_assoc]
  exact List.flatMap_congr fun word member => word_started (each word member)

theorem snake_words {words : List (List Char)} (areWords : AreWords words) :
    snakeChars (words.flatMap capitalize) = ['_'].intercalate words := by
  obtain ⟨some, each⟩ := areWords
  cases words with
  | nil => exact absurd rfl some
  | cons word words =>
      obtain ⟨c, rest, rfl, small, free⟩ := each word List.mem_cons_self
      have plain := no_word_started fun d member => (free d member).2
      have others := words_started fun other member => each other (List.mem_cons_of_mem _ member)
      rw [join_words, List.flatMap_cons, capitalize_small small, List.cons_append, snakeChars,
        Text.small_restored small, List.flatMap_append, plain, others]
      rfl

theorem camel_words {words : List (List Char)} (areWords : AreWords words) :
    camelChars (['_'].intercalate words) = words.flatMap capitalize := by
  have free := fun word member => underscore_not_in_word (areWords.2 word member)
  rw [camelChars, Text.pieces_eq_split_on, List.splitOn_intercalate '_' free areWords.1]

theorem cut_into_words {chars : List Char} (free : '_' ∉ chars) :
    ∃ (front : List Char) (words : List (List Char)), chars = front ++ words.flatMap capitalize ∧
      (∀ d ∈ front, d ≠ '_' ∧ d.isUpper = false) ∧ ∀ word ∈ words, IsWord word := by
  induction chars with
  | nil => exact ⟨[], [], rfl, nofun, nofun⟩
  | cons c chars ih =>
      obtain ⟨front, words, rfl, frontFree, each⟩ := ih (List.not_mem_of_not_mem_cons free)
      cases capital : c.isUpper with
      | true =>
          obtain ⟨isWord, capitalized⟩ := capital_starts_word capital frontFree
          refine ⟨[], (c.toLower :: front) :: words, ?_, nofun, ?_⟩
          · rw [List.flatMap_cons, capitalized]
            rfl
          · exact List.forall_mem_cons.mpr ⟨isWord, each⟩
      | false =>
          have plain : c ≠ '_' := fun same => free (same ▸ List.mem_cons_self)
          exact ⟨c :: front, words, rfl, List.forall_mem_cons.mpr ⟨⟨plain, capital⟩, frontFree⟩,
            each⟩

def pascalNames : Set String :=
  {name | ∃ c rest, name.toList = c :: rest ∧ c.isUpper = true ∧ '_' ∉ rest}

def snakeNames : Set String :=
  {name | ∃ words, AreWords words ∧ name.toList = ['_'].intercalate words}

theorem pascal_iff_words (name : String) :
    name ∈ pascalNames ↔ ∃ words, AreWords words ∧ name.toList = words.flatMap capitalize := by
  constructor
  · rintro ⟨c, rest, spelled, capital, free⟩
    obtain ⟨front, words, rfl, frontFree, each⟩ := cut_into_words free
    obtain ⟨isWord, capitalized⟩ := capital_starts_word capital frontFree
    refine ⟨(c.toLower :: front) :: words, ⟨List.cons_ne_nil _ _, ?_⟩, ?_⟩
    · exact List.forall_mem_cons.mpr ⟨isWord, each⟩
    · rw [spelled, List.flatMap_cons, capitalized]
      rfl
  · rintro ⟨words, ⟨some, each⟩, spelled⟩
    have free : '_' ∉ words.flatMap capitalize := by
      intro member
      obtain ⟨word, among, inside⟩ := List.mem_flatMap.mp member
      exact underscore_not_in_capitalized (each word among) inside
    cases words with
    | nil => exact absurd rfl some
    | cons word words =>
        obtain ⟨c, rest, rfl, small, _⟩ := each word List.mem_cons_self
        rw [List.flatMap_cons, capitalize_small small, List.cons_append] at spelled free
        exact ⟨_, _, spelled, Text.capital_of_small small, List.not_mem_of_not_mem_cons free⟩

theorem snake_case_words {name : String} {words : List (List Char)} (areWords : AreWords words)
    (spelled : name.toList = words.flatMap capitalize) :
    (snakeCase name).toList = ['_'].intercalate words := by
  rw [snakeCase, String.toList_ofList, spelled, snake_words areWords]

theorem camel_case_words {name : String} {words : List (List Char)} (areWords : AreWords words)
    (spelled : name.toList = ['_'].intercalate words) :
    (camelCase name).toList = words.flatMap capitalize := by
  rw [camelCase, String.toList_ofList, spelled, camel_words areWords]

theorem snake_case_maps : Set.MapsTo snakeCase pascalNames snakeNames := by
  intro name pascal
  obtain ⟨words, areWords, spelled⟩ := (pascal_iff_words name).mp pascal
  exact ⟨words, areWords, snake_case_words areWords spelled⟩

theorem camel_case_maps : Set.MapsTo camelCase snakeNames pascalNames := by
  rintro name ⟨words, areWords, spelled⟩
  exact (pascal_iff_words _).mpr ⟨words, areWords, camel_case_words areWords spelled⟩

theorem cases_undone : Set.InvOn camelCase snakeCase pascalNames snakeNames := by
  constructor
  · intro name pascal
    obtain ⟨words, areWords, spelled⟩ := (pascal_iff_words name).mp pascal
    apply String.toList_inj.mp
    rw [camel_case_words areWords (snake_case_words areWords spelled), spelled]
  · rintro name ⟨words, areWords, spelled⟩
    apply String.toList_inj.mp
    rw [snake_case_words areWords (camel_case_words areWords spelled), spelled]

theorem spellings_inverse :
    Set.BijOn snakeCase pascalNames snakeNames ∧ Set.BijOn camelCase snakeNames pascalNames ∧
      Set.InvOn camelCase snakeCase pascalNames snakeNames ∧
      (∀ stem, Set.InjOn (Imports.nameOf stem) pascalNames) ∧
      ∀ a ∈ snakeNames, ∀ b ∈ snakeNames, ∀ literals others,
        (EnumType.ofLiterals a literals).name = (EnumType.ofLiterals b others).name → a = b := by
  have snake := cases_undone.bijOn snake_case_maps camel_case_maps
  have camel := cases_undone.symm.bijOn camel_case_maps snake_case_maps
  refine ⟨snake, camel, cases_undone, fun stem a aPascal b bPascal same => ?_,
    fun a aSnake b bSnake _ _ same => camel.injOn aSnake bSnake same⟩
  exact snake.injOn aPascal bPascal (String.append_right_inj stem |>.mp same)

-- A run of capitals gives words of one letter, and a letter outside ASCII belongs to its word.
theorem http_spelled_back :
    "HTTPÄrger" ∈ pascalNames ∧ snakeCase "HTTPÄrger" = "h_t_t_pÄrger" ∧
      "h_t_t_pÄrger" ∈ snakeNames ∧ camelCase "h_t_t_pÄrger" = "HTTPÄrger" := by
  obtain ⟨snake, _, undone, _, _⟩ := spellings_inverse
  have pascal : "HTTPÄrger" ∈ pascalNames := ⟨'H', "TTPÄrger".toList, rfl, rfl, by decide⟩
  have spelled : snakeCase "HTTPÄrger" = "h_t_t_pÄrger" := by decide
  have own := snake.mapsTo pascal
  have back := undone.1 pascal
  rw [spelled] at own back
  exact ⟨pascal, spelled, own, back⟩

end Name

end ProtoSchema
