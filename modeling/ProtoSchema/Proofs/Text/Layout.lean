import Mathlib.Data.List.Chain
import ProtoSchema.Proofs.Text.Cut

set_option autoImplicit false

namespace ProtoSchema.Text

def lines (text : String) : List (List Char) := (pieces '\n' text.toList).dropLast

def opens (line : List Char) : Bool := line.getLast? == some '\x7b'

def closes (line : List Char) : Bool := line.dropWhile (· == '\t') == ['\x7d']

def indent (line : List Char) : Nat := (line.takeWhile (· == '\t')).length

def depth (lines : List (List Char)) : Int := lines.countP opens - lines.countP closes

-- A blank line stands neither below another one nor below what opens a block, and what closes a
-- block does not stand below a blank line.
def MayFollow (line next : List Char) : Prop :=
  (next = [] → line ≠ [] ∧ opens line = false) ∧ (line = [] → closes next = false)

structure LaidOut (text : String) : Prop where
  ended : ∃ front last, text.toList = front ++ [last, '\n'] ∧ last ≠ '\n'
  enclosed : ∀ before after, lines text = before ++ after → 0 ≤ depth before
  closed : depth (lines text) = 0
  -- What closes a block stands outside of it.
  indented : ∀ before line after, lines text = before ++ line :: after → line ≠ [] →
    depth before - (if closes line then 1 else 0) ≤ indent line
  spaced : (lines text).IsChain MayFollow

inductive Run : Nat → List (List Char) → Nat → Prop
  | nil (d : Nat) : Run d [] d
  | flat {d e : Nat} {line : List Char} {rest : List (List Char)} (notOpens : opens line = false)
      (notCloses : closes line = false) (indented : line ≠ [] → d ≤ indent line)
      (later : Run d rest e) : Run d (line :: rest) e
  | opening {d e : Nat} {line : List Char} {rest : List (List Char)} (opened : opens line = true)
      (notCloses : closes line = false) (indented : d ≤ indent line)
      (later : Run (d + 1) rest e) : Run d (line :: rest) e
  | closing {d e : Nat} {line : List Char} {rest : List (List Char)} (notOpens : opens line = false)
      (closed : closes line = true) (indented : d ≤ indent line) (later : Run d rest e) :
      Run (d + 1) (line :: rest) e

namespace Run

variable {d e f : Nat} {a b : List (List Char)}

theorem append (first : Run d a e) (second : Run e b f) : Run d (a ++ b) f := by
  induction first with
  | nil d => exact second
  | flat notOpens notCloses indented _ ih => exact .flat notOpens notCloses indented (ih second)
  | opening opened notCloses indented _ ih => exact .opening opened notCloses indented (ih second)
  | closing notOpens closed indented _ ih => exact .closing notOpens closed indented (ih second)

theorem split (run : Run d (a ++ b) f) : ∃ e, Run d a e ∧ Run e b f := by
  induction a generalizing d with
  | nil => exact ⟨d, .nil d, run⟩
  | cons line a ih =>
      cases run with
      | flat notOpens notCloses indented later =>
          obtain ⟨e, first, second⟩ := ih later
          exact ⟨e, .flat notOpens notCloses indented first, second⟩
      | opening opened notCloses indented later =>
          obtain ⟨e, first, second⟩ := ih later
          exact ⟨e, .opening opened notCloses indented first, second⟩
      | closing notOpens closed indented later =>
          obtain ⟨e, first, second⟩ := ih later
          exact ⟨e, .closing notOpens closed indented first, second⟩

theorem depth_eq (run : Run d a e) : (e : Int) = d + depth a := by
  induction run with
  | nil d => simp [depth]
  | flat notOpens notCloses _ _ ih => simpa [depth, notOpens, notCloses] using ih
  | opening opened notCloses _ _ ih =>
      simp only [depth, List.countP_cons, opened, notCloses, if_true, Bool.false_eq_true,
        if_false] at ih ⊢
      omega
  | closing notOpens closed _ _ ih =>
      simp only [depth, List.countP_cons, notOpens, closed, if_true, Bool.false_eq_true,
        if_false] at ih ⊢
      omega

theorem first_indented {line : List Char} (run : Run d (line :: a) e) (filled : line ≠ []) :
    (d : Int) - (if closes line then 1 else 0) ≤ indent line := by
  cases run with
  | flat _ notCloses indented _ =>
      have deep := indented filled
      simp only [notCloses, Bool.false_eq_true, if_false]
      omega
  | opening _ notCloses indented _ =>
      simp only [notCloses, Bool.false_eq_true, if_false]
      omega
  | closing _ closed indented _ =>
      simp only [closed, if_true]
      omega

end Run

-- Lines that can be put between braces, or between blank lines if there are any.
structure Tidy (d : Nat) (lines : List (List Char)) : Prop where
  run : Run d lines d
  spaced : lines.IsChain MayFollow
  first : ∀ line ∈ lines.head?, line ≠ [] ∧ closes line = false
  last : ∀ line ∈ lines.getLast?, line ≠ [] ∧ opens line = false

structure Flat (d : Nat) (line : List Char) : Prop where
  filled : line ≠ []
  notOpens : opens line = false
  notCloses : closes line = false
  indented : d ≤ indent line

theorem may_follow_filled {line next : List Char} (lineFilled : line ≠ []) (nextFilled : next ≠ []) :
    MayFollow line next :=
  ⟨fun blank => absurd blank nextFilled, fun blank => absurd blank lineFilled⟩

namespace Tidy

variable {d : Nat}

theorem nil (d : Nat) : Tidy d [] := ⟨.nil d, .nil, nofun, nofun⟩

theorem of_flat {lines : List (List Char)} (flat : ∀ line ∈ lines, Flat d line) : Tidy d lines where
  run := by
    induction lines with
    | nil => exact .nil d
    | cons line rest ih =>
        have own := flat line List.mem_cons_self
        have later := ih fun other member => flat other (List.mem_cons_of_mem line member)
        exact .flat own.notOpens own.notCloses (fun _ => own.indented) later
  spaced := by
    have all := List.pairwise_of_forall_mem_list fun line member next nextMember =>
      may_follow_filled (flat line member).filled (flat next nextMember).filled
    exact all.isChain
  first := fun line head => by
    have own := flat line (List.mem_of_mem_head? head)
    exact ⟨own.filled, own.notCloses⟩
  last := fun line final => by
    have own := flat line (List.mem_of_mem_getLast? final)
    exact ⟨own.filled, own.notOpens⟩

theorem separated {a b : List (List Char)} (aTidy : Tidy d a) (bTidy : Tidy d b) (aSome : a ≠ [])
    (bSome : b ≠ []) : Tidy d (a ++ [] :: b) where
  run := aTidy.run.append (.flat rfl rfl (fun filled => absurd rfl filled) bTidy.run)
  spaced := by
    have below : ([] :: b).IsChain MayFollow := bTidy.spaced.cons fun next head => by
      have following := bTidy.first next head
      exact ⟨fun blank => absurd blank following.1, fun _ => following.2⟩
    refine aTidy.spaced.append below fun line final next head => ?_
    obtain rfl : [] = next := by simpa using head
    exact ⟨fun _ => aTidy.last line final, fun _ => rfl⟩
  first := by
    cases a with
    | nil => exact absurd rfl aSome
    | cons line rest => simpa using aTidy.first line rfl
  last := fun line final => by
    refine bTidy.last line ?_
    cases b with
    | nil => exact absurd rfl bSome
    | cons next rest => simpa [List.getLast?_append] using final

theorem enclosed {header closer : List Char} {body : List (List Char)} (tidy : Tidy (d + 1) body)
    (opened : opens header = true) (headerNot : closes header = false) (headerDeep : d ≤ indent header)
    (closed : closes closer = true) (closerNot : opens closer = false) (closerDeep : d ≤ indent closer) :
    Tidy d (header :: (body ++ [closer])) := by
  have headerFilled : header ≠ [] := by
    rintro rfl
    cases opened
  have closerFilled : closer ≠ [] := by
    rintro rfl
    cases closed
  have closing : Run (d + 1) [closer] d := .closing closerNot closed closerDeep (.nil d)
  have below : (body ++ [closer]).IsChain MayFollow := by
    refine tidy.spaced.append (.singleton closer) fun line final next head => ?_
    obtain rfl : closer = next := by simpa using head
    exact may_follow_filled (tidy.last line final).1 closerFilled
  exact {
    run := .opening opened headerNot headerDeep (tidy.run.append closing)
    spaced := below.cons fun next head => by
      refine may_follow_filled headerFilled ?_
      cases body with
      | nil =>
          obtain rfl : closer = next := by simpa using head
          exact closerFilled
      | cons line rest =>
          obtain rfl : line = next := by simpa using head
          exact (tidy.first line rfl).1
    first := fun line head => by
      obtain rfl : header = line := by simpa using head
      exact ⟨headerFilled, headerNot⟩
    last := fun line final => by
      obtain rfl : closer = line := by
        simpa [List.getLast?_cons, List.getLast?_append] using final
      exact ⟨closerFilled, closerNot⟩ }

end Tidy

theorem pieces_ended {written : List (List Char)} (whole : ∀ line ∈ written, '\n' ∉ line) :
    pieces '\n' (written.flatMap (· ++ ['\n'])) = written ++ [[]] := by
  rw [pieces_eq_split_on]
  induction written with
  | nil => rfl
  | cons line rest ih =>
      have first := whole line List.mem_cons_self
      have later := ih fun other member => whole other (List.mem_cons_of_mem line member)
      have cut : ∀ c ∈ line, (c == '\n') = false := fun c member =>
        beq_false_of_ne (ne_of_mem_of_not_mem member first)
      rw [List.flatMap_cons, List.append_assoc, List.singleton_append,
        List.splitOn_append_cons_of_forall_mem_beq_eq_false cut _ rfl, later, List.cons_append]

theorem laid_out_of_tidy {text : String} {written : List (List Char)}
    (chars : text.toList = written.flatMap (· ++ ['\n'])) (whole : ∀ line ∈ written, '\n' ∉ line)
    (filled : written ≠ []) (tidy : Tidy 0 written) : LaidOut text := by
  have cut : lines text = written := by
    rw [lines, chars, pieces_ended whole, List.dropLast_concat]
  refine ⟨?_, ?_, ?_, ?_, cut ▸ tidy.spaced⟩
  · obtain ⟨front, final, rfl⟩ := (List.eq_nil_or_concat' written).resolve_left filled
    have finalFilled := (tidy.last final (by simp)).1
    obtain ⟨start, c, rfl⟩ := (List.eq_nil_or_concat' final).resolve_left finalFilled
    refine ⟨front.flatMap (· ++ ['\n']) ++ start, c, by simp [chars], ?_⟩
    rintro rfl
    exact whole (start ++ ['\n']) (by simp) (by simp)
  · intro before after parts
    rw [cut] at parts
    obtain ⟨e, first, _⟩ := (parts ▸ tidy.run).split
    have reached := first.depth_eq
    omega
  · have reached := tidy.run.depth_eq
    rw [cut]
    omega
  · intro before line after parts some
    rw [cut] at parts
    obtain ⟨e, first, rest⟩ := (parts ▸ tidy.run).split
    have reached := first.depth_eq
    have deep := rest.first_indented some
    omega

end ProtoSchema.Text
