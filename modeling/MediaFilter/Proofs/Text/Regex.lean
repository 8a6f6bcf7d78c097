import MediaFilter.Text.Digit
import MediaFilter.Text.Numeral

/-!
Regular expressions, as far as masks are written in them: how they are spelled, and which parts of
a text they span.  What a piece spans may depend on what stands before and after it, since two of
the pieces stand for the ends of the text and nothing else.
-/

namespace MediaFilter.Text

/-- A group holds alternatives, each of them a sequence of pieces. -/
inductive Piece where
  | start
  | stop
  | char (c : Char)
  | digit
  | oneOf (runs : List (Char × Char))
  | times (count : Nat) (piece : Piece)
  | group (alternatives : List (List Piece))

/-! The spelling.  A character that could be taken for another piece has a backslash in front. -/

def isSpecial (c : Char) : Bool :=
  ['\\', '.', '+', '*', '?', '(', ')', '|', '[', ']', '{', '}', '^', '$'].contains c

def spellRun (run : Char × Char) : List Char :=
  if run.1 = run.2 then [run.1] else [run.1, '-', run.2]

mutual

def Piece.spelling : Piece → List Char
  | .start => ['^']
  | .stop => ['$']
  | .char c => if isSpecial c then ['\\', c] else [c]
  | .digit => ['\\', 'd']
  | .oneOf runs => '[' :: runs.flatMap spellRun ++ [']']
  | .times count piece => piece.spelling ++ '{' :: natDigits count ++ ['}']
  | .group [] => ['(', ')']
  | .group (first :: others) => '(' :: spellAll first ++ spellOthers others

def spellAll : List Piece → List Char
  | [] => []
  | piece :: pieces => piece.spelling ++ spellAll pieces

def spellOthers : List (List Piece) → List Char
  | [] => [')']
  | next :: others => '|' :: spellAll next ++ spellOthers others

end

/-- A property of a part of a text, given with what stands before and after it. -/
abbrev Span := (before middle after : List Char) → Prop

namespace Span

def nothing : Span := fun _ middle _ => middle = []

def single (test : Char → Prop) : Span := fun _ middle _ => ∃ c, test c ∧ middle = [c]

def followed (first second : Span) : Span := fun before middle after =>
  ∃ head tail, middle = head ++ tail ∧ first before head (tail ++ after) ∧
    second (before ++ head) tail after

def repeated (span : Span) : Nat → Span
  | 0 => nothing
  | count + 1 => followed span (repeated span count)

@[simp] theorem followed_nothing (first : Span) : followed first nothing = first := by
  funext before middle after
  simp [followed, nothing]

theorem followed_single {test : Char → Prop} {second : Span} {before middle after : List Char} :
    followed (single test) second before middle after ↔
      ∃ c rest, middle = c :: rest ∧ test c ∧ second (before ++ [c]) rest after := by
  constructor
  · rintro ⟨_, rest, rfl, ⟨c, passes, rfl⟩, follows⟩
    exact ⟨c, rest, rfl, passes, follows⟩
  · rintro ⟨c, rest, rfl, passes, follows⟩
    exact ⟨[c], rest, rfl, ⟨c, passes, rfl⟩, follows⟩

theorem followed_single_single {first second : Char → Prop} {before middle after : List Char} :
    followed (single first) (single second) before middle after ↔
      ∃ a b, middle = [a, b] ∧ first a ∧ second b := by
  rw [followed_single]
  constructor
  · rintro ⟨a, _, rfl, passes, b, follows, rfl⟩
    exact ⟨a, b, rfl, passes, follows⟩
  · rintro ⟨a, b, rfl, passes, follows⟩
    exact ⟨a, [b], rfl, passes, b, follows, rfl⟩

theorem repeated_single {test : Char → Prop} {count : Nat} {before middle after : List Char} :
    repeated (single test) count before middle after ↔
      middle.length = count ∧ ∀ c ∈ middle, test c := by
  induction count generalizing before middle with
  | zero =>
      simp only [repeated, nothing, List.length_eq_zero_iff]
      exact ⟨fun empty => ⟨empty, by simp [empty]⟩, And.left⟩
  | succ count induction =>
      cases middle with
      | nil => simp [repeated, followed_single]
      | cons c rest =>
          have step : repeated (single test) (count + 1) before (c :: rest) after ↔
              test c ∧ rest.length = count ∧ ∀ other ∈ rest, test other := by
            simp [repeated, followed_single, induction, and_assoc]
          rw [step]
          simp [and_left_comm]

end Span

mutual

def Piece.Spans : Piece → Span
  | .start => fun before middle _ => before = [] ∧ middle = []
  | .stop => fun _ middle after => middle = [] ∧ after = []
  | .char c => Span.single fun other => other = c
  | .digit => Span.single fun c => isDecimalDigit c = true
  | .oneOf runs => Span.single fun c => ∃ run ∈ runs, run.1 ≤ c ∧ c ≤ run.2
  | .times count piece => Span.repeated piece.Spans count
  | .group alternatives => spansAny alternatives

def spansAll : List Piece → Span
  | [] => Span.nothing
  | piece :: pieces => Span.followed piece.Spans (spansAll pieces)

def spansAny : List (List Piece) → Span
  | [] => fun _ _ _ => False
  | pieces :: others => fun before middle after =>
    spansAll pieces before middle after ∨ spansAny others before middle after

end

theorem followed_start {second : Span} {before middle after : List Char} :
    Span.followed Piece.start.Spans second before middle after ↔
      before = [] ∧ second [] middle after := by
  constructor
  · rintro ⟨_, rest, rfl, ⟨rfl, rfl⟩, follows⟩
    exact ⟨rfl, follows⟩
  · rintro ⟨rfl, follows⟩
    exact ⟨[], middle, rfl, ⟨rfl, rfl⟩, follows⟩

def Found (pieces : List Piece) (text : List Char) : Prop :=
  ∃ before middle after, text = before ++ middle ++ after ∧ spansAll pieces before middle after

end MediaFilter.Text
