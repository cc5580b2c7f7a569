import ProjectScribe.Pattern.Category

/-!
# Patterns and what they match

A pattern describes stretches of a text. `ends` computes, for a set of places where a stretch may
begin, the set of places where one may end; places are numbered from zero before the first
character, and a set of places is a number whose binary digits say which places belong to it. A
text fits a pattern when a stretch that begins anywhere ends somewhere.
-/
namespace ProjectScribe.Pattern

/-- Conditions on a place that consume nothing. -/
inductive Look where
  | textStart
  | textEnd
  /-- After a line feed, or at the start of the text. -/
  | lineStart
  /-- Before a line feed, or at the end of the text. -/
  | lineEnd
  /-- As `lineStart`, for lines that end with a carriage return, a line feed, or both. -/
  | lineStartEither
  | lineEndEither
  /-- Where exactly one neighbour is a word character. -/
  | wordEdge
  | noWordEdge
  | wordStart
  | wordEnd
  /-- Where no word character precedes. -/
  | afterNoWord
  /-- Where no word character follows. -/
  | beforeNoWord
deriving DecidableEq, Repr

end ProjectScribe.Pattern

namespace ProjectScribe

open Pattern in
/-- Patterns. -/
inductive Pattern where
  /-- The empty stretch. -/
  | empty
  /-- One character of a set. -/
  | chars (set : CharSet)
  /-- The empty stretch, where a condition holds; word characters are those of `word`. -/
  | look (condition : Look) (word : CharSet)
  | both (first second : Pattern)
  | either (left right : Pattern)
  /-- Stretches of one pattern in a row, at least `least` and at most `most` of them. -/
  | repeated (body : Pattern) (least : Nat) (most : Option Nat)
deriving Repr

namespace Pattern

/-- Patterns in a row. -/
def sequence : List Pattern → Pattern
  | [] => .empty
  | [last] => last
  | first :: rest => .both first (sequence rest)

/-- One of several patterns. -/
def anyOf : List Pattern → Pattern
  | [] => .empty
  | [last] => last
  | first :: rest => .either first (anyOf rest)

/-- A set of places, by binary digits. -/
abbrev Places := Nat

/-- The places before those characters of the text that satisfy a test. -/
def placesBefore (test : Char → Bool) (text : List Char) : Places :=
  text.foldr (fun c places => 2 * places + if test c then 1 else 0) 0

/-- Whether a condition holds between two neighbours; at the ends of the text one is missing. -/
def Look.holds (word : CharSet) (before after : Option Char) : Look → Bool
  | .textStart => before.isNone
  | .textEnd => after.isNone
  | .lineStart => before.isNone || before == some '\n'
  | .lineEnd => after.isNone || after == some '\n'
  | .lineStartEither =>
    before.isNone || before == some '\n' || (before == some '\r' && after != some '\n')
  | .lineEndEither =>
    after.isNone || after == some '\r' || (after == some '\n' && before != some '\r')
  | .wordEdge => isWord before != isWord after
  | .noWordEdge => isWord before == isWord after
  | .wordStart => !isWord before && isWord after
  | .wordEnd => isWord before && !isWord after
  | .afterNoWord => !isWord before
  | .beforeNoWord => !isWord after
where
  /-- Whether a neighbour is a word character. -/
  isWord : Option Char → Bool
    | none => false
    | some c => word.contains c.toNat

/-- The places of a text where a condition holds, from the place after `before` on. -/
def Look.places (condition : Look) (word : CharSet) (before : Option Char) :
    List Char → Places
  | [] => if condition.holds word before none then 1 else 0
  | c :: rest =>
    2 * condition.places word (some c) rest +
      if condition.holds word before (some c) then 1 else 0

/-- A step applied a number of times. What it leaves as it is would stay so, and is the result. -/
def iterate {α : Type} [DecidableEq α] (step : α → α) : Nat → α → α
  | 0, a => a
  | n + 1, a => if step a = a then a else iterate step n (step a)

theorem iterate_of_fixed {α : Type} [DecidableEq α] {step : α → α} {a : α}
    (fixed : step a = a) (n : Nat) : iterate step n a = a := by
  cases n <;> simp [iterate, fixed]

/-- The first of several steps is a step like the others. -/
theorem iterate_succ {α : Type} [DecidableEq α] (step : α → α) (n : Nat) (a : α) :
    iterate step (n + 1) a = iterate step n (step a) := by
  by_cases fixed : step a = a
  · rw [fixed, iterate_of_fixed fixed, iterate_of_fixed fixed]
  · simp [iterate, fixed]

/-- Where stretches that a pattern describes may end, given where they may begin. -/
def ends (text : List Char) : Pattern → Places → Places
  | .empty, starts => starts
  | .chars set, starts =>
    (starts &&& placesBefore (fun c => set.contains c.toNat) text) <<< 1
  | .look condition word, starts => starts &&& condition.places word none text
  | .both first second, starts => second.ends text (first.ends text starts)
  | .either left right, starts => left.ends text starts ||| right.ends text starts
  | .repeated body least most, starts =>
    let further := match most with
      | some most => most - least
      | none => text.length + 1
    iterate (fun places => places ||| body.ends text places) further
      (iterate (body.ends text) least starts)

/-- Whether a stretch of the text, wherever it begins, is described by the pattern. -/
def occursIn (pattern : Pattern) (text : List Char) : Bool :=
  pattern.ends text ((1 <<< (text.length + 1)) - 1) != 0

end Pattern

end ProjectScribe
