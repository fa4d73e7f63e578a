import ThemeSwitch.Pattern.Look

/-! # Patterns

A pattern describes the stretches of a text in which it is found. Patterns are built in a normal
form: sequences and choices lean to the right, with no empty pattern in a sequence and neighbouring
characters as one literal. The size of a pattern is the size of its normal form. -/
namespace ThemeSwitch
open Unicode

inductive Pattern
  | empty
  /-- These characters one after the other; there are some. -/
  | literal (text : List Char)
  /-- One character of the set, or one byte of it, where the flag for Unicode was off. -/
  | oneOf (set : CharSet) (unicode : Bool)
  | look (condition : Pattern.Look)
  | both (first second : Pattern)
  | either (left right : Pattern)
  /-- At least `least` times, and at most `most` times, if that is given; as often as possible, if
  it is `greedy`, or else as few times as possible. -/
  | many (body : Pattern) (least : Nat) (most : Option Nat) (greedy : Bool)
  /-- A group, with its place among the groups of the whole. -/
  | group (number : Nat) (body : Pattern)
deriving DecidableEq

namespace Pattern

/-- The least number of characters of what is found; none where a set that cannot be left out is
empty. -/
def minLength : Pattern → Option Nat
  | empty | look _ => some 0
  | literal text => some text.length
  | oneOf set _ => if set = .none then none else some 1
  | both p q => do return (← p.minLength) + (← q.minLength)
  | either p q => do return min (← p.minLength) (← q.minLength)
  | many p least _ _ => p.minLength.map (· * least)
  | group _ p => p.minLength

/-- The pattern takes no characters. -/
def isStill : Pattern → Bool
  | empty | look _ => true
  | literal _ | oneOf _ _ => false
  | both p q => p.isStill && q.isStill
  | either p q => p.isStill && q.isStill
  | many p _ _ _ => p.isStill
  | group _ p => p.isStill

/-- The pattern of a set of characters. -/
def ofSet (set : CharSet) (unicode : Bool) : Pattern :=
  match set.only? with
  | some c => literal [c]
  | none => oneOf set (unicode && set ≠ .none)

/-- One pattern after the other. -/
def andThen : Pattern → Pattern → Pattern
  | empty, q => q
  | p, empty => p
  | both p₁ p₂, q => andThen p₁ (andThen p₂ q)
  | literal s, literal t => literal (s ++ t)
  | literal s, both (literal t) q => both (literal (s ++ t)) q
  | p, q => both p q

/-- The parts of a sequence. -/
def parts : Pattern → List Pattern
  | both p q => p :: parts q
  | p => [p]

def sequence (ps : List Pattern) : Pattern := ps.foldr andThen empty

/-- The branches of a choice. -/
def branches : Pattern → List Pattern
  | either p q => p :: branches q
  | p => [p]

/-- The choice between branches: one set of characters if each branch is one character, or if each
is a set. -/
def choice (ps : List Pattern) : Pattern :=
  let flat := ps.flatMap branches
  let char? : Pattern → Option CharSet
    | literal [c] => some (CharSet.single c)
    | _ => none
  let set? : Pattern → Option CharSet
    | oneOf set _ => some set
    | _ => none
  match (flat.mapM char?).or (flat.mapM set?) with
  | some sets => ofSet (CharSet.unions sets) true
  | none => flat.dropLast.foldr either (flat.getLast?.getD empty)

/-- The beginning that two lists have in common. -/
def commonPrefix {α : Type} [DecidableEq α] : List α → List α → List α
  | a :: as, b :: bs => if a = b then a :: commonPrefix as bs else []
  | _, _ => []

/-- The parts with which all branches begin, where these are sequences. -/
def sharedStart : List Pattern → List Pattern
  | [] => []
  | [both p q] => parts (both p q)
  | both p q :: ps => commonPrefix (parts (both p q)) (sharedStart ps)
  | _ => []

/-- The choice between patterns, after the beginning that all of them share. -/
def anyOf (ps : List Pattern) : Pattern :=
  let flat := ps.flatMap branches
  match sharedStart flat with
  | [] => choice flat
  | start => sequence (start ++ [choice (flat.map fun p => sequence (p.parts.drop start.length))])

/-- The pattern at least `least` and at most `most` times. If it takes no characters, once is as
good as more often. -/
def repeated (p : Pattern) (least : Nat) (most : Option Nat) (greedy : Bool) : Pattern :=
  let (least, most) :=
    if p.isStill then (min least 1, some (min (most.getD 1) 1)) else (least, most)
  if most = some 0 then empty
  else if least = 1 ∧ most = some 1 then p
  else many p least most greedy

end Pattern
end ThemeSwitch
