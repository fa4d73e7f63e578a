import ThemeSwitch.Pattern.Beginning
import ThemeSwitch.Pattern.Tally

/-! # Sizes of patterns

There are two machines for a pattern: one reads forwards and keeps the groups, the other one reads
backwards. Counted repetitions are written out. -/
namespace ThemeSwitch.Pattern
open Unicode

inductive Direction
  | forwards
  | backwards
deriving DecidableEq

namespace Tally

/-- With states that read one character of a set, unless the machine is too large already. -/
def addSet (t : Tally) (direction : Direction) (set : CharSet) : Tally :=
  if !t.fits then t
  else if set.diff .ascii = .none then (t.add 1).addSpans set.spans.length
  else
    match direction with
    | .forwards => t.addForwardRows set.byteRows
    | .backwards => t.addBackwardRows set.byteRows

/-- With a repetition, whose body may take no characters or always takes some. -/
def addRepetition (t : Tally) (body : Tally → Tally) (takes : Bool) (least : Nat)
    (most : Option Nat) : Tally :=
  let fork (t : Tally) : Tally := (t.add 1).addWays 2
  match least, most with
  | 0, none => if takes then body (fork t) else (fork (fork (body t))).add 1
  | least, none => fork (iterate body least t)
  | 0, some 1 => (body (fork t)).add 1
  | least, some most =>
    if most = least then iterate body least t
    else
      let first := if least = 0 then t.add 1 else iterate body least t
      iterate (fun t => body (fork t)) (most - least) (first.add 1)

/-- With the state that tries the branches of a choice and the one in which they end, after the
second branch; `before` counts the branches before this one. -/
def closeBranch (t : Tally) (before : Nat) : Tally := if before = 1 then t.add 2 else t

/-- With the states of a pattern that is a branch of a choice, or of the rest of a choice, where
`before` counts the branches before it; none for a pattern that stands alone. -/
def addPattern (direction : Direction) (before : Nat) (p : Pattern) (t : Tally) : Tally :=
  match p with
  | empty | look _ => (t.add 1).closeBranch before
  | literal text => (t.add (text.flatMap utf8).length).closeBranch before
  | oneOf set _ => (t.addSet direction set).closeBranch before
  | both p q =>
    (match direction with
      | .forwards => addPattern direction 0 q (addPattern direction 0 p t)
      | .backwards => addPattern direction 0 p (addPattern direction 0 q t)).closeBranch before
  | either p q =>
    match if before = 0 then (either p q).literals? else none with
    | some texts =>
      let words := texts.map (·.flatMap utf8)
      let words := if direction = .backwards then words.map List.reverse else words
      addWords (words.flatten.length + 1) words (t.add 1)
    | none =>
      let t := ((addPattern direction 0 p t).closeBranch before).addWays 1
      let t := match q with
        | either _ _ => t
        | _ => t.addWays 1
      addPattern direction (before + 1) q t
  | many p least most _ =>
    (t.addRepetition (addPattern direction 0 p) (p.minLength.any (0 < ·)) least most).closeBranch
      before
  | group _ p =>
    (match direction with
      | .forwards => (addPattern direction 0 p (t.add 1)).add 1
      | .backwards => addPattern direction 0 p t).closeBranch before

end Tally

/-- The pattern is found only where the condition holds at its beginning. -/
def beginsWith (condition : Look) : Pattern → Bool
  | look other => other = condition
  | both p q => beginsWith condition p || (p.isStill && beginsWith condition q)
  | either p q => beginsWith condition p && beginsWith condition q
  | many p least _ _ => 0 < least && beginsWith condition p
  | group _ p => beginsWith condition p
  | _ => false

/-- The pattern is found only where the condition holds at its end. -/
def endsWith (condition : Look) : Pattern → Bool
  | look other => other = condition
  | both p q => endsWith condition q || (q.isStill && endsWith condition p)
  | either p q => endsWith condition p && endsWith condition q
  | many p least _ _ => 0 < least && endsWith condition p
  | group _ p => endsWith condition p
  | _ => false

/-- The machine that finds the pattern. Where it can begin anywhere, it first reads any bytes; at
the end it has a state for success, and forwards the whole is a group. -/
def machine (direction : Direction) (p : Pattern) : Tally :=
  let anchored := match direction with
    | .forwards => p.beginsWith .textStart
    | .backwards => p.endsWith .textEnd
  let nothing : Tally := {}
  let start := if anchored then nothing.add 1 else ((nothing.add 2).addWays 2).addSpans 1
  match direction with
  | .forwards => (Tally.addPattern direction 0 p (start.add 1)).add 2
  | .backwards => (Tally.addPattern direction 0 p start).add 1

/-- Both machines are small enough, or none are needed. -/
def fits (p : Pattern) : Bool :=
  ((p.machine .forwards).fits && (p.machine .backwards).fits) || p.isWords

end ThemeSwitch.Pattern
