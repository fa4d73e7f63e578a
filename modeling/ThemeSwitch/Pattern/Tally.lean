import Std.Data.HashMap
import ThemeSwitch.Unicode.Utf8

/-! # Tallies of machines

A pattern can be turned into machines that read bytes, and only patterns whose machines are small
enough are used. A tally counts the states of a machine that is being built, in the order in which
they are numbered, and the bytes that they take beyond 32 each: 4 bytes for each way of a state that
tries several ways, and 8 for each span of a state that reads one of several bytes. -/
namespace ThemeSwitch.Pattern
open Unicode

structure Tally where
  states : Nat := 0
  extra : Nat := 0
deriving DecidableEq

/-- The greatest size of a machine: ten mebibytes. -/
def maxSize : Nat := 10 * 1024 * 1024

namespace Tally

def bytes (t : Tally) : Nat := 32 * t.states + t.extra

def fits (t : Tally) : Bool := t.bytes ≤ maxSize

/-- With more states. -/
def add (t : Tally) (n : Nat) : Tally := { t with states := t.states + n }

/-- With more ways of states that try several. -/
def addWays (t : Tally) (n : Nat) : Tally := { t with extra := t.extra + 4 * n }

/-- With a state that reads a byte out of `n` spans. -/
def addSpans (t : Tally) (n : Nat) : Tally := ⟨t.states + 1, t.extra + 8 * n⟩

/-- With something built `n` times, or as long as the machine is not too large. -/
def iterate (build : Tally → Tally) : Nat → Tally → Tally
  | 0, t => t
  | n + 1, t => if t.fits then iterate build n (build t) else t

/-- The spans with which rows begin, and the rest of the rows for each of them; rows with the same
beginning are neighbours. -/
def splitRows : List (List ByteSpan) → List (ByteSpan × List (List ByteSpan))
  | (span :: row) :: rows =>
    match splitRows rows with
    | (other, rest) :: groups =>
      if span = other then (other, row :: rest) :: groups
      else (span, [row]) :: (other, rest) :: groups
    | [] => [(span, [row])]
  | _ => []

/-- The slot of what is described by some numbers, out of `n` slots. -/
def slotOf (n : Nat) (numbers : List Nat) : Nat :=
  (numbers.foldl (fun hash k => (hash ^^^ k.toUInt64) * 1099511628211)
    (14695981039346656037 : UInt64)).toNat % n

/-- States that were built before, by what they do. There are so many slots only, and each of them
holds the last state that was put there. -/
structure Memory (α : Type) where
  slots : Std.HashMap Nat (α × Nat) := ∅

namespace Memory
variable {α : Type} [DecidableEq α]

def find? (memory : Memory α) (slot : Nat) (a : α) : Option Nat :=
  match memory.slots[slot]? with
  | some (b, state) => if a = b then some state else none
  | none => none

def insert (memory : Memory α) (slot : Nat) (a : α) (state : Nat) : Memory α :=
  ⟨memory.slots.insert slot (a, state)⟩

end Memory

/-- The ways of a state that reads one of several bytes: its spans, and where they lead. -/
abbrev Ways := List (ByteSpan × Nat)

def slotOfWays (ways : Ways) : Nat :=
  slotOf 10000 (ways.flatMap fun ((first, last), next) => [first, last, next])

/-- With states that read rows of up to `n` bytes forwards into the state `target`, and the first of
these states. A state comes after those to which it leads. -/
def addForwardStates (target : Nat) :
    Nat → List (List ByteSpan) → Tally × Memory Ways → Nat × Tally × Memory Ways
  | 0, _, built => (target, built)
  | n + 1, rows, built =>
    match splitRows rows with
    | [] => (target, built)
    | groups =>
      let (ways, t, memory) := groups.foldl
        (fun (ways, built) (span, rest) =>
          let (next, built) := addForwardStates target n rest built
          ((span, next) :: ways, built))
        (([] : Ways), built)
      let ways := ways.reverse
      let slot := slotOfWays ways
      match memory.find? slot ways with
      | some state => (state, t, memory)
      | none => (t.states, t.addSpans ways.length, memory.insert slot ways t.states)

/-- With a state in which rows end, and the states that read them forwards. -/
def addForwardRows (t : Tally) (rows : List (List ByteSpan)) : Tally :=
  (addForwardStates t.states 4 rows (t.add 1, {})).2.1

/-- With states that read a row backwards into the state `target`, and what is remembered then. -/
def addBackwardRow (target : Nat) :
    List ByteSpan → Tally × Memory (Nat × ByteSpan) → Tally × Memory (Nat × ByteSpan)
  | [], built => built
  | span :: row, (t, memory) =>
    let slot := slotOf 1000 [target, span.1, span.2]
    match memory.find? slot (target, span) with
    | some state => addBackwardRow state row (t, memory)
    | none =>
      addBackwardRow t.states row (t.add 1, memory.insert slot (target, span) t.states)

/-- With a state that tries all rows, one in which they end, and the states that read them
backwards. -/
def addBackwardRows (t : Tally) (rows : List (List ByteSpan)) : Tally :=
  let target := t.states + 1
  (rows.foldl (fun built row => addBackwardRow target row built)
    ((t.add 2).addWays rows.length, {})).1

/-- With states that read one of several words. Equal beginnings of words share their states. A word
may end where others go on; such ends cut the words in groups that share nothing. -/
def addWords : Nat → List (List Nat) → Tally → Tally
  | 0, _, t => t
  | n + 1, words, t =>
    if words.all List.isEmpty then t
    else
      let rest := words.dropWhile List.isEmpty
      let chunks := (if rest.length < words.length then [] :: rest else rest).splitOnP List.isEmpty
      let groups := (chunks.filter (!·.isEmpty)).map fun chunk =>
        (chunk.filterMap List.head?).eraseDups.map fun b =>
          chunk.filterMap fun word => if word.head? = some b then some word.tail else none
      groups.foldl
        (fun t group =>
          let t := if group.length = 1 then t.add 1 else t.addSpans group.length
          group.foldl (fun t tails => addWords n tails t) t)
        ((t.add 1).addWays (groups.length + (chunks.length - 1)))

end Tally
end ThemeSwitch.Pattern
