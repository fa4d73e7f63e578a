import ThemeSwitch.Pattern.Basic
import ThemeSwitch.Unicode.Utf8

/-! # Beginnings of what patterns find

All that a pattern finds begins with one of a few words of bytes, if few enough of them can be told.
A repetition is followed for some rounds only, and long words are cut. Words that are whole, as
nothing was left out behind them, are found by themselves. -/
namespace ThemeSwitch.Pattern
open Unicode

structure Beginning where
  bytes : List Nat
  /-- Nothing more is found behind these bytes. -/
  whole : Bool
deriving DecidableEq

/-- Beginnings in the order in which they are preferred; none where they cannot be told. -/
abbrev Beginnings := Option (List Beginning)

namespace Beginning

def unfinished (b : Beginning) : Beginning := { b with whole := false }

/-- The beginning up to so many bytes. -/
def upTo (n : Nat) (b : Beginning) : Beginning :=
  if b.bytes.length ≤ n then b else ⟨b.bytes.take n, false⟩

/-- The beginning with others behind it, if there is nothing else behind it yet. -/
def followedBy (b : Beginning) (cs : List Beginning) : List Beginning :=
  if b.whole then cs.map fun c => ⟨b.bytes ++ c.bytes, c.whole⟩ else [b]

/-- Neighbours with the same bytes become one, which is whole if all of them are. -/
def distinct : List Beginning → List Beginning
  | [] => []
  | b :: bs =>
    match distinct bs with
    | [] => [b]
    | c :: cs =>
      if b.bytes = c.bytes then ⟨b.bytes, b.whole && c.whole⟩ :: cs else b :: c :: cs

end Beginning

namespace Beginnings
open Beginning

/-- How many beginnings are told at most. -/
def maxCount : Nat := 250

/-- How many bytes of a beginning are kept. -/
def maxBytes : Nat := 100

/-- How many characters of a set are told at most. -/
def maxChars : Nat := 10

/-- How many rounds of a repetition are followed. -/
def maxRounds : Nat := 10

/-- The beginning of what takes no characters. -/
def start : Beginnings := some [⟨[], true⟩]

def unfinished (s : Beginnings) : Beginnings := s.map (·.map Beginning.unfinished)

/-- None of the beginnings is whole. -/
def areUnfinished (s : Beginnings) : Bool := s.all fun bs => bs.all (!·.whole)

/-- The first beginnings with the second ones behind them. -/
def followedBy (s t : Beginnings) : Beginnings := do
  let bs ← s
  if s.areUnfinished then return bs
  match t.filter fun cs => bs.length * cs.length ≤ maxCount with
  | some cs => return (distinct (bs.flatMap (·.followedBy cs))).map (upTo maxBytes)
  | none => if bs.any (·.bytes.isEmpty) then none else return bs.map Beginning.unfinished

/-- The first beginnings, and after them the second ones; four bytes of each, if these are too
many. -/
def orElse (s t : Beginnings) : Beginnings := do
  let bs ← s
  let cs ← t
  if bs.length + cs.length ≤ maxCount then return distinct (bs ++ cs)
  let bs := distinct (bs.map (upTo 4))
  let cs := distinct (cs.map (upTo 4))
  if bs.length + cs.length ≤ maxCount then return distinct (bs ++ cs)
  none

/-- The first beginnings with the second ones `n` times behind them. -/
def followedTimes (s t : Beginnings) : Nat → Beginnings
  | 0 => s
  | n + 1 => followedTimes (s.followedBy t) t n

/-- The characters of a set. -/
def ofSet (set : CharSet) : Beginnings :=
  if set.width ≤ maxChars then
    some <| set.spans.flatMap fun (first, last) =>
      (List.range (last + 1 - first)).map fun i => ⟨utf8 (Char.ofNat (first + i)), true⟩
  else none

/-- The beginnings of a repetition of what has the given ones. -/
def repeated (s : Beginnings) (least : Nat) (most : Option Nat) (greedy : Bool) : Beginnings :=
  if least = 0 then
    let some := if most = some 1 then s else s.unfinished
    if greedy then some.orElse start else start.orElse some
  else
    let rounds := start.followedTimes s (min least maxRounds)
    if most = some least ∧ least ≤ maxRounds then rounds else rounds.unfinished

/-- How what is found by a pattern stands to what was found before. -/
inductive Place
  | behind
  | instead

/-- The beginnings with those of a pattern, which is found behind them or instead of them. -/
def add (s : Beginnings) (place : Place) (p : Pattern) : Beginnings :=
  let join (t : Beginnings) : Beginnings := match place with
    | .behind => s.followedBy t
    | .instead => s.orElse t
  match p with
  | empty | look _ => join start
  | literal text => join (some [upTo maxBytes ⟨text.flatMap utf8, true⟩])
  | oneOf set _ => join (ofSet set)
  | both p q =>
    match place with
    | .behind => if s.areUnfinished then s else add (add s .behind p) .behind q
    | .instead => s.orElse (add (add start .behind p) .behind q)
  | either p q =>
    match place with
    | .behind =>
      if s.areUnfinished then s else s.followedBy (add (add (some []) .instead p) .instead q)
    | .instead => add (add s .instead p) .instead q
  | many p least most greedy => join ((add start .behind p).repeated least most greedy)
  | group _ p => join (add start .behind p)

end Beginnings

namespace Beginning

/-- Without those that begin with an earlier one: this one is preferred where they are found. -/
def preferred : List Beginning → List Beginning
  | [] => []
  | b :: bs => b :: (preferred bs).filter fun c => !b.bytes.isPrefixOf c.bytes

/-- The bytes with which all of them begin. -/
def shared : List Beginning → List Nat
  | [] => []
  | [b] => b.bytes
  | b :: bs => commonPrefix b.bytes (shared bs)

/-- The bytes of the signs of ASCII that are frequent in texts. -/
def frequentBytes : List Nat :=
  "\n\r (),-./0129:_abcdefghilmnoprstuvxy|".toList.map Char.toNat

/-- A byte that is seldom seen in texts. -/
def isRare (byte : Nat) : Bool := byte < 0x80 && !frequentBytes.contains byte

/-- Cuts words to so many bytes as long as there are more than so many of them. -/
def thinned : List (Nat × Nat) → List Beginning → List Beginning
  | [], bs => bs
  | (bytes, count) :: more, bs =>
    if bs.length ≤ count then bs else thinned more (preferred (bs.map (upTo bytes)))

/-- Whole words are looked for as they are, unless it is easier to look for something that they have
in common: a rare byte, a beginning of all of them, or not too many beginnings that are not too
short. -/
def areWords (bs : List Beginning) : Bool :=
  let words := preferred bs
  let common := shared words
  let byRareByte := 1 < bs.length && common.length ≤ 3 && common.head?.any isRare
  let byCommon := 4 < common.length || (1 < common.length && 16 < words.length)
  let thin := thinned [(5, 10), (4, 10), (3, 64), (2, 64), (1, 10)] words
  !words.isEmpty && words.all (fun b => b.whole && !b.bytes.isEmpty) &&
    (if byRareByte then words.all (·.bytes.length = 1)
    else if byCommon then words.length = 1
    else thin.all (·.whole) || thin.any (·.bytes.length ≤ 2) || 64 < thin.length)

end Beginning

/-- There are no conditions and no groups in the pattern. -/
def isPlain : Pattern → Bool
  | empty | literal _ | oneOf _ _ => true
  | look _ | group _ _ => false
  | both p q | either p q => p.isPlain && q.isPlain
  | many p _ _ _ => p.isPlain

/-- The branches of a choice, if all of them are literals. -/
def literals? : Pattern → Option (List (List Char))
  | literal text => some [text]
  | either (literal text) q => (literals? q).map (text :: ·)
  | _ => none

/-- The pattern stands for some words, which are looked for without a machine: if it is a choice
between very many literals, or if it has no other beginnings than words. -/
def isWords (p : Pattern) : Bool :=
  p.literals?.any (3000 ≤ ·.length) ||
    (p.isPlain && (Beginnings.start.add .behind p).any Beginning.areWords)

end ThemeSwitch.Pattern
