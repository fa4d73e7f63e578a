import ThemeSwitch.Pattern.Escape
import ThemeSwitch.Pattern.Part
import ThemeSwitch.Unicode.Property.Ascii

/-! # Classes in brackets

A class lists characters, ranges, named classes and other classes, and may combine what it lists by
intersection, difference and symmetric difference, from the left. -/
namespace ThemeSwitch.Pattern
open ThemeSwitch.Pattern.Parser Unicode

/-- A named class such as `[:alpha:]` at the beginning of the text, negated or not. -/
def asciiClass? (cs : List Char) : Option (CharSet × Bool × List Char) :=
  match cs with
  | '[' :: ':' :: cs =>
    let (negated, cs) := match cs with
      | '^' :: cs => (true, cs)
      | cs => (false, cs)
    match cs.span (· != ':') with
    | (name, ':' :: ']' :: rest) =>
      (CharSet.ofAsciiName? (String.ofList name)).map fun s => (s, negated, rest)
    | _ => none
  | _ => none

/-- A sign of a class: an escape, or any character for itself. -/
def classAtom : Parser Atom := do
  let c ← next
  if c == '\\' then readEscape
  else
    skip
    return .char c

/-- A character of a class, which is of ASCII where the flag for Unicode is off. -/
def classChar : Atom → Parser Char
  | .char c => do if !(← flags).unicode && c.toNat ≥ 0x80 then fail else return c
  | _ => fail

/-- One sign or one range of a class. A hyphen before a bracket or another hyphen makes no range. -/
def classRange : Parser CharSet := do
  let first ← classAtom
  blanks
  match ← rest with
  | [] => fail
  | '-' :: after =>
    let seen := if (← flags).extended then glance after else after.head?
    if seen == some ']' || seen == some '-' then lone first
    else
      step
      let first ← classChar first
      let last ← classChar (← classAtom)
      if last < first then fail
      return CharSet.range first last
  | _ => lone first
where
  /-- The set of a sign that begins no range. -/
  lone : Atom → Parser CharSet
    | .set s => return s
    | atom => return CharSet.single (← classChar atom)

/-- The operations between parts of a class. -/
def classOperation? : List Char → Option (CharSet → CharSet → CharSet)
  | '&' :: '&' :: _ => some CharSet.inter
  | '-' :: '-' :: _ => some CharSet.diff
  | '~' :: '~' :: _ => some CharSet.symmDiff
  | _ => none

/-- What a class lists between two operations: its characters, and the heights of its items. -/
structure Listing where
  set : CharSet := .none
  heights : List Nat := []

namespace Listing

def add (listing : Listing) (s : CharSet) (height : Nat) : Listing :=
  ⟨listing.set.union s, height :: listing.heights⟩

end Listing

/-- A combination of what a class lists before its last operation: the set that it makes with what
follows, and its own height. -/
structure Pending where
  combine : CharSet → CharSet
  height : Nat

/-- The set and the height of a class up to here. -/
def close (pending : Option Pending) (listing : Listing) : Parser (CharSet × Nat) := do
  let s ← withCase listing.set
  let height := heightOver listing.heights
  match pending with
  | some pending => return (pending.combine s, max pending.height height + 1)
  | none => return (s, height)

/-- Hyphens at the beginning of a class stand for themselves. -/
def leadingHyphens : Nat → Listing → Parser Listing
  | 0, listing => return listing
  | fuel + 1, listing => do
    if (← next) == '-' then
      step
      leadingHyphens fuel (listing.add (CharSet.single '-') 0)
    else return listing

mutual

/-- A class, from its opening bracket, with its height. -/
def readClass : Nat → Parser (CharSet × Nat)
  | 0 => fail
  | fuel + 1 => do
    step
    let negated := (← next) == '^'
    if negated then step
    let hyphens ← leadingHyphens fuel {}
    let start ← if (← next) == ']' && hyphens.heights.isEmpty then do
        step
        pure (hyphens.add (CharSet.single ']') 0)
      else pure hyphens
    let (s, height) ← classParts fuel none start
    return (← withCaseAndNegation s negated, height + 1)

/-- The parts of a class up to its closing bracket: `pending` is what came before the last
operation, and `listing` what has been listed after it. -/
def classParts : Nat → Option Pending → Listing → Parser (CharSet × Nat)
  | 0, _, _ => fail
  | fuel + 1, pending, listing => do
    blanks
    let cs ← rest
    match classOperation? cs with
    | some operation =>
      setRest (cs.drop 2)
      let (s, height) ← close pending listing
      classParts fuel (some ⟨operation (← withCase s), height⟩) {}
    | none =>
      match ← next with
      | ']' => do
        skip
        close pending listing
      | '[' =>
        match asciiClass? cs with
        | some (s, negated, cs) => do
          setRest cs
          classParts fuel pending (listing.add (← withCaseAndNegation s negated) 0)
        | none => do
          let (s, height) ← readClass fuel
          classParts fuel pending (listing.add s height)
      | _ => do
        classParts fuel pending (listing.add (← classRange) 0)

end

end ThemeSwitch.Pattern
