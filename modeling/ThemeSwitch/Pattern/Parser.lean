import ThemeSwitch.Pattern.Bracket
import ThemeSwitch.Pattern.Size
import ThemeSwitch.Unicode.Property

/-! # Patterns from their text

The notation of regular expressions: literals, `.`, classes in brackets, escapes, groups, `|`,
repetitions, anchors, word boundaries, and flags in groups. There are no lookarounds and no
references back. A text gives no pattern if it breaks the notation, if its parts are too deep within
each other, or if the pattern is too large. -/
namespace ThemeSwitch.Pattern
open ThemeSwitch.Pattern.Parser Unicode

/-- The start of the text, or of a line. -/
def startLook (f : Flags) : Look := if f.multiLine then .lineStart f.crlf else .textStart

/-- The end of the text, or of a line. -/
def endLook (f : Flags) : Look := if f.multiLine then .lineEnd f.crlf else .textEnd

/-- Any character, or any in the line. -/
def dotSet (f : Flags) : CharSet :=
  if f.dotAll then .all
  else if f.crlf then .compl (.union (.single '\n') (.single '\r'))
  else .compl (.single '\n')

/-- The flags after their letters, up to a `:` or a `)`; whether there were any letters. Each
letter may be named once only. -/
def readFlags : Nat → Bool → Bool → List Char → Flags → Parser (Flags × Bool)
  | 0, _, _, _, _ => fail
  | fuel + 1, off, dangling, seen, f => do
    let c ← next
    if c == ':' || c == ')' then
      if dangling then fail
      return (f, !seen.isEmpty)
    if seen.contains c then fail
    skip
    let on := !off
    match c with
    | '-' => readFlags fuel true true (c :: seen) f
    | 'i' => readFlags fuel off false (c :: seen) { f with ignoreCase := on }
    | 'm' => readFlags fuel off false (c :: seen) { f with multiLine := on }
    | 's' => readFlags fuel off false (c :: seen) { f with dotAll := on }
    | 'U' => readFlags fuel off false (c :: seen) { f with greedy := !on }
    | 'u' => readFlags fuel off false (c :: seen) { f with unicode := on }
    | 'R' => readFlags fuel off false (c :: seen) { f with crlf := on }
    | 'x' => readFlags fuel off false (c :: seen) { f with extended := on }
    | _ => fail

/-- The name of a group, up to its angle bracket, which no other group may have. -/
def groupName : Parser Unit := do
  let (name, after) := (← rest).span (· != '>')
  let isFirst (c : Char) : Bool := c == '_' || Unicode.isAlphabetic c
  let isFurther (c : Char) : Bool :=
    Unicode.isAlphanumeric c || c == '_' || c == '.' || c == '[' || c == ']'
  match name, after with
  | c :: cs, '>' :: after =>
    let known := (← get).names
    let name := String.ofList name
    if !(isFirst c && cs.all isFurther) || known.contains name then fail
    setRest after
    modify fun s => { s with names := name :: known }
  | _, _ => fail

/-- A decimal number of 32 bits, with blanks around it. -/
def readDecimal : Parser (Option Nat) := do
  setRest ((← rest).dropWhile Text.isBlank)
  let digits ← takeWhile Char.isDigit (← fuel)
  setRest ((← rest).dropWhile Text.isBlank)
  blanks
  if digits.isEmpty then return none
  let n := Text.decimal digits
  if n ≤ 0xFFFFFFFF then return some n else fail

/-- Whether a repetition is greedy, after its sign or braces: a question mark turns that round. -/
def readGreed : Parser Bool := do
  let greedy := (← flags).greedy
  if (← peek) == some '?' then
    skip
    return !greedy
  return greedy

/-- The bounds of a counted repetition, from its opening brace. -/
def readCounts : Parser (Nat × Option Nat) := do
  step
  let some least ← readDecimal | fail
  let counts ← if (← next) == ',' then do
      step
      if (← next) == '}' then pure (least, none)
      else do
        let some most ← readDecimal | fail
        if most < least then fail
        pure (least, some most)
    else pure (least, some least)
  if (← next) != '}' then fail
  step
  return counts

/-- The pattern of a sign that stands for itself, an anchor or a dot. -/
def readAtom : Parser Pattern := do
  let f ← flags
  let c ← next
  match c with
  | '.' => do
    if !f.unicode then fail
    skip
    return ofSet (dotSet f) true
  | '^' => do
    skip
    return .look (startLook f)
  | '$' => do
    skip
    return .look (endLook f)
  | '\\' => do
    match ← readEscape with
    | .char c => return ofSet (← withCase (CharSet.single c)) f.unicode
    | .set s => return ofSet s f.unicode
    | .look condition => return .look condition
  | c => do
    skip
    return ofSet (← withCase (CharSet.single c)) f.unicode

/-- A repetition of the last item, which must be a pattern; flags alone cannot be repeated. -/
def repeatLast (least : Nat) (most : Option Nat) :
    List (Option Part) → Parser (List (Option Part))
  | some p :: items => return some (p.repeated least most (← readGreed)) :: items
  | _ => fail

/-- The sequence of items, the last of which comes first; items that only set flags are empty. -/
def ofItems (items : List (Option Part)) : Part :=
  Part.sequence (items.reverse.map (·.getD { pattern := .empty }))

mutual

/-- The alternatives up to a closing parenthesis or the end: those that are complete, and the items
of the one that is being read, in both the last first. -/
def alternatives : Nat → List Part → List (Option Part) → Parser Part
  | 0, _, _ => fail
  | fuel + 1, complete, items => do
    blanks
    match ← peek with
    | none | some ')' => return Part.anyOf (ofItems items :: complete).reverse
    | some '|' =>
      skip
      alternatives fuel (ofItems items :: complete) []
    | some '(' =>
      let item ← readGroup fuel
      alternatives fuel complete (item :: items)
    | some '[' =>
      let (s, height) ← readClass fuel
      alternatives fuel complete (some ⟨ofSet s (← flags).unicode, height⟩ :: items)
    | some '?' => count fuel complete 0 (some 1) items
    | some '*' => count fuel complete 0 none items
    | some '+' => count fuel complete 1 none items
    | some '{' =>
      let (least, most) ← readCounts
      alternatives fuel complete (← repeatLast least most items)
    | some _ =>
      let p ← readAtom
      alternatives fuel complete (some { pattern := p } :: items)

/-- Goes on after a repetition that is written with one sign. -/
def count : Nat → List Part → Nat → Option Nat → List (Option Part) → Parser Part
  | 0, _, _, _, _ => fail
  | fuel + 1, complete, least, most, items => do
    skip
    alternatives fuel complete (← repeatLast least most items)

/-- A group, from its parenthesis; nothing for one that only sets flags. -/
def readGroup : Nat → Parser (Option Part)
  | 0 => fail
  | fuel + 1 => do
    step
    if ← accept ["?=", "?!", "?<=", "?<!"] then fail
    let outer ← flags
    if ← accept ["?P<", "?<"] then
      groupName
      readBody fuel outer (some (← nextGroup))
    else if ← accept ["?"] then
      let (f, anyFlag) ← readFlags fuel false false [] outer
      let c ← next
      skip
      setFlags f
      if c == ')' then
        if !anyFlag then fail
        return none
      readBody fuel outer none
    else
      readBody fuel outer (some (← nextGroup))

/-- What is in parentheses, after which the flags from before them hold again. -/
def readBody : Nat → Flags → Option Nat → Parser (Option Part)
  | 0, _, _ => fail
  | fuel + 1, outer, number => do
    let p ← alternatives fuel [] []
    if (← peek) != some ')' then fail
    skip
    setFlags outer
    return some (p.inParentheses number)

end

/-- How deep the parts of a pattern may be within each other. -/
def maxHeight : Nat := 250

/-- The pattern of a text. -/
def parse? (text : String) : Option Pattern :=
  let cs := text.toList
  match alternatives (3 * cs.length + 3) [] [] { rest := cs } with
  | some (p, s) =>
    if s.rest.isEmpty && p.height ≤ maxHeight && p.pattern.fits then some p.pattern else none
  | none => none

end ThemeSwitch.Pattern
