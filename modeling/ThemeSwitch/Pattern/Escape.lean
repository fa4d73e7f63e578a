import ThemeSwitch.Pattern.Look
import ThemeSwitch.Pattern.Scan
import ThemeSwitch.Text.Digits
import ThemeSwitch.Unicode.Property.Name

/-! # Escapes in patterns

After a backslash comes a sign that stands for itself, a character by its number, a set by its
letter or its property, or a condition on a place. -/
namespace ThemeSwitch.Pattern
open ThemeSwitch.Pattern.Parser Unicode

/-- What one sign or escape stands for. -/
inductive Atom
  | char (c : Char)
  | set (s : CharSet)
  | look (condition : Look)

/-- The character of a code point written with hexadecimal digits. -/
def charOfHex? (digits : List Char) : Option Char := do
  if digits.isEmpty then none
  let code ← Text.hexadecimal? digits
  if h : code.isValidChar then some (Char.ofNatAux code h) else none

/-- Exactly `n` characters, with the blanks between them. -/
def takeSteps : Nat → Parser (List Char)
  | 0 => return []
  | n + 1 => do
    let c ← next
    step
    return c :: (← takeSteps n)

/-- A numbered character, after the letter of its escape; `digits` is how many digits it has
without braces. Two digits alone write a byte where the flag for Unicode is off. -/
def numbered (digits : Nat) : Parser Atom := do
  step
  let braced := (← next) == '{'
  let code ← if braced then do
      step
      let code ← takeWhile (· != '}') (← fuel)
      if (← next) != '}' then fail
      step
      pure code
    else takeSteps digits
  match charOfHex? code with
  | some c =>
    if !(← flags).unicode && !braced && digits == 2 && c.toNat ≥ 0x80 then fail
    return .char c
  | none => fail

/-- Sets lose their unicode members where the flag for these is off; then they may not be
complements either. -/
def classOf (unicode ascii : CharSet) (negated : Bool) : Parser Atom := do
  match (← flags).unicode, negated with
  | true, false => return .set unicode
  | true, true => return .set (CharSet.compl unicode)
  | false, false => return .set ascii
  | false, true => fail

/-- The set with what the flags add to it. -/
def withCase (s : CharSet) : Parser CharSet := do
  let f ← flags
  if !f.ignoreCase then return s
  return if f.unicode then CharSet.folded s else CharSet.foldedAscii s

/-- A set after case and negation; there is no complement where the flag for Unicode is off. -/
def withCaseAndNegation (s : CharSet) (negated : Bool) : Parser CharSet := do
  let s ← withCase s
  if !negated then return s
  if !(← flags).unicode then fail
  return CharSet.compl s

/-- The text around the first place of a word in it. -/
def cutAt? (word : List Char) : List Char → Option (List Char × List Char)
  | [] => none
  | c :: cs =>
    if word.isPrefixOf (c :: cs) then some ([], (c :: cs).drop word.length)
    else (cutAt? word cs).map fun (before, after) => (c :: before, after)

/-- The set that is named between braces, and whether its complement is meant. -/
def namedSet? (name : List Char) : Option (CharSet × Bool) :=
  match cutAt? ['!', '='] name with
  | some (property, value) => (CharSet.ofValue? property value).map (·, true)
  | none =>
    match (cutAt? [':'] name).or (cutAt? ['='] name) with
    | some (property, value) => (CharSet.ofValue? property value).map (·, false)
    | none => (CharSet.ofName? name).map (·, false)

/-- The set of a property, after the letter of its escape. -/
def property (negated : Bool) : Parser Atom := do
  step
  let c ← next
  let named ← if c == '{' then do
      step
      let name ← takeWhile (· != '}') (← fuel)
      if (← next) != '}' then fail
      skip
      pure (namedSet? name)
    else do
      if c == '\\' then fail
      step
      pure ((CharSet.ofName? [c]).map (·, false))
  if !(← flags).unicode then fail
  match named with
  | some (s, differs) => return .set (← withCaseAndNegation s (negated != differs))
  | none => fail

/-- A condition on the words beside a place. -/
def wordLook (kind : WordEdge) : Parser Atom := return .look (.word kind (← flags).unicode)

/-- A word boundary, after its letter: of any kind, or of the kind named in braces. -/
def boundary : Parser Atom := do
  let any := wordLook .edge
  let isNameChar (c : Char) : Bool := c.isAlpha || c == '-'
  if (← peek) != some '{' then return ← any
  let cs ← rest
  step
  if !isNameChar (← next) then
    setRest cs
    return ← any
  let name ← takeWhile isNameChar (← fuel)
  if (← next) != '}' then fail
  skip
  match String.ofList name with
  | "start" => wordLook .start
  | "end" => wordLook .stop
  | "start-half" => wordLook .halfStart
  | "end-half" => wordLook .halfStop
  | _ => fail

/-- Characters that stand for themselves after a backslash: of ASCII, all but letters, digits and
angle brackets. -/
def isEscapable (c : Char) : Bool := c.toNat < 0x80 && !c.isAlphanum && c != '<' && c != '>'

/-- What an escape stands for, from its backslash. -/
def readEscape : Parser Atom := do
  skip
  let c ← next
  let simple (a : Parser Atom) : Parser Atom := do skip; a
  match c with
  | 'x' => numbered 2
  | 'u' => numbered 4
  | 'U' => numbered 8
  | 'p' => property false
  | 'P' => property true
  | 'd' => simple (classOf (.ofCategories [.nd]) .asciiDigits false)
  | 'D' => simple (classOf (.ofCategories [.nd]) .asciiDigits true)
  | 's' => simple (classOf .whiteSpace .asciiBlanks false)
  | 'S' => simple (classOf .whiteSpace .asciiBlanks true)
  | 'w' => simple (classOf .wordParts .asciiWordParts false)
  | 'W' => simple (classOf .wordParts .asciiWordParts true)
  | 'a' => simple (return .char '\x07')
  | 'f' => simple (return .char '\x0c')
  | 't' => simple (return .char '\t')
  | 'n' => simple (return .char '\n')
  | 'r' => simple (return .char '\r')
  | 'v' => simple (return .char '\x0b')
  | 'A' => simple (return .look .textStart)
  | 'z' => simple (return .look .textEnd)
  | 'b' => simple boundary
  | 'B' => simple (wordLook .noEdge)
  | '<' => simple (wordLook .start)
  | '>' => simple (wordLook .stop)
  | c => if isEscapable c then simple (return .char c) else fail

end ThemeSwitch.Pattern
