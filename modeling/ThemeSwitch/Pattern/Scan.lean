import ThemeSwitch.Text.Blank

/-! # Reading the text of a pattern

What is left of the text, the flags that hold there, and what is known of the groups so far. -/
namespace ThemeSwitch.Pattern

structure Flags where
  ignoreCase : Bool := false
  multiLine : Bool := false
  dotAll : Bool := false
  extended : Bool := false
  crlf : Bool := false
  unicode : Bool := true
  /-- Repetitions are greedy where they are not followed by a question mark. -/
  greedy : Bool := true

structure Scan where
  rest : List Char
  flags : Flags := {}
  /-- How many groups there are so far, and the names that they have taken. -/
  groups : Nat := 0
  names : List String := []

abbrev Parser := StateT Scan Option

namespace Parser

def fail {α : Type} : Parser α := fun _ => none

def rest : Parser (List Char) := return (← get).rest

def flags : Parser Flags := return (← get).flags

def setRest (cs : List Char) : Parser Unit := modify fun s => { s with rest := cs }

def setFlags (f : Flags) : Parser Unit := modify fun s => { s with flags := f }

def peek : Parser (Option Char) := return (← rest).head?

/-- Takes one character. -/
def skip : Parser Unit := do setRest (← rest).tail

/-- The text without the blanks and comments at its beginning; a comment goes from `#` to the end
of its line. -/
def withoutComments (inComment : Bool) : List Char → List Char
  | [] => []
  | c :: cs =>
    if inComment then withoutComments (c != '\n') cs
    else if Text.isBlank c then withoutComments false cs
    else if c == '#' then withoutComments true cs
    else c :: cs

/-- Takes blanks and comments where they do not count. -/
def blanks : Parser Unit := do
  if (← flags).extended then setRest (withoutComments false (← rest))

/-- Takes one character, and the blanks behind it where they do not count. -/
def step : Parser Unit := do skip; blanks

/-- Takes the first of the words that comes next, if there is one. -/
def accept (words : List String) : Parser Bool := do
  let cs ← rest
  match words.find? (·.toList.isPrefixOf cs) with
  | some word =>
    setRest (cs.drop word.length)
    return true
  | none => return false

/-- The number of the next group. -/
def nextGroup : Parser Nat := do
  let number := (← get).groups
  modify fun s => { s with groups := number + 1 }
  return number

/-- The next character, which must be there. -/
def next : Parser Char := do
  match ← peek with
  | some c => return c
  | none => fail

/-- The characters that come next and are in the set, with the blanks between them. -/
def takeWhile (set : Char → Bool) : Nat → Parser (List Char)
  | 0 => return []
  | fuel + 1 => do
    match ← peek with
    | some c =>
      if set c then
        step
        return c :: (← takeWhile set fuel)
      else return []
    | none => return []

/-- The next character after blanks and one comment sign, or the next of all characters if nothing
follows these. -/
def glance (text : List Char) : Option Char :=
  let further := match text.dropWhile Text.isBlank with
    | '#' :: cs => cs.dropWhile Text.isBlank
    | cs => cs
  further.head?.or text.head?

/-- More than the number of characters that are left. -/
def fuel : Parser Nat := return (← rest).length + 1

end Parser

end ThemeSwitch.Pattern
