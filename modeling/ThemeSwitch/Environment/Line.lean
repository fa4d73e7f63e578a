import ThemeSwitch.Environment
import ThemeSwitch.Text.Blank
import ThemeSwitch.Text.Cut
import ThemeSwitch.Unicode.Property

/-! # Lines of an environment file

A line sets a variable, as `KEY=VALUE` with an optional `export` in front, or it is empty or a
comment. Whether it is well formed does not depend on the environment: a value is read as a list of
pieces, of which some name variables, and these are looked up only afterwards. -/
namespace ThemeSwitch.Environment
open Text

/-- A part of a value: a character, or the value of a variable. -/
inductive Piece
  | char (c : Char)
  | variable (name : String)
deriving DecidableEq, Repr

/-- The text that a name stands for. A variable and its value are one text with an equals sign in
between, and a name stands for what follows it and an equals sign there: a name that has an equals
sign itself goes on with the beginning of the value. -/
def named? (env : Environment) (name : String) : Option String :=
  match cut '=' name.toList with
  | some (key, start) => do
    let value ← env.text? (String.ofList key)
    let rest ← (start ++ ['=']).isPrefixOf? value.toList
    return String.ofList rest
  | none => env.text? name

/-- The text that the pieces stand for; a name that stands for nothing leaves no text. -/
def expand (env : Environment) (pieces : List Piece) : String :=
  String.join <| pieces.map fun
    | .char c => c.toString
    | .variable name => (named? env name).getD ""

/-- The quotes around a character of a value. -/
inductive Quotes
  | none
  | single
  | double
deriving DecidableEq, Repr

/-- Where the reading of a value stands; the letters of a name are kept last first. -/
inductive Mode
  | plain (quotes : Quotes)
  /-- After a backslash. -/
  | escaped (quotes : Quotes)
  /-- In a name after a dollar sign. -/
  | name (quotes : Quotes) (letters : List Char)
  /-- In a name after a dollar sign and an opening brace. -/
  | braced (quotes : Quotes) (letters : List Char)
  /-- After the blank that ends the value. -/
  | ended
  | comment
deriving DecidableEq, Repr

namespace Mode

def named (letters : List Char) : Piece := .variable (String.ofList letters.reverse)

/-- The pieces that a character completes and where the reading stands then; none where the
character makes the line bad. -/
def next? : Mode → Char → Option (List Piece × Mode)
  | comment, _ => some ([], comment)
  | ended, c =>
    if c = ' ' ∨ c = '\t' then some ([], ended)
    else if c = '#' then some ([], comment)
    else none
  | escaped q, c =>
    if c = '\\' ∨ c = '\'' ∨ c = '"' ∨ c = '$' ∨ c = ' ' then some ([.char c], plain q)
    else if c = 'n' then some ([.char '\n'], plain q)
    else none
  | plain .single, c => if c = '\'' then some ([], plain .none) else some ([.char c], plain .single)
  | name q letters, c =>
    if Unicode.isAlphanumeric c then some ([], name q (c :: letters))
    else if c = '{' ∧ letters = [] then some ([], braced q [])
    else if c = '$' then some ([named letters], name q [])
    else some ([named letters, .char c], plain q)
  | braced q letters, c =>
    if c = '}' then some ([named letters], plain q) else some ([], braced q (c :: letters))
  | plain .double, c =>
    if c = '$' then some ([], name .double [])
    else if c = '"' then some ([], plain .none)
    else if c = '\\' then some ([], escaped .double)
    else some ([.char c], plain .double)
  | plain .none, c =>
    if c = '$' then some ([], name .none [])
    else if c = '\'' then some ([], plain .single)
    else if c = '"' then some ([], plain .double)
    else if c = '\\' then some ([], escaped .none)
    else if c = ' ' ∨ c = '\t' then some ([], ended)
    else some ([.char c], plain .none)

/-- What is complete where the value ends; open quotes and braces make the line bad. -/
def finish? : Mode → Option (List Piece)
  | comment | ended | plain .none | escaped .none => some []
  | name .none letters => some [named letters]
  | _ => none

/-- The pieces of the rest of a value. -/
def read? (mode : Mode) : List Char → Option (List Piece)
  | [] => mode.finish?
  | c :: cs =>
    match mode.next? c with
    | some (pieces, mode) => (read? mode cs).map (pieces ++ ·)
    | none => none

end Mode

/-- What a good line does: nothing, or setting a variable. -/
inductive Line
  | skipped
  | binding (key : String) (value : List Piece)
deriving DecidableEq, Repr

namespace Line

def isKeyStart (c : Char) : Bool := c.isAlpha || c == '_'

def isKeyChar (c : Char) : Bool := c.isAlphanum || c == '_' || c == '.'

/-- A key and what follows it and the blanks after it. -/
def readKey? : List Char → Option (List Char × List Char)
  | c :: cs =>
    if isKeyStart c then some (c :: cs.takeWhile isKeyChar, trimStart (cs.dropWhile isKeyChar))
    else none
  | [] => none

/-- A key and what follows its equals sign. The word `export` is a key of its own only if an
equals sign follows it. -/
def readAssignment? (cs : List Char) : Option (List Char × List Char) :=
  match readKey? cs with
  | some (key, '=' :: rest) => some (key, rest)
  | some (key, rest) =>
    if key = "export".toList then
      match readKey? rest with
      | some (key, '=' :: rest) => some (key, rest)
      | _ => none
    else none
  | none => none

/-- The pieces of a value, which is empty where a comment takes its place. -/
def readValue? (cs : List Char) : Option (List Piece) :=
  match trimStart cs with
  | [] | '#' :: _ => some []
  | cs => Mode.read? (.plain .none) cs

/-- What the line does, if it is good. -/
def parse? (line : List Char) : Option Line :=
  match trim line with
  | [] | '#' :: _ => some skipped
  | cs => do
    let (key, rest) ← readAssignment? cs
    let pieces ← readValue? rest
    return binding (String.ofList key) pieces

/-- The variables that the line sets or uses. -/
def names : Line → List String
  | skipped => []
  | binding key value =>
    key :: value.filterMap fun
      | .char _ => none
      | .variable name => some (String.ofList (before '=' name.toList))

end Line
end ThemeSwitch.Environment
