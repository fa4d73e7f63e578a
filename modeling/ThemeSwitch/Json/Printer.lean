/-! # Strings and objects in JSON

In a string only the quote, the backslash and the characters below the space are escaped. -/
namespace ThemeSwitch.Json

def hexDigit (n : Nat) : Char := "0123456789abcdef".toList.getD n '0'

def escapedChar (c : Char) : List Char :=
  match c with
  | '"' => ['\\', '"']
  | '\\' => ['\\', '\\']
  | '\x08' => ['\\', 'b']
  | '\x0c' => ['\\', 'f']
  | '\n' => ['\\', 'n']
  | '\r' => ['\\', 'r']
  | '\t' => ['\\', 't']
  | c =>
    if c.toNat < 0x20 then ['\\', 'u', '0', '0', hexDigit (c.toNat / 16), hexDigit (c.toNat % 16)]
    else [c]

/-- A string in JSON. -/
def printString (s : List Char) : List Char := '"' :: s.flatMap escapedChar ++ ['"']

/-- One member of an object: its key and the text of its value. -/
def printMember (key : String) (value : List Char) : List Char :=
  printString key.toList ++ ':' :: value

/-- An object of the given members, without any blanks. -/
def printObject (members : List (List Char)) : List Char :=
  '{' :: [','].intercalate members ++ ['}']

end ThemeSwitch.Json
