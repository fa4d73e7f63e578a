import ThemeSwitch.Text.Quoted

/-! # Why and where the reading of a JSON text stops

A reader that fails tells the reason and how many bytes of the text it had left. From these and the
whole text follows the place that the message names: a line, counted from 1, and the number of
bytes taken on that line. -/
namespace ThemeSwitch.Json

/-- A kind of value, as an error names what it found. -/
inductive Found
  | null
  | boolean (b : Bool)
  | integer (n : Int)
  | floating (shown : String)
  | string (s : String)
  | sequence
  | map
deriving DecidableEq, Repr

def Found.describe : Found → String
  | null => "null"
  | boolean b => "boolean `" ++ (if b then "true" else "false") ++ "`"
  | integer n => "integer `" ++ toString n ++ "`"
  | floating shown => "floating point `" ++ shown ++ "`"
  | string s => "string " ++ Text.quoted s
  | sequence => "sequence"
  | map => "map"

inductive Cause
  | endInValue
  | endInString
  | endInList
  | endInObject
  | noValue
  | noWord
  | noColon
  | noCommaOrListEnd
  | noCommaOrObjectEnd
  | badNumber
  | numberOutOfRange
  | badEscape
  | loneSurrogate
  | endOfHexEscape
  | controlCharacter
  | keyNotString
  | trailingComma
  | trailingCharacters
  | wrongType (found : Found) (expected : String)
  | tooShort (length : Nat) (expected : String)
  | missing (field : String)
  | duplicate (field : String)
  | unknownVariant (name expected : String)
deriving DecidableEq, Repr

def Cause.message : Cause → String
  | endInValue => "EOF while parsing a value"
  | endInString => "EOF while parsing a string"
  | endInList => "EOF while parsing a list"
  | endInObject => "EOF while parsing an object"
  | noValue => "expected value"
  | noWord => "expected ident"
  | noColon => "expected `:`"
  | noCommaOrListEnd => "expected `,` or `]`"
  | noCommaOrObjectEnd => "expected `,` or `\x7d`"
  | badNumber => "invalid number"
  | numberOutOfRange => "number out of range"
  | badEscape => "invalid escape"
  | loneSurrogate => "lone leading surrogate in hex escape"
  | endOfHexEscape => "unexpected end of hex escape"
  | controlCharacter => "control character (\\u0000-\\u001F) found while parsing a string"
  | keyNotString => "key must be a string"
  | trailingComma => "trailing comma"
  | trailingCharacters => "trailing characters"
  | wrongType found expected => "invalid type: " ++ found.describe ++ ", expected " ++ expected
  | tooShort length expected => "invalid length " ++ toString length ++ ", expected " ++ expected
  | missing field => "missing field `" ++ field ++ "`"
  | duplicate field => "duplicate field `" ++ field ++ "`"
  | unknownVariant name expected => "unknown variant `" ++ name ++ "`, expected " ++ expected

/-- The reason, and the number of bytes that were left. -/
structure Stop where
  cause : Cause
  left : Nat
deriving DecidableEq, Repr

/-- Length in UTF-8. -/
def byteLength (cs : List Char) : Nat := cs.foldl (fun n c => n + c.utf8Size) 0

/-- A stop in front of the rest. -/
def Stop.here (cause : Cause) (rest : List Char) : Stop := ⟨cause, byteLength rest⟩

/-- A stop one byte into the rest, or at the end where nothing is left. -/
def Stop.ahead (cause : Cause) (rest : List Char) : Stop := ⟨cause, byteLength rest - 1⟩

structure Place where
  line : Nat
  column : Nat
deriving DecidableEq, Repr

/-- The place that many bytes on from the given one. -/
def Place.advance (place : Place) : List Char → Nat → Place
  | [], _ => place
  | c :: cs, bytes =>
    if bytes < c.utf8Size then { place with column := place.column + bytes }
    else if c = '\n' then advance ⟨place.line + 1, 0⟩ cs (bytes - 1)
    else advance ⟨place.line, place.column + c.utf8Size⟩ cs (bytes - c.utf8Size)

/-- The place of a stop in the whole text. -/
def Stop.place (stop : Stop) (text : List Char) : Place :=
  Place.advance ⟨1, 0⟩ text (byteLength text - stop.left)

def Stop.message (stop : Stop) (text : List Char) : String :=
  let place := stop.place text
  stop.cause.message ++ " at line " ++ toString place.line ++ " column " ++ toString place.column

end ThemeSwitch.Json
