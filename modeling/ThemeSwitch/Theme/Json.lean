import ThemeSwitch.Theme
import ThemeSwitch.Json.Record
import ThemeSwitch.Json.Printer

/-! # Themes in JSON

A theme is written as its name, or as an object whose only member has the name as its key and null
as its value. Whether a page is dark is written as a record with the one field `is_dark`. -/
namespace ThemeSwitch.Theme
open Json

def ofName? (name : String) : Option Theme := [light, dark].find? (·.name == name)

/-- The theme of a name, after the quote in front of it. -/
def readName (cs : List Char) : Reading Theme :=
  match readString cs with
  | .error stop => .error stop
  | .ok (letters, rest) =>
    match ofName? (String.ofList letters) with
    | some theme => .ok (theme, rest)
    | none =>
      .error (.here (.unknownVariant (String.ofList letters) "`light` or `dark`") rest)

/-- A theme whose name is the key of an object, after the brace. -/
def readTagged (cs : List Char) : Except Stop (Theme × List Char) :=
  match skipBlanks cs with
  | [] => .error (.ahead .endInObject [])
  | '}' :: rest => .error (.ahead .noValue ('}' :: rest))
  | '"' :: rest => do
    let (theme, rest) ← readName rest
    let rest ← readColon rest
    let ((), rest) ← readNull rest
    match skipBlanks rest with
    | [] => .error (.here .endInObject [])
    | '}' :: rest => .ok (theme, rest)
    | rest => .error (.here .noValue rest)
  | rest => .error (.ahead .keyNotString rest)

def read (cs : List Char) : Reading Theme :=
  match skipBlanks cs with
  | [] => .error (.ahead .endInValue [])
  | '"' :: rest => readName rest
  | '{' :: rest => readTagged rest
  | rest => .error (.ahead .noValue rest)

/-- The theme written in a text, or the text of the error. -/
def ofJson (json : String) : Except String Theme :=
  (readWhole read json.toList).mapError fun stop => stop.message json.toList

def stateShape : Shape Bool where
  title := "struct ThemeState"
  fields := ["is_dark"]
  value := .boolean
  complete := true

/-- The theme of the record written in a text, or the text of the error. -/
def ofStateJson (json : String) : Except String Theme :=
  match readWhole stateShape.read json.toList with
  | .ok fields => .ok (ofDark ((fields.lookup "is_dark").getD false))
  | .error stop => .error (stop.message json.toList)

/-- The record that says whether the theme is dark. -/
def toStateJson (theme : Theme) : String :=
  String.ofList <| printObject
    [printMember "is_dark" (if theme.isDark then "true" else "false").toList]

end ThemeSwitch.Theme
