import ThemeSwitch.Config
import ThemeSwitch.Json.Record
import ThemeSwitch.Json.Printer

/-! # Configurations in JSON

A page may embed its configuration as a record of two texts, `cookie_name` and `dark_class`; one
that is missing takes its usual value. -/
namespace ThemeSwitch.Config
open Json

def cookieNameField : String := "cookie_name"

def darkClassField : String := "dark_class"

def shape : Shape String where
  title := "struct ThemeConfig"
  fields := [cookieNameField, darkClassField]
  value := .text
  complete := false

/-- The configuration of fields that were found. -/
def ofFields (fields : Fields String) : Config :=
  let standard : Config := {}
  { cookieName := (fields.lookup cookieNameField).getD standard.cookieName
    darkClass := (fields.lookup darkClassField).getD standard.darkClass }

/-- The configuration written in a text, if that is a record and the configuration has no
defect. -/
def ofJson (json : String) : Except Failure Config :=
  match readWhole shape.read json.toList with
  | .ok fields => (ofFields fields).validated
  | .error stop => .error ⟨.invalidConfig, stop.message json.toList⟩

/-- The configuration that a page embeds, which is the usual one where it embeds none. -/
def ofPageMeta : Option String → Except Failure Config
  | some json => ofJson json
  | none => .ok {}

def toJson (config : Config) : String :=
  String.ofList <| printObject
    [printMember cookieNameField (printString config.cookieName.toList),
      printMember darkClassField (printString config.darkClass.toList)]

end ThemeSwitch.Config
