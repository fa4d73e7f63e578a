import ThemeSwitch.Text.Quoted

/-! # Failures of theme operations -/
namespace ThemeSwitch

/-- What a theme operation can fail at. -/
inductive Failure.Kind
  | unavailable
  | cookie
  | classList
  | invalidConfig
deriving DecidableEq, Repr

namespace Failure.Kind

/-- How the text of a failure begins. -/
def label : Kind → String
  | unavailable => "Unavailable"
  | cookie => "Cookie Error"
  | classList => "Class List Error"
  | invalidConfig => "Invalid Config"

/-- The kind in one word. -/
def name : Kind → String
  | unavailable => "Unavailable"
  | cookie => "Cookie"
  | classList => "ClassList"
  | invalidConfig => "InvalidConfig"

end Failure.Kind

structure Failure where
  kind : Failure.Kind
  message : String
deriving DecidableEq, Repr

namespace Failure

def text (f : Failure) : String := f.kind.label ++ ": " ++ f.message

/-- The form in which kind and message can be told apart. -/
def inspect (f : Failure) : String := f.kind.name ++ "(" ++ Text.quoted f.message ++ ")"

/-- There is no controller to toggle the theme with. -/
def notAttached : Failure := ⟨.unavailable, "theme controller not attached"⟩

end Failure
end ThemeSwitch
