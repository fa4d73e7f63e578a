import ThemeSwitch.ClassList

/-! # Configuration: the name of the cookie and of the class

The cookie that keeps the preference must be named by a token of the cookie grammar, and the class
that marks the dark theme must be a class token. -/
namespace ThemeSwitch
open Text

structure Config where
  cookieName : String := "dark"
  darkClass : String := "dark"
deriving DecidableEq, Repr

namespace Config

instance : Inhabited Config := ⟨{}⟩

/-- The characters that a cookie name is made of. -/
def isNameChar (c : Char) : Bool := c.isAlphanum || "!#$%&'*+-.^_`|~".contains c

/-- What is wrong with a configuration. -/
inductive Defect
  | emptyCookieName
  | badCookieName (name : String)
  | emptyDarkClass
  | blankInDarkClass (name : String)
deriving DecidableEq, Repr

def Defect.message : Defect → String
  | emptyCookieName => "cookie name is empty"
  | badCookieName name => "cookie name " ++ quoted name ++ " is not a valid cookie token"
  | emptyDarkClass => "dark class is empty"
  | blankInDarkClass name => "dark class " ++ quoted name ++ " contains whitespace"

/-- The first defect, if there is one. -/
def defect? (config : Config) : Option Defect :=
  if config.cookieName = "" then some .emptyCookieName
  else if !config.cookieName.toList.all isNameChar then some (.badCookieName config.cookieName)
  else if config.darkClass = "" then some .emptyDarkClass
  else if config.darkClass.toList.any isBlank then some (.blankInDarkClass config.darkClass)
  else none

def Valid (config : Config) : Prop := config.defect? = none

instance (config : Config) : Decidable config.Valid := inferInstanceAs (Decidable (_ = _))

/-- The configuration, if it has no defect. -/
def validated (config : Config) : Except Failure Config :=
  match config.defect? with
  | none => .ok config
  | some defect => .error ⟨.invalidConfig, defect.message⟩

end Config
end ThemeSwitch
