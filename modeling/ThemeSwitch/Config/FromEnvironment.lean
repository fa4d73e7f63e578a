import ThemeSwitch.Config
import ThemeSwitch.Environment
import ThemeSwitch.Log.Event

/-! # Configurations from the environment -/
namespace ThemeSwitch.Config
open Log

def cookieNameVariable : String := "THEME_COOKIE_NAME"

def darkClassVariable : String := "THEME_DARK_CLASS"

/-- The text of a variable, or else the fallback and a warning. -/
def variableOr (env : Environment) (key fallback : String) : String × List Event :=
  match env.text? key with
  | some value => (value, [])
  | none => (fallback, [.variableMissing key fallback])

/-- The configuration that the environment gives, and what was logged on the way. -/
def ofEnvironment (env : Environment) : Except Failure Config × List Event :=
  let standard : Config := {}
  let (cookieName, first) := variableOr env cookieNameVariable standard.cookieName
  let (darkClass, second) := variableOr env darkClassVariable standard.darkClass
  (validated ⟨cookieName, darkClass⟩, first ++ second)

end ThemeSwitch.Config
