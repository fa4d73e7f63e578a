import ThemeSwitch.Cookie.Pair
import ThemeSwitch.Failure
import ThemeSwitch.Theme

/-! # Events that are logged -/
namespace ThemeSwitch.Log

inductive Level
  | error
  | warn
  | info
  | debug
  | trace
deriving DecidableEq, Repr

/-- From the gravest, which is 1, to the most detailed. -/
def Level.rank : Level → Nat
  | error => 1
  | warn => 2
  | info => 3
  | debug => 4
  | trace => 5

def Level.name : Level → String
  | error => "ERROR"
  | warn => "WARN"
  | info => "INFO"
  | debug => "DEBUG"
  | trace => "TRACE"

/-- The part of the program that an event comes from. -/
inductive Source
  | app
  | config
  | cookie
  | storage
  | controller
  | navbar
deriving DecidableEq, Repr

/-- The path by which log filters know a source. -/
def Source.target : Source → String
  | app => "dark_toggle"
  | config => "dark_toggle::configs::theme_config"
  | cookie => "dark_toggle::utils::cookie"
  | storage => "dark_toggle::utils::storage"
  | controller => "dark_toggle::utils::controller"
  | navbar => "dark_toggle::views::navbar"

inductive Event
  | variableMissing (key fallback : String)
  | directiveIgnored (directive : String) (reason : Cookie.Malformed)
  | preferenceRead (cookieName : String) (dark : Bool)
  | directiveWritten (directive : String)
  | attached (cookieName : String)
  | toggled (theme : Theme)
  | applied (theme : Theme)
  | unavailable (failure : Failure)
  | applyFailed (failure : Failure)
  | toggleFailed (failure : Failure)
deriving DecidableEq, Repr

namespace Event

def level : Event → Level
  | variableMissing .. | directiveIgnored .. => .warn
  | preferenceRead .. | directiveWritten .. | attached .. => .debug
  | toggled .. | applied .. => .info
  | unavailable .. | applyFailed .. | toggleFailed .. => .error

def source : Event → Source
  | variableMissing .. => .config
  | directiveIgnored .. => .cookie
  | preferenceRead .. | directiveWritten .. => .storage
  | attached .. | toggled .. | applied .. => .controller
  | unavailable .. | applyFailed .. => .app
  | toggleFailed .. => .navbar

def message : Event → String
  | variableMissing key fallback =>
    key ++ " not set, using default " ++ Text.quoted fallback
  | directiveIgnored directive reason =>
    "Ignoring malformed cookie directive " ++ Text.quoted directive ++ ": " ++ reason.message
  | preferenceRead cookieName dark =>
    "Cookie " ++ Text.quoted cookieName ++ " read as dark=" ++ (if dark then "true" else "false")
  | directiveWritten directive => "Writing cookie directive: " ++ directive
  | attached cookieName => "Attached theme controller (cookie " ++ Text.quoted cookieName ++ ")"
  | toggled theme => "Toggled theme to " ++ theme.title
  | applied theme => "Applied " ++ theme.title ++ " theme"
  | unavailable failure => "Theme controller unavailable: " ++ failure.text
  | applyFailed failure => "Failed to apply theme: " ++ failure.text
  | toggleFailed failure => "Failed to toggle theme: " ++ failure.text

end Event
end ThemeSwitch.Log
