import ThemeSwitch.Preference
import ThemeSwitch.Config

/-! # The theme controller

The controller of a configuration reads the stored preference, changes it, and brings the class
list in line with it. What it returns is always the preference as it was last read. -/
namespace ThemeSwitch.Controller
open Log

/-- The theme that the preference asks for; the class list is left alone. -/
def current (config : Config) : Action Theme := do
  let dark ← Preference.read config.cookieName
  return Theme.ofDark dark

/-- Brings the class list in line with the preference. -/
def apply (config : Config) : Action Theme := do
  let theme ← current config
  let present ← Action.hasClass config.darkClass
  if present != theme.isDark then
    Action.setClass config.darkClass theme.isDark
    Action.log (.applied theme)
  return theme

/-- Turns the preference round and applies it. -/
def toggle (config : Config) (now : Int) : Action Theme := do
  let theme ← current config
  Preference.write now config.cookieName theme.toggled.isDark
  Action.log (.toggled theme.toggled)
  apply config

/-- Makes the preference the wanted one where it is not, and applies it. -/
def set (config : Config) (now : Int) (wanted : Theme) : Action Theme := do
  let theme ← current config
  if theme ≠ wanted then
    Preference.write now config.cookieName wanted.isDark
  apply config

/-- Takes up a configuration, which must be free of defects. -/
def attach (config : Config) : Except Failure (Config × List Event) :=
  config.validated.map fun config => (config, [.attached config.cookieName])

end ThemeSwitch.Controller
