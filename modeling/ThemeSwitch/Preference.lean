import ThemeSwitch.Action

/-! # The stored preference

A cookie keeps whether the page is to be dark. The value written for it is `true`; every value
reads as dark but the empty one, which a failed removal leaves behind, and `false`. To turn the
preference off is to let the cookie expire. -/
namespace ThemeSwitch.Preference
open Cookie

/-- What a cookie text says about the preference. -/
def ofCookies (raw cookieName : String) : Bool :=
  match value? raw cookieName with
  | some value => value != "" && value != "false"
  | none => false

/-- The directive that stores a preference. -/
def directive (cookieName : String) (dark : Bool) : String :=
  if dark then sessionDirective cookieName "true" else expiredDirective cookieName

def read (cookieName : String) : Action Bool := do
  let raw ← Action.readCookies
  let dark := ofCookies raw cookieName
  Action.log (.preferenceRead cookieName dark)
  return dark

def write (now : Int) (cookieName : String) (dark : Bool) : Action Unit := do
  Action.log (.directiveWritten (directive cookieName dark))
  Action.writeCookie now (directive cookieName dark)

end ThemeSwitch.Preference
