/-! # The two themes -/
namespace ThemeSwitch

inductive Theme
  | light
  | dark
deriving DecidableEq, Repr

namespace Theme

/-- A page is light until something says otherwise. -/
instance : Inhabited Theme := ⟨light⟩

def isDark : Theme → Bool
  | light => false
  | dark => true

def ofDark (dark : Bool) : Theme := if dark then .dark else .light

def toggled (t : Theme) : Theme := ofDark !t.isDark

/-- The name as a word of a sentence. -/
def title : Theme → String
  | light => "Light"
  | dark => "Dark"

/-- The name as written in documents. -/
def name : Theme → String
  | light => "light"
  | dark => "dark"

/-- Class of the page's root element: the dark class in the dark, and none in the light. -/
def rootClass (t : Theme) (darkClass : String) : String := if t.isDark then darkClass else ""

/-- The sign on the toggle button, which shows what a click leads to. -/
def icon : Theme → String
  | light => "🌙"
  | dark => "🌞"

@[simp] theorem isDark_ofDark (b : Bool) : (ofDark b).isDark = b := by cases b <;> rfl

@[simp] theorem ofDark_isDark (t : Theme) : ofDark t.isDark = t := by cases t <;> rfl

@[simp] theorem isDark_toggled (t : Theme) : t.toggled.isDark = !t.isDark := by cases t <;> rfl

@[simp] theorem toggled_toggled (t : Theme) : t.toggled.toggled = t := by cases t <;> rfl

end Theme
end ThemeSwitch
