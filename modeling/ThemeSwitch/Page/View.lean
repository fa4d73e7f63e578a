import ThemeSwitch.Page.Html
import ThemeSwitch.Theme

/-! # What the page shows

Every part of the page that depends on the theme has a light and a dark variant. -/
namespace ThemeSwitch.Page
open Html

/-- The variant for the theme. -/
def variant (theme : Theme) (light dark : String) : String := if theme.isDark then dark else light

def homeLink (theme : Theme) : Html :=
  element "a"
    [("href", "/"),
      ("class", variant theme "text-gray-800 hover:text-primary transition-colors"
        "text-white hover:text-primary transition-colors"),
      ("aria-current", "page")]
    [text "Home"]

def toggleButton (theme : Theme) : Html :=
  element "button"
    [("class", variant theme "p-2 rounded-lg bg-gray-200 hover:bg-gray-300 transition-colors"
        "p-2 rounded-lg bg-gray-700 hover:bg-gray-600 transition-colors"),
      ("title", "Toggle theme")]
    [text theme.icon]

def navbar (theme : Theme) : Html :=
  element "nav"
    [("class", variant theme "bg-white shadow-lg transition-colors duration-200"
        "bg-dark-primary shadow-lg transition-colors duration-200")]
    [element "div"
      [("id", "navbar"),
        ("class", "container mx-auto px-4 py-3 flex justify-between items-center")]
      [homeLink theme, toggleButton theme]]

def home (theme : Theme) : Html :=
  element "div" [("class", "container mx-auto p-4")]
    [element "h1" [("class", "text-2xl font-bold mb-4")] [text "Dark Toggle"],
      element "p" [("class", "text-gray-600")]
        [text (variant theme "Use the moon button to switch to the dark theme."
          "Dark theme is on. It lasts until the browser session ends.")]]

/-- The root element of the page. -/
def root (theme : Theme) (rootClass : String) : Html :=
  element "div" [("id", "root"), ("class", rootClass)]
    [element "div" [] [navbar theme, home theme]]

end ThemeSwitch.Page
