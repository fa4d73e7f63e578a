/-! # HTML elements -/
namespace ThemeSwitch

inductive Html
  | text (content : String)
  | element (tag : String) (attributes : List (String × String)) (children : List Html)

namespace Html

def renderAttribute (a : String × String) : String := " " ++ a.1 ++ "=\"" ++ a.2 ++ "\""

mutual

/-- The markup of an element. Nothing in it is escaped. -/
def render : Html → String
  | text content => content
  | element tag attributes children =>
    "<" ++ tag ++ String.join (attributes.map renderAttribute) ++ ">" ++ renderAll children ++
      "</" ++ tag ++ ">"

def renderAll : List Html → String
  | [] => ""
  | h :: hs => render h ++ renderAll hs

end

end Html
end ThemeSwitch
