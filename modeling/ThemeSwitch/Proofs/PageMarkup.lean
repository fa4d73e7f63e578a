import ThemeSwitch.Page.View

/-! # The light page and the dark page

The parts of a page agree on the theme, so that it is one of two pages, written out here. They
differ in the class of the root, in the classes of bar, link and button, in the sign on the button
and in the sentence at the end. -/
namespace ThemeSwitch

namespace Html

/-- The tag that opens an element. -/
def opening (tag : String) (attributes : List (String × String)) : String :=
  "<" ++ tag ++ String.join (attributes.map renderAttribute) ++ ">"

/-- The tag that closes an element. -/
def closing (tag : String) : String := "</" ++ tag ++ ">"

theorem render_text (content : String) : (text content).render = content := by rw [render]

theorem render_element (tag : String) (attributes : List (String × String))
    (children : List Html) :
    (element tag attributes children).render =
      opening tag attributes ++ renderAll children ++ closing tag := by
  simp only [render, opening, closing, String.append_assoc]

end Html

namespace Page
open Html

/-- The light page. Its root has no class. -/
def lightPage : Html :=
  element "div" [("id", "root"), ("class", "")]
    [element "div" []
      [element "nav" [("class", "bg-white shadow-lg transition-colors duration-200")]
        [element "div"
          [("id", "navbar"),
            ("class", "container mx-auto px-4 py-3 flex justify-between items-center")]
          [element "a"
            [("href", "/"), ("class", "text-gray-800 hover:text-primary transition-colors"),
              ("aria-current", "page")]
            [text "Home"],
          element "button"
            [("class", "p-2 rounded-lg bg-gray-200 hover:bg-gray-300 transition-colors"),
              ("title", "Toggle theme")]
            [text "🌙"]]],
      element "div" [("class", "container mx-auto p-4")]
        [element "h1" [("class", "text-2xl font-bold mb-4")] [text "Dark Toggle"],
          element "p" [("class", "text-gray-600")]
            [text "Use the moon button to switch to the dark theme."]]]]

/-- The dark page. Its root has the class just as it is given. -/
def darkPage (darkClass : String) : Html :=
  element "div" [("id", "root"), ("class", darkClass)]
    [element "div" []
      [element "nav" [("class", "bg-dark-primary shadow-lg transition-colors duration-200")]
        [element "div"
          [("id", "navbar"),
            ("class", "container mx-auto px-4 py-3 flex justify-between items-center")]
          [element "a"
            [("href", "/"), ("class", "text-white hover:text-primary transition-colors"),
              ("aria-current", "page")]
            [text "Home"],
          element "button"
            [("class", "p-2 rounded-lg bg-gray-700 hover:bg-gray-600 transition-colors"),
              ("title", "Toggle theme")]
            [text "🌞"]]],
      element "div" [("class", "container mx-auto p-4")]
        [element "h1" [("class", "text-2xl font-bold mb-4")] [text "Dark Toggle"],
          element "p" [("class", "text-gray-600")]
            [text "Dark theme is on. It lasts until the browser session ends."]]]]

theorem root_light : root .light "" = lightPage := rfl

theorem root_dark (darkClass : String) : root .dark darkClass = darkPage darkClass := rfl

/-! ## The markup -/

theorem opening_root (rootClass : String) :
    opening "div" [("id", "root"), ("class", rootClass)] =
      "<div id=\"root\" class=\"" ++ rootClass ++ "\">" := by
  have hend : "\">" = "\"" ++ ">" := rfl
  simp only [opening, renderAttribute, String.join, List.map, List.foldl, hend,
    ← String.append_assoc]
  rfl

-- the texts are compared sign by sign
set_option maxRecDepth 4000 in
/-- The markup of the light page, tag by tag. -/
theorem render_lightPage : lightPage.render =
    "<div id=\"root\" class=\"\">" ++ "<div>" ++
      "<nav class=\"bg-white shadow-lg transition-colors duration-200\">" ++
      ("<div id=\"navbar\"" ++
        " class=\"container mx-auto px-4 py-3 flex justify-between items-center\">") ++
      ("<a href=\"/\" class=\"text-gray-800 hover:text-primary transition-colors\"" ++
        " aria-current=\"page\">") ++ "Home" ++ "</a>" ++
      ("<button class=\"p-2 rounded-lg bg-gray-200 hover:bg-gray-300 transition-colors\"" ++
        " title=\"Toggle theme\">") ++ "🌙" ++ "</button>" ++ "</div>" ++ "</nav>" ++
      "<div class=\"container mx-auto p-4\">" ++
      "<h1 class=\"text-2xl font-bold mb-4\">" ++ "Dark Toggle" ++ "</h1>" ++
      "<p class=\"text-gray-600\">" ++ "Use the moon button to switch to the dark theme." ++
      "</p>" ++ "</div>" ++ "</div>" ++ "</div>" := by
  conv =>
    lhs
    simp only [lightPage, render_element, render_text, renderAll, String.append_empty,
      ← String.append_assoc]
  rfl

set_option maxRecDepth 4000 in
/-- The markup of the dark page, tag by tag. Nothing in the class is escaped. -/
theorem render_darkPage (darkClass : String) : (darkPage darkClass).render =
    "<div id=\"root\" class=\"" ++ darkClass ++ "\">" ++ "<div>" ++
      "<nav class=\"bg-dark-primary shadow-lg transition-colors duration-200\">" ++
      ("<div id=\"navbar\"" ++
        " class=\"container mx-auto px-4 py-3 flex justify-between items-center\">") ++
      ("<a href=\"/\" class=\"text-white hover:text-primary transition-colors\"" ++
        " aria-current=\"page\">") ++ "Home" ++ "</a>" ++
      ("<button class=\"p-2 rounded-lg bg-gray-700 hover:bg-gray-600 transition-colors\"" ++
        " title=\"Toggle theme\">") ++ "🌞" ++ "</button>" ++ "</div>" ++ "</nav>" ++
      "<div class=\"container mx-auto p-4\">" ++
      "<h1 class=\"text-2xl font-bold mb-4\">" ++ "Dark Toggle" ++ "</h1>" ++
      "<p class=\"text-gray-600\">" ++
      "Dark theme is on. It lasts until the browser session ends." ++
      "</p>" ++ "</div>" ++ "</div>" ++ "</div>" := by
  conv =>
    lhs
    simp only [darkPage, render_element, opening_root, render_text, renderAll,
      String.append_empty, ← String.append_assoc]
  rfl

/-- No class makes the dark page look like the light one, as they end in different sentences. -/
theorem render_darkPage_ne (darkClass : String) :
    (darkPage darkClass).render ≠ lightPage.render := by
  have hsentences (front front' : String) :
      front ++ "Dark theme is on. It lasts until the browser session ends." ≠
        front' ++ "Use the moon button to switch to the dark theme." := by
    intro h
    have hend := congrArg (fun s => s.toList.reverse[1]?) h
    simp at hend
  intro h
  rw [render_darkPage, render_lightPage] at h
  simp only [String.append_left_inj] at h
  exact hsentences _ _ h

end Page
end ThemeSwitch
