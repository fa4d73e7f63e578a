import ThemeSwitch.Unicode.Category
import ThemeSwitch.Unicode.CharSet

/-! # Sets of general categories

The named sets of characters follow version 16 of the standard, which has fewer characters than the
table of categories, and the category of one letter is another there. -/
namespace ThemeSwitch.Unicode.CharSet

/-- The characters that have no category in version 16. -/
def added : CharSet := ofSpans [
  (0x88F, 0x88F), (0xC5C, 0xC5C), (0xCDC, 0xCDC), (0x1ACF, 0x1ADD), (0x1AE0, 0x1AEB),
  (0x20C1, 0x20C1), (0x2B96, 0x2B96), (0xA7CE, 0xA7CF), (0xA7D2, 0xA7D2), (0xA7D4, 0xA7D4),
  (0xA7F1, 0xA7F1), (0xFBC3, 0xFBD2), (0xFD90, 0xFD91), (0xFDC8, 0xFDCE), (0x10940, 0x10959),
  (0x10EC5, 0x10EC7), (0x10ED0, 0x10ED8), (0x10EFA, 0x10EFB), (0x11B60, 0x11B67),
  (0x11DB0, 0x11DDB), (0x11DE0, 0x11DE9), (0x16EA0, 0x16EB8), (0x16EBB, 0x16ED3),
  (0x16FF2, 0x16FF6), (0x187F8, 0x187FF), (0x18D09, 0x18D1E), (0x18D80, 0x18DF2),
  (0x1CCFA, 0x1CCFC), (0x1CEBA, 0x1CED0), (0x1CEE0, 0x1CEF0), (0x1E6C0, 0x1E6DE),
  (0x1E6E0, 0x1E6F5), (0x1E6FE, 0x1E6FF), (0x1F6D8, 0x1F6D8), (0x1F777, 0x1F77A),
  (0x1F8D0, 0x1F8D8), (0x1FA54, 0x1FA57), (0x1FA8A, 0x1FA8A), (0x1FA8E, 0x1FA8E),
  (0x1FAC8, 0x1FAC8), (0x1FACD, 0x1FACD), (0x1FAEA, 0x1FAEA), (0x1FAEF, 0x1FAEF),
  (0x1FBFA, 0x1FBFA), (0x2B73A, 0x2B73F), (0x2CEA2, 0x2CEAD), (0x323B0, 0x33479)]

/-- The cuts of the stretches whose category is one of the given ones, where those before the
first stretch are `inside` or not. -/
def categoryCuts (categories : List Category) (inside : Bool) : List (Nat × Category) → List Nat
  | [] => []
  | (start, category) :: starts =>
    if categories.contains category = inside then categoryCuts categories inside starts
    else start :: categoryCuts categories (!inside) starts

/-- The characters of some categories. -/
def ofCategories (categories : List Category) : CharSet :=
  let known := diff (inter ⟨categoryCuts categories false categoryStarts.toList⟩ all)
    (union added (single 'ʕ'))
  let assigned := if categories.contains .ll then union known (single 'ʕ') else known
  if categories.contains .cn then union assigned added else assigned

/-- General categories and groups of them, with their short and their long names. -/
def categoryNames : List (List String × List Category) := [
  (["lu", "uppercaseletter"], [.lu]), (["ll", "lowercaseletter"], [.ll]),
  (["lt", "titlecaseletter"], [.lt]), (["lm", "modifierletter"], [.lm]),
  (["lo", "otherletter"], [.lo]), (["lc", "casedletter"], [.lu, .ll, .lt]),
  (["l", "letter"], [.lu, .ll, .lt, .lm, .lo]),
  (["mn", "nonspacingmark"], [.mn]), (["mc", "spacingmark"], [.mc]),
  (["me", "enclosingmark"], [.me]), (["m", "mark", "combiningmark"], [.mn, .mc, .me]),
  (["nd", "decimalnumber", "digit"], [.nd]), (["nl", "letternumber"], [.nl]),
  (["no", "othernumber"], [.no]), (["n", "number"], [.nd, .nl, .no]),
  (["pc", "connectorpunctuation"], [.pc]), (["pd", "dashpunctuation"], [.pd]),
  (["ps", "openpunctuation"], [.ps]), (["pe", "closepunctuation"], [.pe]),
  (["pi", "initialpunctuation"], [.pi]), (["pf", "finalpunctuation"], [.pf]),
  (["po", "otherpunctuation"], [.po]),
  (["p", "punctuation", "punct"], [.pc, .pd, .ps, .pe, .pi, .pf, .po]),
  (["sm", "mathsymbol"], [.sm]), (["sc", "currencysymbol"], [.sc]),
  (["sk", "modifiersymbol"], [.sk]), (["so", "othersymbol"], [.so]),
  (["s", "symbol"], [.sm, .sc, .sk, .so]),
  (["zs", "spaceseparator"], [.zs]), (["zl", "lineseparator"], [.zl]),
  (["zp", "paragraphseparator"], [.zp]), (["z", "separator"], [.zs, .zl, .zp]),
  (["cc", "control", "cntrl"], [.cc]), (["cf", "format"], [.cf]),
  (["co", "privateuse"], [.co]), (["cn", "unassigned"], [.cn]),
  (["c", "other"], [.cc, .cf, .co, .cn])]

/-- The characters of a category or a group of categories by its name, in small letters and
without separators. -/
def ofCategoryName? (name : String) : Option CharSet :=
  match name with
  | "any" => some all
  | "ascii" => some ascii
  | "assigned" => some (compl (ofCategories [.cn]))
  | _ => (categoryNames.find? (·.1.contains name)).map fun row => ofCategories row.2

end ThemeSwitch.Unicode.CharSet
