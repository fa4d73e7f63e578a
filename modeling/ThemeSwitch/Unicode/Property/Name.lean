import ThemeSwitch.Unicode.Property.Age
import ThemeSwitch.Unicode.Property.Break
import ThemeSwitch.Unicode.Property.ScriptExtension

/-! # Names of sets of characters

A set is named alone, as `Greek` or `Lu`, or as the value of a property, as in `Script=Greek`. -/
namespace ThemeSwitch.Unicode.CharSet

/-- A name without what does not count in it: the word `is` in front, blanks, hyphens, underscores
and the case of letters. The word `is` counts in `isc`. -/
def plainName (name : List Char) : String :=
  let short : List Char → List Char
    | c :: d :: rest => if c.toLower = 'i' ∧ d.toLower = 's' then rest else c :: d :: rest
    | rest => rest
  let plain := ((short name).filter fun c =>
    c ≠ ' ' ∧ c ≠ '_' ∧ c ≠ '-' ∧ c.toNat < 0x80).map Char.toLower
  String.ofList (if plain = ['c'] ∧ short name ≠ name then "isc".toList else plain)

/-- The set that is named alone: a property, a general category or a script. -/
def ofName? (name : List Char) : Option CharSet :=
  let name := plainName name
  (ofBinaryName? name).or ((ofCategoryName? name).or (ofScriptName? name))

/-- The set of the characters for which a property has a value. -/
def ofValue? (property value : List Char) : Option CharSet :=
  let value := plainName value
  match plainName property with
  | "gc" | "generalcategory" => ofCategoryName? value
  | "sc" | "script" => ofScriptName? value
  | "scx" | "scriptextensions" => ofExtensionName? value
  | "age" => ofAgeName? value
  | "gcb" | "graphemeclusterbreak" => ofBreakName? graphemeBreaks value
  | "wb" | "wordbreak" => ofBreakName? wordBreaks value
  | "sb" | "sentencebreak" => ofBreakName? sentenceBreaks value
  | _ => Option.none

end ThemeSwitch.Unicode.CharSet
