/-! # Environments: variables and their values

A value is a row of bytes, which need not be text. What reads a variable as text takes one whose
bytes are not UTF-8 for unset. -/
namespace ThemeSwitch

/-- Names with their values; the first binding of a name counts. -/
structure Environment where
  bindings : List (String × ByteArray)

namespace Environment

def empty : Environment := ⟨[]⟩

def get? (env : Environment) (name : String) : Option ByteArray := env.bindings.lookup name

/-- The value as text, if there is one and it is UTF-8. -/
def text? (env : Environment) (name : String) : Option String :=
  (env.get? name).bind String.fromUTF8?

def setBytes (env : Environment) (name : String) (value : ByteArray) : Environment :=
  ⟨(name, value) :: env.bindings⟩

def set (env : Environment) (name value : String) : Environment := env.setBytes name value.toUTF8

theorem fromUTF8?_toUTF8 (s : String) : String.fromUTF8? s.toUTF8 = some s := by
  simp [String.fromUTF8?, String.fromUTF8, s.isValidUTF8]

theorem get?_setBytes (env : Environment) (name other : String) (value : ByteArray) :
    (env.setBytes name value).get? other = if other = name then some value else env.get? other := by
  by_cases h : other = name
  · simp [get?, setBytes, h]
  · simp [get?, setBytes, List.lookup_cons, h, beq_eq_false_iff_ne.2 h]

theorem get?_set (env : Environment) (name value other : String) :
    (env.set name value).get? other = if other = name then some value.toUTF8 else env.get? other :=
  get?_setBytes env name other value.toUTF8

theorem text?_set (env : Environment) (name value other : String) :
    (env.set name value).text? other = if other = name then some value else env.text? other := by
  by_cases h : other = name
  · simp only [text?, get?_set, h, if_true, Option.bind_some, fromUTF8?_toUTF8]
  · simp only [text?, get?_set, h, if_false]

end Environment
end ThemeSwitch
