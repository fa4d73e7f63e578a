import ThemeSwitch.Text.Blank
import ThemeSwitch.Text.Cut

/-! # Cookie pairs and the text that lists them

A cookie is a name and a value. Only some names can be written as `name=value` and read back: they
are not empty, have no blank at either end, and hold neither `;` nor `=`. A `Pair` keeps these
conditions, and each one that `Pair.parse` reads satisfies them. -/
namespace ThemeSwitch.Cookie
open Text

/-- The name reads back from a text `name=value`, alone or among others. -/
def Carriable (name : String) : Prop :=
  name ≠ "" ∧ Trimmed name.toList ∧ ';' ∉ name.toList ∧ '=' ∉ name.toList

instance (name : String) : Decidable (Carriable name) := inferInstanceAs (Decidable (_ ∧ _))

/-- The value reads back from a text `name=value`, alone or among others. -/
def Holdable (value : String) : Prop := Trimmed value.toList ∧ ';' ∉ value.toList

instance (value : String) : Decidable (Holdable value) := inferInstanceAs (Decidable (_ ∧ _))

structure Pair where
  name : String
  value : String
  carriable : Carriable name
  holdable : Holdable value
deriving DecidableEq

/-- Why a text holds no pair. -/
inductive Malformed
  | noPair
  | emptyName
deriving DecidableEq, Repr

def Malformed.message : Malformed → String
  | .noPair => "the cookie is missing a name/value pair"
  | .emptyName => "the cookie's name is empty"

namespace Pair

/-- The pair at the head of a directive: what stands before the first `;`, cut at its first `=`,
both sides trimmed. Quotes and percent signs mean nothing. -/
def parse (text : List Char) : Except Malformed Pair :=
  match h : cut '=' (before ';' text) with
  | none => .error .noPair
  | some (name, value) =>
    if hn : trim name = [] then .error .emptyName
    else
      have hs := cut_eq_some_iff.1 h
      have free : ';' ∉ name ++ '=' :: value := hs.1 ▸ not_mem_before ';' text
      .ok {
        name := String.ofList (trim name)
        value := String.ofList (trim value)
        carriable := by
          refine ⟨by simpa [String.ext_iff] using hn, by simp [trimmed_trim], ?_, ?_⟩
          · simpa using fun m => free (List.mem_append_left _ (mem_of_mem_trim m))
          · simpa using fun m => hs.2 (mem_of_mem_trim m)
        holdable := by
          refine ⟨by simp [trimmed_trim], ?_⟩
          simpa using fun m => free (by simp [mem_of_mem_trim m]) }

/-- The written form of a pair. -/
def text (p : Pair) : String := p.name ++ "=" ++ p.value

/-- The pairs of a cookie text, in order; pieces between semicolons that hold no pair are
passed over. -/
def list (raw : String) : List Pair :=
  (raw.toList.splitOn ';').filterMap fun piece => (parse piece).toOption

end Pair

/-- The value of the first cookie of that name in a cookie text. -/
def value? (raw name : String) : Option String :=
  ((Pair.list raw).find? (·.name == name)).map (·.value)

end ThemeSwitch.Cookie
