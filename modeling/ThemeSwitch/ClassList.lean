import ThemeSwitch.Text.Blank
import ThemeSwitch.Failure

/-! # Class lists

The classes of an element: distinct tokens in the order in which they came, where a token is not
empty and holds no blank. Written with single spaces between the tokens, and read back from any
text by its words. -/
namespace ThemeSwitch
open Text

/-- A text that can be one class among others. -/
def IsToken (name : String) : Prop := name ≠ "" ∧ ∀ c ∈ name.toList, isBlank c = false

instance (name : String) : Decidable (IsToken name) :=
  decidable_of_iff (name ≠ "" ∧ name.toList.all (!isBlank ·) = true) (by simp [IsToken])

structure ClassList where
  classes : List String
  nodup : classes.Nodup
  isToken : ∀ name ∈ classes, IsToken name
deriving DecidableEq

namespace ClassList

def empty : ClassList := ⟨[], .nil, by simp⟩

theorem nodup_eraseDups (names : List String) : names.eraseDups.Nodup := by
  induction h : names.length using Nat.strongRecOn generalizing names with
  | _ n ih =>
    cases names with
    | nil => simp
    | cons a as =>
      rw [List.eraseDups_cons, List.nodup_cons]
      refine ⟨by simp [List.mem_eraseDups], ih _ ?_ _ rfl⟩
      have := List.length_filter_le (fun b => !b == a) as
      grind

/-- The words of a text, each once, at its first place. -/
def ofString (raw : String) : ClassList where
  classes := ((words raw.toList).map String.ofList).eraseDups
  nodup := nodup_eraseDups _
  isToken name hn := by
    obtain ⟨w, hw, rfl⟩ := List.mem_map.1 (List.mem_eraseDups.1 hn)
    simpa [IsToken, String.ext_iff] using of_mem_words hw

def text (list : ClassList) : String := " ".intercalate list.classes

def contains (list : ClassList) (name : String) : Bool := list.classes.contains name

/-- Adds the class at the end, unless it is there. -/
def insert (list : ClassList) (name : String) (h : IsToken name) : ClassList :=
  if hn : name ∈ list.classes then list
  else
    { classes := list.classes ++ [name]
      nodup := List.nodup_append.2 ⟨list.nodup, by simp, by
        rintro a ha b hb rfl
        exact hn (List.mem_singleton.1 hb ▸ ha)⟩
      isToken := by simpa [or_imp, forall_and, h] using list.isToken }

def erase (list : ClassList) (name : String) : ClassList where
  classes := list.classes.erase name
  nodup := list.nodup.erase name
  isToken n hn := list.isToken n (List.mem_of_mem_erase hn)

/-- Adds or removes a class; refused where the text is no token, also when it is to be removed. -/
def set (list : ClassList) (name : String) (present : Bool) : Except Failure ClassList :=
  if h : IsToken name then .ok (if present then list.insert name h else list.erase name)
  else .error ⟨.classList, "invalid class token " ++ quoted name⟩

end ClassList
end ThemeSwitch
