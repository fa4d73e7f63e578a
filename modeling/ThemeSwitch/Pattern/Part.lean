import ThemeSwitch.Pattern.Basic

/-! # Parts of a pattern

A part of a pattern with its height: how many classes, repetitions, groups, choices and sequences
are written within each other. -/
namespace ThemeSwitch.Pattern

/-- The height of what several things stand in together, given their heights; a thing that stands
alone keeps its own. -/
def heightOver : List Nat → Nat
  | [] => 0
  | [height] => height
  | heights => heights.foldl max 0 + 1

structure Part where
  pattern : Pattern
  height : Nat := 0

namespace Part

def repeated (p : Part) (least : Nat) (most : Option Nat) (greedy : Bool) : Part :=
  ⟨p.pattern.repeated least most greedy, p.height + 1⟩

/-- The part in parentheses, as a group if it has a number among these. -/
def inParentheses (p : Part) : Option Nat → Part
  | some number => ⟨group number p.pattern, p.height + 1⟩
  | none => ⟨p.pattern, p.height + 1⟩

def sequence (ps : List Part) : Part :=
  ⟨Pattern.sequence (ps.map (·.pattern)), heightOver (ps.map (·.height))⟩

def anyOf : List Part → Part
  | [p] => p
  | ps => ⟨Pattern.anyOf (ps.map (·.pattern)), heightOver (ps.map (·.height))⟩

end Part
end ThemeSwitch.Pattern
