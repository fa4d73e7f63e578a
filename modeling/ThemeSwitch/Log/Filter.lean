import ThemeSwitch.Log.Event
import ThemeSwitch.Pattern.Parser
import ThemeSwitch.Pattern.Search

/-! # Log filters

A filter lets an event through by its level, its source and its message. It is written as a list of
rules with commas between them, and after a slash a pattern that messages must match. -/
namespace ThemeSwitch.Log
open Text

/-- The gravest levels up to this one pass, or none at all. -/
abbrev Threshold := Option Level

def Threshold.admits (threshold : Threshold) (level : Level) : Bool :=
  threshold.any fun most => level.rank ≤ most.rank

/-- The threshold of a name, in whatever case. -/
def Threshold.ofName? (name : List Char) : Option Threshold :=
  match String.ofList (name.map Char.toLower) with
  | "off" => some none
  | "error" => some (some .error)
  | "warn" => some (some .warn)
  | "info" => some (some .info)
  | "debug" => some (some .debug)
  | "trace" => some (some .trace)
  | _ => none

/-- A threshold for the targets that begin with the name, or for all of them. -/
structure Rule where
  name : Option String
  threshold : Threshold
deriving DecidableEq

namespace Rule

/-- A rule from its text: a level, a name, or a name and a level with an equals sign between. -/
def parse? (text : List Char) : Option Rule :=
  match text.splitOn '=' with
  | [only] =>
    match Threshold.ofName? only with
    | some threshold => some ⟨none, threshold⟩
    | none => some ⟨some (String.ofList only), some .trace⟩
  | [name, level] =>
    if trim level = [] then some ⟨some (String.ofList name), some .trace⟩
    else
      (Threshold.ofName? (trim level)).map fun threshold => ⟨some (String.ofList name), threshold⟩
  | _ => none

/-- Length of the name in bytes; rules for all targets count as the shortest. -/
def length (rule : Rule) : Nat := (rule.name.map String.utf8ByteSize).getD 0

def covers (rule : Rule) (target : String) : Bool :=
  rule.name.all fun name => name.toList.isPrefixOf target.toList

end Rule

structure Filter where
  rules : List Rule
  pattern : Option Pattern

namespace Filter

/-- Adds a rule at the end, or in the place of the rule with its name. -/
def addRule (rules : List Rule) (rule : Rule) : List Rule :=
  if rules.any (·.name == rule.name) then
    rules.map fun other => if other.name == rule.name then rule else other
  else rules ++ [rule]

/-- The rules in a text; those that are bad are passed over. -/
def readRules (text : List Char) : List Rule :=
  (((text.splitOn ',').map trim).filter (!·.isEmpty)).filterMap Rule.parse?

/-- The rules in the order in which they are tried: the longest names first, and of names of one
length the later one. Where there is no rule, errors pass. -/
def ordered (rules : List Rule) : List Rule :=
  match rules.foldl addRule [] with
  | [] => [⟨none, some .error⟩]
  | rules => (rules.mergeSort fun a b => a.length ≤ b.length).reverse

def parse (text : String) : Filter :=
  match text.toList.splitOn '/' with
  | [rules] => ⟨ordered (readRules rules), none⟩
  | [rules, pattern] => ⟨ordered (readRules rules), Pattern.parse? (String.ofList pattern)⟩
  | _ => ⟨ordered [], none⟩

/-- The event passes: the first rule for its target admits its level, and its message matches. -/
def admits (filter : Filter) (event : Event) : Bool :=
  match filter.rules.find? (·.covers event.source.target) with
  | some rule =>
    rule.threshold.admits event.level &&
      filter.pattern.all (·.isFoundIn event.message.toList)
  | none => false

end Filter
end ThemeSwitch.Log
