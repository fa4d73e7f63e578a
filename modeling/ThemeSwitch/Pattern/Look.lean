import ThemeSwitch.Unicode.Property.Ascii
import ThemeSwitch.Unicode.Property.Binary

/-! # Conditions on places

A place of a text is a gap before, between or after its characters. Whether a condition holds there
depends on the two characters next to it, where there are any. -/
namespace ThemeSwitch.Pattern
open Unicode

/-- How a place stands to the words beside it. -/
inductive WordEdge
  /-- A part of a word on exactly one side. -/
  | edge
  | noEdge
  | start
  | stop
  /-- No part of a word before the place. -/
  | halfStart
  /-- No part of a word after it. -/
  | halfStop
deriving DecidableEq

inductive Look
  | textStart
  | textEnd
  /-- Lines end in newlines, or with `crlf` also in carriage returns and in both together. -/
  | lineStart (crlf : Bool)
  | lineEnd (crlf : Bool)
  | word (kind : WordEdge) (unicode : Bool)
deriving DecidableEq

def WordEdge.holds (before after : Bool) : WordEdge → Bool
  | edge => before != after
  | noEdge => before == after
  | start => !before && after
  | stop => before && !after
  | halfStart => !before
  | halfStop => !after

/-- The condition holds between two characters. -/
def Look.holds (condition : Look) (before after : Option Char) : Bool :=
  match condition with
  | textStart => before.isNone
  | textEnd => after.isNone
  | lineStart crlf =>
    before.all fun c => c == '\n' || (crlf && c == '\r' && after != some '\n')
  | lineEnd crlf =>
    after.all fun c =>
      if crlf then c == '\r' || (c == '\n' && before != some '\r') else c == '\n'
  | word kind unicode =>
    let parts := if unicode then CharSet.wordParts else CharSet.asciiWordParts
    kind.holds (before.any parts.contains) (after.any parts.contains)

end ThemeSwitch.Pattern
