import ThemeSwitch.Calendar.Moment
import ThemeSwitch.Text.Digits

/-! # Written moments

The four forms in which a cookie's expiry may be written, each in Greenwich time:

* `Sun, 06 Nov 1994 08:49:37 GMT`
* `Sunday, 06-Nov-94 08:49:37 GMT`, with a year of two digits
* `Sun Nov  6 08:49:37 1994`
* `Sun, 06-Nov-1994 08:49:37 GMT`

The day of the week may be missing and need not be the right one. A form must fit the whole text,
letter case and single spaces included. -/
namespace ThemeSwitch.Calendar
open Text

/-- A reader takes a beginning of the text and gives what it found there with the rest. -/
abbrev Reader := StateT (List Char) Option

namespace Reader

def literal (word : String) : Reader Unit := fun cs =>
  if word.toList.isPrefixOf cs then some ((), cs.drop word.length) else none

/-- The position in the list of the first word that the text begins with. -/
def wordOf (words : List String) : Reader Nat := fun cs =>
  match words.findIdx? fun w => w.toList.isPrefixOf cs with
  | some i => some (i, cs.drop (words.getD i "").length)
  | none => none

/-- Takes what the reader takes, or nothing where it fails. -/
def perhaps (r : Reader Unit) : Reader Unit := fun cs => some ((r cs).getD ((), cs))

def digit : Reader Nat
  | c :: cs => if c.isDigit then some (digitValue c, cs) else none
  | [] => none

def twoDigits : Reader Nat := do
  let tens ← digit
  let ones ← digit
  return 10 * tens + ones

/-- Two digits, of which a blank may stand for the first. -/
def paddedDigits : Reader Nat
  | ' ' :: cs => digit cs
  | cs => twoDigits cs

/-- Up to `n` digits, at least one, as many as there are. -/
def digitsUpTo (n : Nat) : Reader Nat := fun cs =>
  match (cs.take n).takeWhile Char.isDigit with
  | [] => none
  | ds => some (decimal ds, cs.drop ds.length)

/-- One to four digits with or without a sign. -/
def signedYear : Reader Int
  | '+' :: cs => (digitsUpTo 4 cs).map fun p => ((p.1 : Int), p.2)
  | '-' :: cs => (digitsUpTo 4 cs).map fun p => (-(p.1 : Int), p.2)
  | cs => (digitsUpTo 4 cs).map fun p => ((p.1 : Int), p.2)

end Reader

open Reader

def shortDays : List String := ["Sun", "Mon", "Tue", "Wed", "Thu", "Fri", "Sat"]

def longDays : List String :=
  ["Sunday", "Monday", "Tuesday", "Wednesday", "Thursday", "Friday", "Saturday"]

def shortMonths : List String :=
  ["Jan", "Feb", "Mar", "Apr", "May", "Jun", "Jul", "Aug", "Sep", "Oct", "Nov", "Dec"]

def monthName : Reader Nat := (· + 1) <$> wordOf shortMonths

/-- Years below 70 are of the twenty-first century, other years below 100 of the twentieth. -/
def fullYear (year : Int) : Int :=
  if 0 ≤ year ∧ year < 70 then year + 2000
  else if 70 ≤ year ∧ year < 100 then year + 1900
  else year

/-- The fields of a written moment, before it is known whether there is such a moment. -/
structure Fields where
  year : Int
  month : Nat
  day : Nat
  hour : Nat
  minute : Nat
  second : Nat

def Fields.moment? (f : Fields) : Option Moment := do
  let date ← Date.of? (fullYear f.year) f.month f.day
  Moment.of? date f.hour f.minute f.second

def timeOfDay : Reader (Nat × Nat × Nat) := do
  let hour ← twoDigits
  literal ":"
  let minute ← twoDigits
  literal ":"
  let second ← twoDigits
  return (hour, minute, second)

/-- A date of day, month and year with the given mark between them, then the time. -/
def dayFirst (weekdays : List String) (mark : String) (year : Reader Int) : Reader Fields := do
  perhaps (do let _ ← wordOf weekdays; literal ", ")
  let day ← twoDigits
  literal mark
  let month ← monthName
  literal mark
  let year ← year
  literal " "
  let (hour, minute, second) ← timeOfDay
  literal " GMT"
  return ⟨year, month, day, hour, minute, second⟩

/-- Month and day, then the time, then the year. -/
def monthFirst : Reader Fields := do
  perhaps (do let _ ← wordOf shortDays; literal " ")
  let month ← monthName
  literal " "
  let day ← paddedDigits
  literal " "
  let (hour, minute, second) ← timeOfDay
  literal " "
  let year ← signedYear
  return ⟨year, month, day, hour, minute, second⟩

/-- The moment that a form reads from a whole text. -/
def momentBy (form : Reader Fields) (text : List Char) : Option Moment :=
  match form text with
  | some (fields, []) => fields.moment?
  | _ => none

/-- The moment written in the text, by the first of the four forms that fits. -/
def parseMoment? (text : List Char) : Option Moment :=
  momentBy (dayFirst shortDays " " signedYear) text <|>
  momentBy (dayFirst longDays "-" ((↑·) <$> twoDigits)) text <|>
  momentBy monthFirst text <|>
  momentBy (dayFirst shortDays "-" signedYear) text

end ThemeSwitch.Calendar
