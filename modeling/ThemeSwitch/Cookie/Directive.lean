import ThemeSwitch.Cookie.Pair
import ThemeSwitch.Calendar.Stamp

/-! # Directives: a cookie pair with attributes

A directive is `name=value`, then attributes, each after a `;`. Only two attributes matter here:
`Max-Age`, a lifetime in seconds, and `Expires`, a written moment. Either may be given several
times; the last one that can be read counts, and a lifetime outweighs every moment. -/
namespace ThemeSwitch.Cookie
open Text Calendar

/-- What the attributes say about how long a cookie lives. -/
structure Lifetime where
  maxAge : Option Nat
  expires : Option Moment
deriving DecidableEq

/-- The longest lifetime, in seconds: lifetimes beyond it count as this one. -/
def longestAge : Nat := 0x7FFFFFFFFFFFFFFF

/-- Seconds of a `Max-Age` value. One minus sign in front makes it zero; anything but digits after
that and there is no lifetime; no digits at all stand for the longest one. -/
def ageOf? (value : List Char) : Option Nat :=
  match value with
  | '-' :: digits => if digits.all Char.isDigit then some 0 else none
  | [] => some longestAge
  | digits => if digits.all Char.isDigit then some (min (decimal digits) longestAge) else none

/-- What an attribute adds to the lifetime that those before it gave. -/
def Lifetime.add (life : Lifetime) (part : List Char) : Lifetime :=
  match cut '=' part with
  | none => life
  | some (key, value) =>
    match String.ofList ((trim key).map Char.toLower) with
    | "max-age" => { life with maxAge := ageOf? (trim value) <|> life.maxAge }
    | "expires" => { life with expires := parseMoment? (trim value) <|> life.expires }
    | _ => life

/-- The lifetime that a list of attributes gives. -/
def Lifetime.ofAttributes (parts : List (List Char)) : Lifetime :=
  parts.foldl Lifetime.add ⟨none, none⟩

/-- Nothing of the lifetime is left at the given second. -/
def Lifetime.isOver (life : Lifetime) (now : Int) : Bool :=
  match life.maxAge, life.expires with
  | some age, _ => age == 0
  | none, some moment => moment.unixSeconds ≤ now
  | none, none => false

structure Directive where
  pair : Pair
  lifetime : Lifetime
deriving DecidableEq

def Directive.parse (text : String) : Except Malformed Directive := do
  let pair ← Pair.parse text.toList
  return ⟨pair, .ofAttributes (text.toList.splitOn ';').tail⟩

/-- Keeps a value until the session ends. -/
def sessionDirective (name value : String) : String := name ++ "=" ++ value

/-- Overwrites a cookie with one that expired when 1970 began. -/
def expiredDirective (name : String) : String :=
  name ++ "=; Expires=Thu, 01 Jan 1970 00:00:00 GMT"

end ThemeSwitch.Cookie
