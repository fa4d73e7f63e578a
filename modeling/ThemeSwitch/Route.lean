import ThemeSwitch.Text.Digits

/-! # Routes

The page has one route, `/`. A path is read without its fragment and its query, segment by segment,
each percent-decoded. -/
namespace ThemeSwitch

inductive Route
  | home
deriving DecidableEq, Repr

namespace Route

/-- Every route without parameters. -/
def static : List Route := [home]

def path : Route → String
  | home => "/"

/-- The route one level up. -/
def parent? : Route → Option Route
  | home => none

/-- The route lies directly under the other one. -/
def isChildOf (route other : Route) : Bool := route.parent? == some other

/-- Bytes with the percent escapes carried out; a bad escape stands for itself. -/
def percentDecoded : List UInt8 → List UInt8
  | 0x25 :: a :: b :: rest =>
    match Text.hexadecimal? [.ofUInt8 a, .ofUInt8 b] with
    | some code => code.toUInt8 :: percentDecoded rest
    | none => 0x25 :: percentDecoded (a :: b :: rest)
  | b :: rest => b :: percentDecoded rest
  | [] => []

/-- A segment with its escapes carried out, unless that gives no text. -/
def decodedSegment (segment : List Char) : String :=
  let s := String.ofList segment
  (String.fromUTF8? ⟨(percentDecoded s.toUTF8.data.toList).toArray⟩).getD s

/-- Why a path leads nowhere. -/
inductive Mismatch
  | notAbsolute
  | trailing (segments : List String)
deriving DecidableEq, Repr

def Mismatch.message : Mismatch → String
  | notAbsolute => "Route did not match:\nAttempted Matches:\n"
  | trailing segments =>
    "Route did not match:\nAttempted Matches:\n1) Route 'Home' ('/') did not match:\n" ++
      "Found additional trailing segments: " ++ "/".intercalate segments ++ "\n"

/-- The path without its fragment and its query. -/
def bare (path : List Char) : List Char := (path.takeWhile (· != '#')).takeWhile (· != '?')

/-- The text without one slash at its end. -/
def dropLastSlash (cs : List Char) : List Char :=
  if cs.getLast? = some '/' then cs.dropLast else cs

def parse (path : String) : Except Mismatch Route :=
  match bare path.toList with
  | '/' :: rest =>
    match ((dropLastSlash ('/' :: rest)).splitOn '/').tail.map decodedSegment with
    | [] => .ok home
    | segments => .error (.trailing segments)
  | _ => .error .notAbsolute

end Route
end ThemeSwitch
