import ThemeSwitch.Cookie.Jar
import ThemeSwitch.ClassList

/-! # Documents

What a controller works on: a cookie jar and a class list, reached by four calls. A document can be
told to let any of the calls fail, or to take writes of cookies without carrying them out. -/
namespace ThemeSwitch
open Cookie

/-- A call on a document, with what it was given. -/
inductive Call
  | readCookies
  | writeCookie (directive : String)
  | hasClass (name : String)
  | setClass (name : String) (present : Bool)
deriving DecidableEq, Repr

/-- The calls by name alone. -/
inductive Call.Kind
  | readCookies
  | writeCookie
  | hasClass
  | setClass
deriving DecidableEq, Repr

def Call.kind : Call → Kind
  | readCookies => .readCookies
  | writeCookie _ => .writeCookie
  | hasClass _ => .hasClass
  | setClass .. => .setClass

structure Document where
  jar : Jar := .empty
  classes : ClassList := .empty
  /-- What the calls of a kind fail with, where they fail. -/
  fault : Call.Kind → Option Failure := fun _ => none
  /-- Cookies that are written get lost without a sign. -/
  dropsWrites : Bool := false

namespace Document

/-- From now on the calls of that kind fail so, or work again. -/
def setFault (d : Document) (kind : Call.Kind) (failure : Option Failure) : Document :=
  { d with fault := fun k => if k = kind then failure else d.fault k }

end Document
end ThemeSwitch
