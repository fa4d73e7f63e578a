import ThemeSwitch.Document
import ThemeSwitch.Log.Event

/-! # Actions on documents

An action runs on a document and may fail; it then leaves what it did before the failure. Its
outcome lists the calls that it made on the document, each with what became of it, and the events
that it logged, in order. -/
namespace ThemeSwitch
open Cookie Log

/-- A call that was made, and what it failed with, if it did. -/
structure Made where
  call : Call
  failure : Option Failure
deriving DecidableEq, Repr

structure Outcome (α : Type) where
  result : Except Failure α
  document : Document
  calls : List Made
  events : List Event

def Action (α : Type) : Type := Document → Outcome α

namespace Action

variable {α β : Type}

def done (a : α) : Action α := fun d => ⟨.ok a, d, [], []⟩

/-- Goes on with the result of an action, unless that failed. -/
def andThen (x : Action α) (f : α → Action β) : Action β := fun d =>
  let first := x d
  match first.result with
  | .error failure => ⟨.error failure, first.document, first.calls, first.events⟩
  | .ok a =>
    let second := f a first.document
    ⟨second.result, second.document, first.calls ++ second.calls, first.events ++ second.events⟩

instance : Monad Action where
  pure := done
  bind := andThen

def log (event : Event) : Action Unit := fun d => ⟨.ok (), d, [], [event]⟩

/-- Makes a call on the document: it fails if calls of its kind do, and otherwise does as told. -/
def call (c : Call) (work : Document → Except Failure α × Document × List Event) : Action α :=
  fun d =>
    match d.fault c.kind with
    | some failure => ⟨.error failure, d, [⟨c, failure⟩], []⟩
    | none =>
      match work d with
      | (.ok a, document, events) => ⟨.ok a, document, [⟨c, none⟩], events⟩
      | (.error failure, document, events) =>
        ⟨.error failure, document, [⟨c, failure⟩], events⟩

/-- The cookie text. -/
def readCookies : Action String := call .readCookies fun d => (.ok d.jar.text, d, [])

/-- Hands a directive to the jar at the given second. -/
def writeCookie (now : Int) (directive : String) : Action Unit :=
  call (.writeCookie directive) fun d =>
    if d.dropsWrites then (.ok (), d, [])
    else
      let (jar, refusal) := d.jar.set now directive
      (.ok (), { d with jar }, (refusal.map (.directiveIgnored directive)).toList)

def hasClass (name : String) : Action Bool :=
  call (.hasClass name) fun d => (.ok (d.classes.contains name), d, [])

def setClass (name : String) (present : Bool) : Action Unit :=
  call (.setClass name present) fun d =>
    match d.classes.set name present with
    | .ok classes => (.ok (), { d with classes }, [])
    | .error failure => (.error failure, d, [])

end Action
end ThemeSwitch
