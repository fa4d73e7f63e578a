import ThemeSwitch.Controller.Basic

/-! # Runs of a controller

A run is a list of steps: what the controller is asked to do, mixed with what happens to the
document behind its back. -/
namespace ThemeSwitch.Controller
open Cookie Log

inductive Step
  | current
  | apply
  | toggle
  | set (wanted : Theme)
  | readPreference
  | putCookie (directive : String)
  | putClass (name : String) (present : Bool)
  | dropWrites (on : Bool)
  | fault (kind : Call.Kind) (failure : Option Failure)
deriving DecidableEq, Repr

/-- What a step answers: a theme, a preference, or nothing. -/
inductive Answer
  | theme (theme : Theme)
  | preference (dark : Bool)
  | nothing
deriving DecidableEq, Repr

namespace Step

/-- A change of the document that makes no calls. -/
def behind (change : Document → Except Failure Document × List Event) : Action Answer := fun d =>
  match change d with
  | (.ok document, events) => ⟨.ok .nothing, document, [], events⟩
  | (.error failure, events) => ⟨.error failure, d, [], events⟩

/-- A step taken at the given second. -/
def perform (config : Config) (now : Int) : Step → Action Answer
  | current => .theme <$> Controller.current config
  | apply => .theme <$> Controller.apply config
  | toggle => .theme <$> Controller.toggle config now
  | set wanted => .theme <$> Controller.set config now wanted
  | readPreference => .preference <$> Preference.read config.cookieName
  | putCookie directive => behind fun d =>
    let (jar, refusal) := d.jar.set now directive
    (.ok { d with jar }, (refusal.map (.directiveIgnored directive)).toList)
  | putClass name present => behind fun d =>
    ((d.classes.set name present).map fun classes => { d with classes }, [])
  | dropWrites on => behind fun d => (.ok { d with dropsWrites := on }, [])
  | fault kind failure => behind fun d => (.ok (d.setFault kind failure), [])

end Step

/-- The outcomes of steps taken one after the other, each at its own second. -/
def run (config : Config) : List (Int × Step) → Document → List (Outcome Answer)
  | [], _ => []
  | (now, step) :: rest, d =>
    let outcome := step.perform config now d
    outcome :: run config rest outcome.document

end ThemeSwitch.Controller
