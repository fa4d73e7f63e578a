import ThemeSwitch.Config.FromEnvironment
import ThemeSwitch.Controller.Basic
import ThemeSwitch.Page.View

/-! # The page and its clicks

A page takes up the configuration of its environment when it is mounted. If that fails it stays
light, and its toggle button only logs that there is no controller. The theme that it shows is
always one that the controller returned. -/
namespace ThemeSwitch
open Log

structure Page where
  /-- The configuration of the controller, where one is attached. -/
  config : Option Config
  document : Document
  theme : Theme

/-- What can be clicked: the toggle button, and the link to the page itself. -/
inductive Click
  | toggle
  | home
deriving DecidableEq, Repr

/-- What is seen of a page at one time: its markup, and what was logged since the last time. -/
structure Frame where
  html : String
  events : List Event

namespace Page

/-- Carries out a controller's action; the page then shows the theme that it returned. -/
def act (page : Page) (action : Action Theme) (failed : Failure → Event) : Page × List Event :=
  let outcome := action page.document
  match outcome.result with
  | .ok theme => ({ page with document := outcome.document, theme }, outcome.events)
  | .error failure =>
    ({ page with document := outcome.document }, outcome.events ++ [failed failure])

/-- The page as it is once it has been mounted. -/
def mount (env : Environment) : Page × List Event :=
  let (loaded, events) := Config.ofEnvironment env
  match loaded.bind Controller.attach with
  | .ok (config, attached) =>
    let (page, applied) := act ⟨some config, {}, default⟩ (Controller.apply config) .applyFailed
    (page, events ++ attached ++ applied)
  | .error failure => (⟨none, {}, default⟩, events ++ [.unavailable failure])

/-- The page after a click at the given second. -/
def click (page : Page) (now : Int) : Click → Page × List Event
  | .home => (page, [])
  | .toggle =>
    match page.config with
    | some config => act page (Controller.toggle config now) .toggleFailed
    | none => (page, [.toggleFailed .notAttached])

/-- Class of the root element, which only a page with a controller has. -/
def rootClass (page : Page) : String :=
  match page.config with
  | some config => page.theme.rootClass config.darkClass
  | none => ""

def html (page : Page) : String := (root page.theme page.rootClass).render

/-- The frames after each of the clicks, every click at its own second. -/
def follow (page : Page) : List (Int × Click) → List Frame
  | [] => []
  | (now, c) :: rest =>
    let (next, events) := page.click now c
    ⟨next.html, events⟩ :: follow next rest

/-- The frame after mounting, and one after each click. -/
def frames (env : Environment) (clicks : List (Int × Click)) : List Frame :=
  let (page, events) := mount env
  ⟨page.html, events⟩ :: page.follow clicks

end Page
end ThemeSwitch
