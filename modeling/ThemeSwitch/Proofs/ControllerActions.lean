import ThemeSwitch.Proofs.ControllerSwitch

/-! # What holds of all that a controller does

A controller reaches its document by four calls, and all that it does is composed of them and of
what it logs. A property of outcomes that these parts have, and that is kept when one action follows
another, is therefore a property of every operation. -/
namespace ThemeSwitch.Controller
open Log

/-- A property of outcomes, seen from the document before, that the parts of a controller's
operations have and that is kept when they are put together. -/
structure Inherited (config : Config) (now : Int)
    (P : {α : Type} → Document → Outcome α → Prop) : Prop where
  done {α : Type} (a : α) (d : Document) : P d ((pure a : Action α) d)
  log {event : Event} (h : event.level ≠ .error) (d : Document) : P d (Action.log event d)
  bind {α β : Type} {x : Action α} {f : α → Action β} (hx : ∀ d, P d (x d))
    (hf : ∀ a d, P d (f a d)) (d : Document) : P d ((x >>= f) d)
  readCookies (d : Document) : P d (Action.readCookies d)
  writeCookie (dark : Bool) (d : Document) :
    P d (Action.writeCookie now (Preference.directive config.cookieName dark) d)
  hasClass (d : Document) : P d (Action.hasClass config.darkClass d)
  setClass (present : Bool) (d : Document) : P d (Action.setClass config.darkClass present d)

namespace Inherited

variable {config : Config} {now : Int} {P : {α : Type} → Document → Outcome α → Prop}

theorem current (h : Inherited config now P) : ∀ d, P d (Controller.current config d) := by
  have hread : ∀ d, P d (Preference.read config.cookieName d) :=
    h.bind h.readCookies fun _ => h.bind (h.log (by simp [Event.level])) fun _ => h.done _
  exact h.bind hread fun _ => h.done _

theorem write (h : Inherited config now P) (dark : Bool) :
    ∀ d, P d (Preference.write now config.cookieName dark d) :=
  h.bind (h.log (by simp [Event.level])) fun _ => h.writeCookie dark

theorem apply (h : Inherited config now P) : ∀ d, P d (Controller.apply config d) := by
  refine h.bind h.current fun theme => h.bind h.hasClass fun present => ?_
  dsimp only
  split
  · refine h.bind (h.setClass _) fun _ => ?_
    exact h.bind (h.log (by simp [Event.level])) fun _ => h.done _
  · exact h.done _

theorem toggle (h : Inherited config now P) : ∀ d, P d (Controller.toggle config now d) :=
  h.bind h.current fun _ => h.bind (h.write _) fun _ =>
    h.bind (h.log (by simp [Event.level])) fun _ => h.apply

theorem set (h : Inherited config now P) (wanted : Theme) :
    ∀ d, P d (Controller.set config now wanted d) := by
  refine h.bind h.current fun theme => ?_
  dsimp only
  split
  · exact h.bind (h.write _) fun _ => h.apply
  · exact h.apply

theorem ask (h : Inherited config now P) (r : Request) : ∀ d, P d (r.ask config now d) := by
  cases r with
  | current => exact h.current
  | apply => exact h.apply
  | toggle => exact h.toggle
  | set wanted => exact h.set wanted

end Inherited
end ThemeSwitch.Controller
