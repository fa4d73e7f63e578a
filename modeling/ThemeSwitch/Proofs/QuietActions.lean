import ThemeSwitch.Proofs.ControllerActions

/-! # Errors are returned, not logged

An action tells of its failures by its result: what it logs are warnings at most. This holds for
the four calls and for all that is composed of them, so for all that a controller does. -/
namespace ThemeSwitch
open Log

namespace Action

/-- The action itself logs no errors, even where it fails. -/
def Quiet {α : Type} (x : Action α) : Prop := ∀ d, ∀ event ∈ (x d).events, event.level ≠ .error

variable {α β : Type}

theorem quiet_done (a : α) : (pure a : Action α).Quiet := by
  intro d event he
  cases he

theorem quiet_log {event : Event} (h : event.level ≠ .error) : (log event).Quiet := by
  intro d event' he
  rw [List.mem_singleton.1 he]
  exact h

theorem Quiet.bind {x : Action α} {f : α → Action β} (hx : x.Quiet) (hf : ∀ a, (f a).Quiet) :
    (x >>= f).Quiet := by
  intro d event he
  rcases bind_cases x f d with ⟨failure, -, e⟩ | ⟨a, -, e⟩
  · rw [e] at he
    exact hx d event he
  · rw [e] at he
    rcases List.mem_append.1 he with he | he
    · exact hx d event he
    · exact hf a _ event he

theorem quiet_call {c : Call} {work : Document → Except Failure α × Document × List Event}
    (h : ∀ d, ∀ event ∈ (work d).2.2, event.level ≠ .error) : (call c work).Quiet := by
  intro d event he
  rw [call] at he
  split at he
  · cases he
  · split at he
    all_goals
      next hw =>
      exact h d event (hw ▸ he)

theorem quiet_readCookies : readCookies.Quiet := quiet_call fun d event he => by cases he

theorem quiet_hasClass (name : String) : (hasClass name).Quiet :=
  quiet_call fun d event he => by cases he

theorem quiet_setClass (name : String) (present : Bool) : (setClass name present).Quiet := by
  refine quiet_call fun d event he => ?_
  split at he <;> cases he

theorem quiet_writeCookie (now : Int) (directive : String) : (writeCookie now directive).Quiet := by
  refine quiet_call fun d event he => ?_
  split at he
  · cases he
  · simp [level_of_ignored event he]

end Action

namespace Controller
open ThemeSwitch.Action

theorem inherited_quiet (config : Config) (now : Int) :
    Inherited config now fun _ o => ∀ event ∈ o.events, event.level ≠ .error where
  done := quiet_done
  log := quiet_log
  bind := Quiet.bind
  readCookies := quiet_readCookies
  writeCookie _ := quiet_writeCookie now _
  hasClass := quiet_hasClass _
  setClass := quiet_setClass _

theorem quiet_apply (config : Config) : (apply config).Quiet := (inherited_quiet config 0).apply

theorem quiet_toggle (config : Config) (now : Int) : (toggle config now).Quiet :=
  (inherited_quiet config now).toggle

end Controller
end ThemeSwitch
