import ThemeSwitch.Controller.Run
import ThemeSwitch.Proofs.ControllerOutcomes

/-! # Coherence along runs

Steps may change a document behind the controller's back, lose its writes and let its calls fail.
A theme that the controller returns is nevertheless the one that the document keeps and shows. -/
namespace ThemeSwitch.Controller
open Cookie Log

/-- The steps that end with an application of the stored theme. -/
def Step.applies : Step → Bool
  | .apply | .toggle | .set _ => true
  | _ => false

/-- The document that a list of steps leaves. -/
def after (config : Config) : List (Int × Step) → Document → Document
  | [], d => d
  | (now, step) :: rest, d => after config rest (step.perform config now d).document

variable {config : Config} {d : Document} {theme : Theme} {now : Int}

/-- Every step of a run is performed on the document that those before it left. -/
theorem getElem?_run (config : Config) (steps : List (Int × Step)) (d : Document) (i : Nat) :
    (run config steps d)[i]? =
      steps[i]?.map fun s => s.2.perform config s.1 (after config (steps.take i) d) := by
  induction steps generalizing d i with
  | nil => rfl
  | cons s rest ih =>
    cases i with
    | zero => rfl
    | succ i => exact ih _ i

theorem toggle_ends (h : (toggle config now d).result = .ok theme) :
    ∃ d', (apply config d').result = .ok theme ∧
      (toggle config now d).document = (apply config d').document := by
  rw [toggle] at h ⊢
  obtain ⟨before, -, h, e₁⟩ := Action.bind_ok h
  obtain ⟨-, -, h, e₂⟩ := Action.bind_ok h
  obtain ⟨-, -, h, e₃⟩ := Action.bind_ok h
  exact ⟨_, h, e₁.trans (e₂.trans e₃)⟩

theorem set_ends {wanted : Theme} (h : (set config now wanted d).result = .ok theme) :
    ∃ d', (apply config d').result = .ok theme ∧
      (set config now wanted d).document = (apply config d').document := by
  rw [set] at h ⊢
  obtain ⟨before, -, h, e₁⟩ := Action.bind_ok h
  rw [e₁]
  by_cases hw : before ≠ wanted
  · rw [if_pos hw] at h ⊢
    obtain ⟨_, _, ha, e₂⟩ := Action.bind_ok h
    exact ⟨_, ha, e₂⟩
  · rw [if_neg hw] at h ⊢
    exact ⟨_, h, rfl⟩

theorem toggle_succeeds (hd : ∀ kind, d.fault kind = none) (ht : IsToken config.darkClass)
    (now : Int) : ∃ theme, (toggle config now d).result = .ok theme := by
  obtain ⟨hr, -⟩ := apply_of_works (Document.works_written hd now _) ht
  rw [toggle_of_works (hd _) (hd _)]
  exact ⟨_, hr⟩

/-- A toggle whose cookie gets lost returns what is stored, not what it tried to store. -/
theorem toggle_of_lost (hd : ∀ kind, d.fault kind = none) (hl : d.dropsWrites = true)
    (ht : IsToken config.darkClass) (now : Int) :
    (toggle config now d).result = .ok (stored config d) := by
  have hw (directive : String) : d.written now directive = d := by rw [Document.written, if_pos hl]
  obtain ⟨hr, -⟩ := apply_of_works hd ht
  rw [toggle_of_works (hd _) (hd _), hw]
  exact hr

theorem set_succeeds (hd : ∀ kind, d.fault kind = none) (ht : IsToken config.darkClass)
    (now : Int) (wanted : Theme) : ∃ theme, (set config now wanted d).result = .ok theme := by
  by_cases he : stored config d = wanted
  · obtain ⟨hr, -⟩ := apply_of_works hd ht
    rw [← he, set_of_stored (hd _)]
    exact ⟨_, hr⟩
  · obtain ⟨hr, -⟩ := apply_of_works (Document.works_written hd now _) ht
    rw [set_of_works (hd _) (hd _) now he]
    exact ⟨_, hr⟩

namespace Step

theorem perform_ok {step : Step} (ha : step.applies = true) {answer : Answer}
    (h : (step.perform config now d).result = .ok answer) :
    ∃ theme, answer = .theme theme ∧
      Coherent config (step.perform config now d).document theme := by
  cases step with
  | apply =>
    obtain ⟨theme, hr, rfl, e⟩ := Action.map_ok h
    exact ⟨theme, rfl, e ▸ (apply_ok hr).2.2⟩
  | toggle =>
    obtain ⟨theme, hr, rfl, e⟩ := Action.map_ok h
    obtain ⟨d', hd, e'⟩ := toggle_ends hr
    exact ⟨theme, rfl, (e.trans e') ▸ (apply_ok hd).2.2⟩
  | set wanted =>
    obtain ⟨theme, hr, rfl, e⟩ := Action.map_ok h
    obtain ⟨d', hd, e'⟩ := set_ends hr
    exact ⟨theme, rfl, (e.trans e') ▸ (apply_ok hd).2.2⟩
  | _ => cases ha

theorem perform_succeeds {step : Step} (ha : step.applies = true)
    (hd : ∀ kind, d.fault kind = none) (ht : IsToken config.darkClass) (now : Int) :
    ∃ theme, (step.perform config now d).result = .ok (.theme theme) := by
  cases step with
  | apply =>
    obtain ⟨hr, -⟩ := apply_of_works hd ht
    exact ⟨_, Action.map_of_ok hr _⟩
  | toggle =>
    obtain ⟨theme, hr⟩ := toggle_succeeds hd ht now
    exact ⟨theme, Action.map_of_ok hr _⟩
  | set wanted =>
    obtain ⟨theme, hr⟩ := set_succeeds hd ht now wanted
    exact ⟨theme, Action.map_of_ok hr _⟩
  | _ => cases ha

end Step

/-- In every run, whatever happens behind the controller's back, a theme that it returns when asked
to apply, toggle or set is the theme that the document then keeps and shows. It does return one
wherever the configuration is valid and no call is told to fail. -/
theorem coherent_of_run (config : Config) (start : Document) {steps : List (Int × Step)} {i : Nat}
    {now : Int} {step : Step} (h : steps[i]? = some (now, step)) (ha : step.applies = true) :
    ∃ outcome, (run config steps start)[i]? = some outcome ∧
      (∀ answer, outcome.result = .ok answer →
        ∃ theme, answer = .theme theme ∧ Coherent config outcome.document theme) ∧
      (config.Valid → (∀ kind, (after config (steps.take i) start).fault kind = none) →
        ∃ theme, outcome.result = .ok (.theme theme)) := by
  refine ⟨step.perform config now (after config (steps.take i) start), ?_, ?_, ?_⟩
  · rw [getElem?_run, h]
    rfl
  · intro answer hr
    exact Step.perform_ok ha hr
  · intro hv hd
    exact Step.perform_succeeds ha hd hv.isToken now

/-- Behind a toggle that is lost, a stale class goes nevertheless. -/
theorem coherent_of_lost_toggle :
    let start : Document := { jar := .ofString "dark=false", classes := .ofString "wide dark" }
    let steps := [(0, Step.dropWrites true), (1, .toggle)]
    steps[1]? = some (1, .toggle) ∧ Step.toggle.applies = true ∧
      ∃ outcome, (run {} steps start)[1]? = some outcome ∧
        outcome.result = .ok (.theme .light) ∧ Coherent {} outcome.document .light := by
  intro start steps
  have hs : steps[1]? = some (1, .toggle) := rfl
  refine ⟨hs, rfl, ?_⟩
  obtain ⟨outcome, ho, hc, -⟩ := coherent_of_run {} start hs rfl
  have hlight : stored {} { start with dropsWrites := true } = .light := by decide
  have hr : outcome.result = .ok (.theme .light) := by
    cases ho
    have hv : Config.Valid {} := by decide
    have hr := toggle_of_lost (d := { start with dropsWrites := true }) (fun _ => rfl) rfl
      hv.isToken 1
    exact Action.map_of_ok (hlight ▸ hr) _
  obtain ⟨_, e, h⟩ := hc _ hr
  cases e
  exact ⟨outcome, ho, hr, h⟩

end ThemeSwitch.Controller
