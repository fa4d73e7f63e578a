import ThemeSwitch.Proofs.ControllerFailures

/-! # To set a theme is to toggle where that is needed

There are two themes, so that a wanted one that is not stored is the one that a toggle leads to. To
set it is then what a toggle is, call by call, also where a call fails or the cookie gets lost. To
set the theme that is stored already is to apply it, after one more look at the cookies. -/
namespace ThemeSwitch

/-- There is only one other theme. -/
theorem Theme.toggled_eq_of_ne {theme wanted : Theme} (h : theme ≠ wanted) :
    theme.toggled = wanted := by
  cases theme with
  | light =>
    cases wanted with
    | light => exact absurd rfl h
    | dark => rfl
  | dark =>
    cases wanted with
    | light => rfl
    | dark => exact absurd rfl h

namespace Controller
open Cookie

variable {config : Config} {d : Document}

/-- Outcomes that agree in all but what was logged. -/
structure SameEffect {α : Type} (o o' : Outcome α) : Prop where
  result : o.result = o'.result
  document : o.document = o'.document
  calls : o.calls = o'.calls

theorem unwritten_apply (config : Config) (d : Document) :
    .writeCookie ∉ kinds (apply config d).calls ∧ (apply config d).document.jar = d.jar := by
  have ha := applied_apply config d
  generalize apply config d = outcome at ha ⊢
  cases ha with
  | unreadable | unseen | agreeing | unset | set => exact ⟨by simp [kinds, Call.kind], rfl⟩

/-- Where another theme is stored than the wanted one, a toggle and a setting go wrong at the same
calls and otherwise write the same directive. -/
theorem set_of_ne {wanted : Theme} (h : stored config d ≠ wanted) (now : Int) :
    SameEffect (set config now wanted d) (toggle config now d) := by
  have ht : (stored config d).toggled = wanted := Theme.toggled_eq_of_ne h
  cases hr : d.fault .readCookies with
  | some failure =>
    rw [set_of_unreadable hr, toggle_of_unreadable hr]
    exact ⟨rfl, rfl, rfl⟩
  | none =>
    cases hw : d.fault .writeCookie with
    | some failure =>
      rw [set_of_unwritten hr hw now h, toggle_of_unwritten hr hw, ht]
      exact ⟨rfl, rfl, rfl⟩
    | none =>
      rw [set_of_works hr hw now h, toggle_of_works hr hw, ht]
      exact ⟨rfl, rfl, rfl⟩

/-- Whatever the document is like and whichever of its calls fail: where the stored theme cannot be
read, neither a setting nor a toggle does anything, and both fail as the reading did. Where it is
not the wanted one, a setting has the result, the calls and the document of a toggle. Where it is
the wanted one, a setting has the result and the document of an application, whose calls come after
one more reading; nothing is written, and the cookies stay as they are. -/
theorem set_toggles_if_needed (config : Config) (d : Document) (now : Int) (wanted : Theme) :
    let setting := set config now wanted d
    let toggling := toggle config now d
    match (current config d).result with
    | .error failure =>
      (setting.result = .error failure ∧ setting.document = d) ∧
        toggling.result = .error failure ∧ toggling.document = d
    | .ok theme =>
      if theme = wanted then
        setting.result = (apply config d).result ∧
        setting.document = (apply config d).document ∧
        setting.calls = ⟨.readCookies, none⟩ :: (apply config d).calls ∧
        .writeCookie ∉ kinds setting.calls ∧ setting.document.jar = d.jar
      else
        SameEffect setting toggling := by
  intro setting toggling
  cases hr : d.fault .readCookies with
  | some failure =>
    have hs : setting = _ := set_of_unreadable hr now wanted
    have ht : toggling = _ := toggle_of_unreadable hr now
    rw [current_of_fault hr, hs, ht]
    exact ⟨⟨rfl, rfl⟩, rfl, rfl⟩
  | none =>
    rw [current_of_works hr]
    dsimp only
    split
    · next he =>
      have hs : setting = _ := he ▸ set_of_stored hr now
      obtain ⟨hw, hj⟩ := unwritten_apply config d
      rw [hs]
      refine ⟨rfl, rfl, rfl, ?_, hj⟩
      rintro (_ | ⟨_, hm⟩)
      exact hw hm
    · next hne => exact set_of_ne hne now

end Controller
end ThemeSwitch
