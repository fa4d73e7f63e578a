import ThemeSwitch.Proofs.ControllerFrame
import ThemeSwitch.Proofs.ControllerSetting

/-! # An applied theme stays applied

An application that succeeds leaves the class list in line with the cookies and has shown that both
can be read. To apply the theme again, or to look at it, then finds nothing to do, however often
this happens, and also where classes can no longer be set or cookies no longer be written. -/
namespace ThemeSwitch.Controller
open Cookie Log

/-- The theme can be read from the document, and the class list is in line with it. -/
structure Settled (config : Config) (d : Document) (theme : Theme) : Prop where
  readable : d.fault .readCookies = none
  visible : d.fault .hasClass = none
  coherent : Coherent config d theme

/-- The outcome answers with the theme. The document is as before; it was looked at, and no event of
note was logged. -/
structure Undisturbed (d : Document) (theme : Theme) (outcome : Outcome Answer) : Prop where
  answers : outcome.result = .ok (.theme theme)
  document : outcome.document = d
  unset : .setClass ∉ kinds outcome.calls
  unwritten : .writeCookie ∉ kinds outcome.calls
  unnoted : ∀ event ∈ outcome.events, event.level ≠ .info

variable {config : Config} {d : Document} {theme : Theme}

theorem Coherent.stored_eq (h : Coherent config d theme) : stored config d = theme := by
  rw [stored, h.kept, Theme.ofDark_isDark]

theorem fault_apply (config : Config) (d : Document) :
    (apply config d).document.fault = d.fault := by
  have ha := applied_apply config d
  generalize apply config d = outcome at ha ⊢
  cases ha <;> rfl

/-- An application cannot succeed without a look at the cookies and one at the class. -/
theorem works_of_apply (h : (apply config d).result = .ok theme) :
    d.fault .readCookies = none ∧ d.fault .hasClass = none := by
  cases hr : d.fault .readCookies with
  | some failure =>
    rw [apply_of_unreadable hr] at h
    cases h
  | none =>
    cases hh : d.fault .hasClass with
    | some failure =>
      rw [apply_of_unseen hr hh] at h
      cases h
    | none => exact ⟨rfl, rfl⟩

theorem settled_of_apply (h : (apply config d).result = .ok theme) :
    Settled config (apply config d).document theme := by
  obtain ⟨hr, hh⟩ := works_of_apply h
  refine ⟨?_, ?_, (apply_ok h).2.2⟩
  · rw [fault_apply, hr]
  · rw [fault_apply, hh]

theorem Settled.current (h : Settled config d theme) :
    Controller.current config d = ⟨.ok theme, d, [⟨.readCookies, none⟩],
      [.preferenceRead config.cookieName theme.isDark]⟩ := by
  rw [current_of_works h.readable, h.coherent.stored_eq]

theorem Settled.apply (h : Settled config d theme) :
    Controller.apply config d = ⟨.ok theme, d,
      [⟨.readCookies, none⟩, ⟨.hasClass config.darkClass, none⟩],
      [.preferenceRead config.cookieName theme.isDark]⟩ := by
  have hagree : d.classes.contains config.darkClass = (stored config d).isDark := by
    rw [h.coherent.shown, h.coherent.stored_eq]
  rw [apply_of_agreeing h.readable h.visible hagree, h.coherent.stored_eq]

theorem undisturbed_perform (h : Settled config d theme) {step : Step}
    (hs : step = .apply ∨ step = .current) (now : Int) :
    Undisturbed d theme (step.perform config now d) := by
  rcases hs with rfl | rfl
  · rw [Step.perform, Action.map_apply, h.apply]
    exact ⟨rfl, rfl, by simp [kinds, Call.kind], by simp [kinds, Call.kind], by simp [Event.level]⟩
  · rw [Step.perform, Action.map_apply, h.current]
    exact ⟨rfl, rfl, by simp [kinds, Call.kind], by simp [kinds, Call.kind], by simp [Event.level]⟩

theorem undisturbed_run (h : Settled config d theme) {steps : List (Int × Step)}
    (hs : ∀ s ∈ steps, s.2 = .apply ∨ s.2 = .current) :
    ∀ outcome ∈ run config steps d, Undisturbed d theme outcome := by
  induction steps with
  | nil =>
    intro outcome ho
    cases ho
  | cons s rest ih =>
    obtain ⟨hfirst, hrest⟩ := List.forall_mem_cons.1 hs
    have hstep : Undisturbed d theme (s.2.perform config s.1 d) := undisturbed_perform h hfirst s.1
    intro outcome ho
    rcases List.mem_cons.1 ho with rfl | ho
    · exact hstep
    · -- The step has left the document as it was, and so the rest runs on the same one.
      rw [hstep.document] at ho
      exact ih hrest outcome ho

/-- Where an application sees that the class is not as it should be, it tries to set it, whatever
comes of that. -/
theorem exists_setClass_mem_calls (hr : d.fault .readCookies = none)
    (hh : d.fault .hasClass = none)
    (hne : d.classes.contains config.darkClass ≠ (stored config d).isDark) :
    ∃ failure, ⟨.setClass config.darkClass (stored config d).isDark, failure⟩ ∈
      (apply config d).calls := by
  cases hs : d.fault .setClass with
  | some failure =>
    rw [apply_of_unset hr hh hne (Action.call_of_fault hs _)]
    exact ⟨failure, by simp⟩
  | none =>
    cases hc : d.classes.set config.darkClass (stored config d).isDark with
    | error failure =>
      rw [apply_of_unset hr hh hne (Action.setClass_of_refused hs hc)]
      exact ⟨failure, by simp⟩
    | ok classes =>
      rw [apply_of_set hr hh hne hs hc]
      exact ⟨none, by simp⟩

/-- The class is set just if an application gets so far as to see that it is not as it should be. -/
theorem setClass_mem_kinds_apply :
    .setClass ∈ kinds (apply config d).calls ↔ d.fault .readCookies = none ∧
      d.fault .hasClass = none ∧
      d.classes.contains config.darkClass ≠ (stored config d).isDark := by
  cases hr : d.fault .readCookies with
  | some failure => simp [apply_of_unreadable hr, kinds, Call.kind]
  | none =>
    cases hh : d.fault .hasClass with
    | some failure => simp [apply_of_unseen hr hh, kinds, Call.kind]
    | none =>
      by_cases he : d.classes.contains config.darkClass = (stored config d).isDark
      · simp [apply_of_agreeing hr hh he, he, kinds, Call.kind]
      · obtain ⟨failure, hm⟩ := exists_setClass_mem_calls hr hh he
        exact iff_of_true (List.mem_map_of_mem hm) ⟨rfl, rfl, he⟩

/-- Whatever the document is like and whichever of its calls fail, an application leaves the cookies
alone, and it sets the class just if it can see that the class is not as the cookies ask for. If it
succeeds, then all further applications of the theme and looks at it answer with the same theme:
they neither set a class nor write a cookie nor log an event of note, and the document stays as it
is. -/
theorem apply_settles (config : Config) (d : Document) :
    let first := apply config d
    first.document.jar.text = d.jar.text ∧
    (.setClass ∈ kinds first.calls ↔ d.fault .readCookies = none ∧ d.fault .hasClass = none ∧
      d.classes.contains config.darkClass ≠ (stored config d).isDark) ∧
    ∀ theme, first.result = .ok theme →
      (.setClass ∈ kinds first.calls ↔
        d.classes.contains config.darkClass ≠
          Preference.ofCookies d.jar.text config.cookieName) ∧
      ∀ steps : List (Int × Step), (∀ s ∈ steps, s.2 = .apply ∨ s.2 = .current) →
        (run config steps first.document).length = steps.length ∧
        ∀ outcome ∈ run config steps first.document,
          Undisturbed first.document theme outcome := by
  intro first
  refine ⟨congrArg Jar.text (unwritten_apply config d).2, setClass_mem_kinds_apply, ?_⟩
  intro theme h
  obtain ⟨hr, hh⟩ := works_of_apply h
  refine ⟨?_, fun steps hs => ⟨length_run .., undisturbed_run (settled_of_apply h) hs⟩⟩
  have hset : .setClass ∈ kinds first.calls ↔ _ := setClass_mem_kinds_apply
  rw [hset, stored, Theme.isDark_ofDark]
  simp only [hr, hh, true_and]

end ThemeSwitch.Controller
