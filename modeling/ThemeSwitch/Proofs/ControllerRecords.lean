import Mathlib.Data.List.Chain
import ThemeSwitch.Proofs.ClassListText
import ThemeSwitch.Proofs.ControllerCoherence

/-! # Applied themes alternate on record

A controller records that it has applied a theme just when the class has come or gone. As long as
nobody else touches the class, the records of a run are therefore by turns of the dark and of the
light theme, whatever happens to the cookies and whatever fails. -/
namespace ThemeSwitch
open Log

namespace Log.Event

/-- The theme that an event tells to have been applied. -/
def appliedTheme? (event : Event) : Option Theme :=
  if event.level ≠ .info then none
  else if event.message = "Applied Dark theme" then some .dark
  else if event.message = "Applied Light theme" then some .light
  else none

theorem appliedTheme?_applied (theme : Theme) :
    (applied theme).appliedTheme? = some theme := by
  cases theme <;> decide

theorem appliedTheme?_toggled (theme : Theme) : (toggled theme).appliedTheme? = none := by
  cases theme <;> decide

theorem appliedTheme?_of_level {event : Event} (h : event.level ≠ .info) :
    event.appliedTheme? = none := if_pos h

theorem appliedTheme?_preferenceRead (cookieName : String) (dark : Bool) :
    (preferenceRead cookieName dark).appliedTheme? = none :=
  appliedTheme?_of_level (by simp [level])

end Log.Event

/-- The themes that were applied, as the events tell. -/
def appliedThemes (events : List Event) : List Theme := events.filterMap Event.appliedTheme?

@[simp] theorem appliedThemes_append (events more : List Event) :
    appliedThemes (events ++ more) = appliedThemes events ++ appliedThemes more :=
  List.filterMap_append

theorem appliedThemes_of_level {events : List Event}
    (h : ∀ event ∈ events, event.level ≠ .info) : appliedThemes events = [] :=
  List.filterMap_eq_nil_iff.2 fun event he => Event.appliedTheme?_of_level (h event he)

/-! ## Chains of changes -/

/-- Applied themes, each of which was a change, and what they lead from and to. -/
inductive Changes : Bool → List Theme → Bool → Prop
  | nil (on : Bool) : Changes on [] on
  | cons {on last : Bool} {themes : List Theme} (h : Changes (!on) themes last) :
    Changes on (.ofDark (!on) :: themes) last

namespace Changes

variable {on mid last : Bool} {themes more : List Theme}

theorem append (h : Changes on themes mid) (h' : Changes mid more last) :
    Changes on (themes ++ more) last := by
  induction h with
  | nil => exact h'
  | cons _ ih => exact .cons (ih h')

theorem head (h : Changes on themes last) : ∀ first ∈ themes.head?, first = .ofDark (!on) := by
  cases h with
  | nil => simp
  | cons => simp

theorem isChain (h : Changes on themes last) : themes.IsChain (· ≠ ·) := by
  induction h with
  | nil => exact .nil
  | @cons on last themes h ih =>
    refine List.isChain_cons.2 ⟨fun next hn => ?_, ih⟩
    rw [h.head next hn]
    cases on <;> decide

/-- Dark and light themes balance, but for the difference between what was there and what is. -/
theorem count_sub (h : Changes on themes last) :
    (themes.count .dark - themes.count .light : Int) = last.toInt - on.toInt := by
  induction h with
  | nil => simp
  | @cons on last themes _ ih =>
    cases on <;> simp [Theme.ofDark] at ih ⊢ <;> omega

end Changes

/-! ## Steps -/

namespace Controller

variable {config : Config} {d d' : Document} {events : List Event} {now : Int}

/-- The class of the dark theme is there. -/
def shown (config : Config) (d : Document) : Bool := d.classes.contains config.darkClass

@[simp] theorem shown_written (config : Config) (d : Document) (now : Int) (directive : String) :
    shown config (d.written now directive) = shown config d := by
  rw [shown, Document.classes_written, shown]

/-- What the events tell to have been applied is what has become of the class, if it has come or
gone, and else nothing. -/
def Told (config : Config) (d d' : Document) (events : List Event) : Prop :=
  appliedThemes events =
    if shown config d = shown config d' then [] else [.ofDark (shown config d')]

theorem told_of_same (hd : shown config d = shown config d')
    (he : ∀ event ∈ events, event.level ≠ .info) : Told config d d' events := by
  rw [Told, if_pos hd, appliedThemes_of_level he]

theorem Told.of_written {directive : String} (h : Told config (d.written now directive) d' events) :
    Told config d d' events := by
  rwa [Told, shown_written] at h

/-- Other records in front make no difference. -/
theorem Told.after {front : List Event} (h : Told config d d' events)
    (hf : ∀ event ∈ front, event.appliedTheme? = none) : Told config d d' (front ++ events) := by
  have hnone : appliedThemes front = [] := List.filterMap_eq_nil_iff.2 hf
  rw [Told, appliedThemes_append, hnone, List.nil_append, h]

theorem told_apply (d : Document) :
    Told config d (apply config d).document (apply config d).events := by
  have ha := applied_apply config d
  generalize apply config d = outcome at ha ⊢
  cases ha with
  | unreadable | unseen | agreeing | unset => exact told_of_same rfl (by simp [Event.level])
  -- The class was not as the stored theme asks for, so that it has come or gone now.
  | set hc hne =>
    have hd : shown config d ≠ (stored config d).isDark := hne
    have hd' : shown config { d with classes := _ } = (stored config d).isDark :=
      ClassList.contains_of_set hc
    rw [Told, hd', if_neg hd, Theme.ofDark_isDark, appliedThemes,
      List.filterMap_cons_none (Event.appliedTheme?_preferenceRead _ _),
      List.filterMap_cons_some (Event.appliedTheme?_applied _), List.filterMap_nil]

/-- Up to the writing of a cookie, and while it is written, no theme is applied. -/
theorem level_of_writing {name directive : String} {dark : Bool} :
    ∀ event ∈ .preferenceRead name dark :: .directiveWritten directive ::
      d.complaints now directive, event.level ≠ .info := by
  rintro event (_ | ⟨_, _ | ⟨_, he⟩⟩)
  · simp [Event.level]
  · simp [Event.level]
  · simp [Document.level_of_complaints event he]

theorem Rewritten.told {directive : String} {news : List Event} {outcome : Outcome Theme}
    (h : Rewritten config now d directive news outcome)
    (hn : ∀ event ∈ news, event.appliedTheme? = none) :
    Told config d outcome.document outcome.events := by
  cases h with
  | unreadable | unwritten => exact told_of_same rfl (by simp [Event.level])
  -- A written cookie leaves the class alone, and of what is logged before the application nothing
  -- tells of one.
  | written ha =>
    subst ha
    refine ((told_apply _).of_written.after hn).after fun event he => ?_
    exact Event.appliedTheme?_of_level (level_of_writing event he)

theorem told_set (now : Int) (wanted : Theme) (d : Document) :
    Told config d (set config now wanted d).document (set config now wanted d).events := by
  by_cases hs : stored config d = wanted
  · cases hr : d.fault .readCookies with
    | some failure =>
      rw [set_of_unreadable hr]
      exact told_of_same rfl (by simp)
    | none =>
      rw [← hs, set_of_stored hr]
      have hread : ∀ event ∈ [Event.preferenceRead config.cookieName (stored config d).isDark],
          event.appliedTheme? = none :=
        List.forall_mem_singleton.2 (Event.appliedTheme?_preferenceRead _ _)
      exact (told_apply d).after hread
  · exact (rewritten_set hs now).told (by simp)

theorem told_read (d : Document) :
    Told config d (Preference.read config.cookieName d).document
      (Preference.read config.cookieName d).events := by
  cases hr : d.fault .readCookies with
  | some failure =>
    rw [Preference.read_of_fault hr]
    exact told_of_same rfl (by simp)
  | none =>
    rw [Preference.read_of_works hr]
    exact told_of_same rfl (by simp [Event.level])

theorem told_current (d : Document) :
    Told config d (current config d).document (current config d).events := by
  have hm : current config = Theme.ofDark <$> Preference.read config.cookieName := rfl
  rw [hm, Action.map_apply]
  exact told_read d

theorem told_perform {step : Step} (h : ∀ present, step ≠ .putClass config.darkClass present)
    (now : Int) (d : Document) :
    Told config d (step.perform config now d).document (step.perform config now d).events := by
  cases step with
  | current =>
    rw [Step.perform, Action.map_apply]
    exact told_current d
  | apply =>
    rw [Step.perform, Action.map_apply]
    exact told_apply d
  | toggle =>
    rw [Step.perform, Action.map_apply]
    refine (rewritten_toggle config now d).told ?_
    exact List.forall_mem_singleton.2 (Event.appliedTheme?_toggled _)
  | set wanted =>
    rw [Step.perform, Action.map_apply]
    exact told_set now wanted d
  | readPreference =>
    rw [Step.perform, Action.map_apply]
    exact told_read d
  | putCookie directive =>
    exact told_of_same rfl fun event he => by simp [level_of_ignored event he]
  | putClass name present =>
    have hne : config.darkClass ≠ name := fun e => h present (e ▸ rfl)
    cases hs : d.classes.set name present with
    | error failure =>
      simp only [Step.perform, Step.behind, hs, Except.map]
      exact told_of_same rfl (by simp)
    | ok classes =>
      simp only [Step.perform, Step.behind, hs, Except.map]
      exact told_of_same (ClassList.contains_of_set_of_ne hs hne).symm (by simp)
  | dropWrites on => exact told_of_same rfl (by rintro _ ⟨⟩)
  | fault kind failure => exact told_of_same rfl (by rintro _ ⟨⟩)

/-! ## Runs -/

/-- Nobody but the controller sets its class. -/
def Untouched (config : Config) (steps : List (Int × Step)) : Prop :=
  ∀ s ∈ steps, ∀ present, s.2 ≠ .putClass config.darkClass present

theorem Told.changes (h : Told config d d' events) :
    Changes (shown config d) (appliedThemes events) (shown config d') := by
  rw [Told] at h
  rw [h]
  split
  · next he =>
    rw [he]
    exact .nil _
  · next hne =>
    have hd : shown config d' = !shown config d := Bool.eq_not.2 (Ne.symm hne)
    rw [hd]
    exact .cons (.nil _)

theorem changes_run {steps : List (Int × Step)} (h : Untouched config steps) (d : Document) :
    Changes (shown config d) (appliedThemes ((run config steps d).flatMap Outcome.events))
      (shown config (after config steps d)) := by
  induction steps generalizing d with
  | nil => exact .nil _
  | cons s rest ih =>
    obtain ⟨hs, hrest⟩ := List.forall_mem_cons.1 h
    rw [run, List.flatMap_cons, appliedThemes_append]
    exact (told_perform hs s.1 d).changes.append (ih hrest _)

theorem take_run (config : Config) (steps : List (Int × Step)) (d : Document) (k : Nat) :
    (run config steps d).take k = run config (steps.take k) d := by
  induction steps generalizing d k with
  | nil => simp [run]
  | cons s rest ih =>
    cases k with
    | zero => rfl
    | succ k => exact congrArg (_ :: ·) (ih _ k)

/-- In every run in which nobody but the controller sets the dark class, whatever happens to the
cookies and whatever calls fail, the records that tell that a theme was applied are by turns of the
dark and of the light theme, and the first is of the dark one if the class was missing. At every
point the dark ones are as many more than the light ones as the class is there more than it was.
The class comes and goes only in steps that record it, which then record just that. -/
theorem applied_records_alternate {config : Config} {steps : List (Int × Step)}
    (h : Untouched config steps) (start : Document) :
    let outcomes := run config steps start
    let dark (d : Document) := d.classes.contains config.darkClass
    let records (outcomes : List (Outcome Answer)) :=
      appliedThemes (outcomes.flatMap Outcome.events)
    (records outcomes).IsChain (· ≠ ·) ∧
    (∀ first ∈ (records outcomes).head?, first = .dark ↔ dark start = false) ∧
    (∀ k,
      ((records (outcomes.take k)).count .dark - (records (outcomes.take k)).count .light : Int) =
        (dark (after config (steps.take k) start)).toInt - (dark start).toInt) ∧
    ∀ k outcome, outcomes[k]? = some outcome →
      records [outcome] =
        if dark (after config (steps.take k) start) = dark outcome.document then []
        else [.ofDark (dark outcome.document)] := by
  intro outcomes dark records
  have hrun : Changes (dark start) (records outcomes) (dark (after config steps start)) :=
    changes_run h start
  refine ⟨hrun.isChain, fun first hf => ?_, fun k => ?_, fun k outcome ho => ?_⟩
  · rw [hrun.head first hf]
    cases dark start <;> decide
  · have hk : Untouched config (steps.take k) := fun s hs => h s (List.mem_of_mem_take hs)
    rw [take_run]
    exact (changes_run hk start).count_sub
  · rw [getElem?_run] at ho
    obtain ⟨s, hs, rfl⟩ := Option.map_eq_some_iff.1 ho
    have hr : records [s.2.perform config s.1 (after config (steps.take k) start)] =
        appliedThemes (s.2.perform config s.1 (after config (steps.take k) start)).events := by
      simp [records]
    rw [hr]
    exact told_perform (h s (List.mem_of_getElem? hs)) s.1 _

/-- A toggle whose cookie gets lost is not on record, and neither is an application that fails. -/
theorem applied_records_alternate_disturbed :
    let start : Document := { classes := .ofString "wide" }
    let steps := [(0, Step.dropWrites true), (1, .toggle), (2, .dropWrites false),
      (3, .putCookie "dark=1"), (4, .fault .setClass (some .notAttached)), (5, .apply),
      (6, .fault .setClass none), (7, .apply), (8, .putClass "darker" true), (9, .toggle)]
    let records (k : Nat) := appliedThemes (((run {} steps start).take k).flatMap Outcome.events)
    Untouched {} steps ∧ records 10 = [.dark, .light] ∧
      (records 10).IsChain (· ≠ ·) ∧
      ((records 8).count .dark - (records 8).count .light : Int) = 1 := by
  intro start steps records
  have hu : Untouched {} steps := by
    unfold Untouched
    decide
  obtain ⟨hchain, -, hcount, -⟩ := applied_records_alternate hu start
  refine ⟨hu, by decide +kernel, hchain, ?_⟩
  exact (hcount 8).trans (by decide +kernel)

end Controller
end ThemeSwitch
