import ThemeSwitch.Proofs.ActionOutcomes
import ThemeSwitch.Proofs.ClassListUpdates
import ThemeSwitch.Proofs.PreferenceCookie

/-! # What a controller does to a document

Every change of the theme ends in an application of the stored one, so that whatever a controller
returns was read from the jar last, and the classes were brought in line with it. Where the calls
of a document work, a controller with a valid configuration succeeds. -/
namespace ThemeSwitch

namespace Preference

theorem read_of_fault {d : Document} {failure : Failure}
    (h : d.fault .readCookies = some failure) (name : String) :
    read name d = ⟨.error failure, d, [⟨.readCookies, failure⟩], []⟩ :=
  Action.bind_of_error (Action.call_of_fault h _) _

theorem read_of_works {d : Document} (h : d.fault .readCookies = none) (name : String) :
    read name d = ⟨.ok (ofCookies d.jar.text name), d, [⟨.readCookies, none⟩],
      [.preferenceRead name (ofCookies d.jar.text name)]⟩ :=
  Action.bind_of_ok (Action.readCookies_of_works h) _

theorem write_of_fault {d : Document} {failure : Failure}
    (h : d.fault .writeCookie = some failure) (now : Int) (name : String) (dark : Bool) :
    write now name dark d = ⟨.error failure, d, [⟨.writeCookie (directive name dark), failure⟩],
      [.directiveWritten (directive name dark)]⟩ := by
  have hw : Action.writeCookie now (directive name dark) d = _ := Action.call_of_fault h _
  rw [write, Action.bind_of_ok (by rfl), hw]
  rfl

theorem write_of_works {d : Document} (h : d.fault .writeCookie = none) (now : Int)
    (name : String) (dark : Bool) :
    write now name dark d = ⟨.ok (), d.written now (directive name dark),
      [⟨.writeCookie (directive name dark), none⟩],
      .directiveWritten (directive name dark) :: d.complaints now (directive name dark)⟩ := by
  rw [write, Action.bind_of_ok (by rfl), Action.writeCookie_of_works h]
  rfl

end Preference

namespace Controller
open Cookie Log

/-- The theme that the jar of a document asks for. -/
def stored (config : Config) (d : Document) : Theme :=
  .ofDark (Preference.ofCookies d.jar.text config.cookieName)

/-- Classes and cookies of the document both stand for the theme. -/
structure Coherent (config : Config) (d : Document) (theme : Theme) : Prop where
  shown : d.classes.contains config.darkClass = theme.isDark
  kept : Preference.ofCookies d.jar.text config.cookieName = theme.isDark

variable {config : Config} {d : Document} {theme : Theme} {now : Int}

theorem current_of_fault {failure : Failure} (h : d.fault .readCookies = some failure) :
    current config d = ⟨.error failure, d, [⟨.readCookies, failure⟩], []⟩ :=
  Action.bind_of_error (Preference.read_of_fault h _) _

theorem current_of_works (h : d.fault .readCookies = none) :
    current config d = ⟨.ok (stored config d), d, [⟨.readCookies, none⟩],
      [.preferenceRead config.cookieName (stored config d).isDark]⟩ := by
  rw [current, Action.bind_of_ok (Preference.read_of_works h _), stored, Theme.isDark_ofDark]
  rfl

/-! ## Application, case by case -/

theorem apply_of_unreadable {failure : Failure} (h : d.fault .readCookies = some failure) :
    apply config d = ⟨.error failure, d, [⟨.readCookies, failure⟩], []⟩ :=
  Action.bind_of_error (current_of_fault h) _

theorem apply_of_unseen (hr : d.fault .readCookies = none) {failure : Failure}
    (h : d.fault .hasClass = some failure) :
    apply config d = ⟨.error failure, d,
      [⟨.readCookies, none⟩, ⟨.hasClass config.darkClass, failure⟩],
      [.preferenceRead config.cookieName (stored config d).isDark]⟩ := by
  have hh : Action.hasClass config.darkClass d =
      ⟨.error failure, d, [⟨.hasClass config.darkClass, failure⟩], []⟩ := Action.call_of_fault h _
  rw [apply, Action.bind_of_ok (current_of_works hr), Action.bind_of_error hh]
  rfl

theorem apply_of_agreeing (hr : d.fault .readCookies = none) (hh : d.fault .hasClass = none)
    (h : d.classes.contains config.darkClass = (stored config d).isDark) :
    apply config d = ⟨.ok (stored config d), d,
      [⟨.readCookies, none⟩, ⟨.hasClass config.darkClass, none⟩],
      [.preferenceRead config.cookieName (stored config d).isDark]⟩ := by
  rw [apply, Action.bind_of_ok (current_of_works hr),
    Action.bind_of_ok (Action.hasClass_of_works hh _), h, bne_self_eq_false]
  rfl

theorem apply_of_set (hr : d.fault .readCookies = none) (hh : d.fault .hasClass = none)
    (h : d.classes.contains config.darkClass ≠ (stored config d).isDark)
    (hs : d.fault .setClass = none) {classes : ClassList}
    (hc : d.classes.set config.darkClass (stored config d).isDark = .ok classes) :
    apply config d = ⟨.ok (stored config d), { d with classes },
      [⟨.readCookies, none⟩, ⟨.hasClass config.darkClass, none⟩,
        ⟨.setClass config.darkClass (stored config d).isDark, none⟩],
      [.preferenceRead config.cookieName (stored config d).isDark,
        .applied (stored config d)]⟩ := by
  rw [apply, Action.bind_of_ok (current_of_works hr),
    Action.bind_of_ok (Action.hasClass_of_works hh _)]
  dsimp only
  rw [if_pos (bne_iff_ne.2 h), Action.bind_of_ok (Action.setClass_of_works hs hc)]
  rfl

theorem apply_of_unset (hr : d.fault .readCookies = none) (hh : d.fault .hasClass = none)
    (h : d.classes.contains config.darkClass ≠ (stored config d).isDark) {failure : Failure}
    (hs : Action.setClass config.darkClass (stored config d).isDark d =
      ⟨.error failure, d, [⟨.setClass config.darkClass (stored config d).isDark, failure⟩], []⟩) :
    apply config d = ⟨.error failure, d,
      [⟨.readCookies, none⟩, ⟨.hasClass config.darkClass, none⟩,
        ⟨.setClass config.darkClass (stored config d).isDark, failure⟩],
      [.preferenceRead config.cookieName (stored config d).isDark]⟩ := by
  rw [apply, Action.bind_of_ok (current_of_works hr),
    Action.bind_of_ok (Action.hasClass_of_works hh _)]
  dsimp only
  rw [if_pos (bne_iff_ne.2 h), Action.bind_of_error hs]
  rfl

/-- The ways in which an application can go. -/
inductive Applied (config : Config) (d : Document) : Outcome Theme → Prop
  | unreadable (failure : Failure) :
    Applied config d ⟨.error failure, d, [⟨.readCookies, failure⟩], []⟩
  | unseen (failure : Failure) :
    Applied config d ⟨.error failure, d,
      [⟨.readCookies, none⟩, ⟨.hasClass config.darkClass, failure⟩],
      [.preferenceRead config.cookieName (stored config d).isDark]⟩
  | agreeing (h : d.classes.contains config.darkClass = (stored config d).isDark) :
    Applied config d ⟨.ok (stored config d), d,
      [⟨.readCookies, none⟩, ⟨.hasClass config.darkClass, none⟩],
      [.preferenceRead config.cookieName (stored config d).isDark]⟩
  | unset (failure : Failure) :
    Applied config d ⟨.error failure, d,
      [⟨.readCookies, none⟩, ⟨.hasClass config.darkClass, none⟩,
        ⟨.setClass config.darkClass (stored config d).isDark, failure⟩],
      [.preferenceRead config.cookieName (stored config d).isDark]⟩
  | set {classes : ClassList}
    (h : d.classes.set config.darkClass (stored config d).isDark = .ok classes)
    (hne : d.classes.contains config.darkClass ≠ (stored config d).isDark) :
    Applied config d ⟨.ok (stored config d), { d with classes },
      [⟨.readCookies, none⟩, ⟨.hasClass config.darkClass, none⟩,
        ⟨.setClass config.darkClass (stored config d).isDark, none⟩],
      [.preferenceRead config.cookieName (stored config d).isDark, .applied (stored config d)]⟩

theorem applied_apply (config : Config) (d : Document) : Applied config d (apply config d) := by
  cases hr : d.fault .readCookies with
  | some failure =>
    rw [apply_of_unreadable hr]
    exact .unreadable failure
  | none =>
    cases hh : d.fault .hasClass with
    | some failure =>
      rw [apply_of_unseen hr hh]
      exact .unseen failure
    | none =>
      by_cases he : d.classes.contains config.darkClass = (stored config d).isDark
      · rw [apply_of_agreeing hr hh he]
        exact .agreeing he
      · cases hs : d.fault .setClass with
        | some failure =>
          rw [apply_of_unset hr hh he (Action.call_of_fault hs _)]
          exact .unset failure
        | none =>
          cases hc : d.classes.set config.darkClass (stored config d).isDark with
          | error failure =>
            rw [apply_of_unset hr hh he (Action.setClass_of_refused hs hc)]
            exact .unset failure
          | ok classes =>
            rw [apply_of_set hr hh he hs hc]
            exact .set hc he

/-- A theme that an application returns is what the document keeps and shows afterwards. -/
theorem apply_ok (h : (apply config d).result = .ok theme) :
    theme = stored config d ∧ (apply config d).document.jar = d.jar ∧
      Coherent config (apply config d).document theme := by
  have hkept : Preference.ofCookies d.jar.text config.cookieName = (stored config d).isDark := by
    rw [stored, Theme.isDark_ofDark]
  have ha := applied_apply config d
  generalize apply config d = outcome at h ha ⊢
  cases ha with
  | unreadable | unseen | unset => cases h
  | agreeing he =>
    cases h
    exact ⟨rfl, rfl, he, hkept⟩
  | set hc =>
    cases h
    exact ⟨rfl, rfl, ClassList.contains_of_set hc, hkept⟩

/-- Where the calls work, an application succeeds and brings the classes in line with what is
stored. -/
theorem apply_of_works (hd : ∀ kind, d.fault kind = none) (ht : IsToken config.darkClass) :
    (apply config d).result = .ok (stored config d) ∧ (apply config d).document =
      { d with classes := d.classes.put ht (stored config d).isDark } := by
  by_cases he : d.classes.contains config.darkClass = (stored config d).isDark
  · rw [apply_of_agreeing (hd _) (hd _) he, ClassList.put_of_contains ht he]
    exact ⟨rfl, rfl⟩
  · rw [apply_of_set (hd _) (hd _) he (hd _) (ClassList.set_of_isToken ht ..)]
    exact ⟨rfl, rfl⟩

/-! ## The preference is changed first, then applied -/

theorem toggle_of_unreadable {failure : Failure} (h : d.fault .readCookies = some failure)
    (now : Int) :
    toggle config now d = ⟨.error failure, d, [⟨.readCookies, failure⟩], []⟩ :=
  Action.bind_of_error (current_of_fault h) _

theorem toggle_of_unwritten (hr : d.fault .readCookies = none) {failure : Failure}
    (h : d.fault .writeCookie = some failure) (now : Int) :
    let directive := Preference.directive config.cookieName (stored config d).toggled.isDark
    toggle config now d = ⟨.error failure, d,
      [⟨.readCookies, none⟩, ⟨.writeCookie directive, failure⟩],
      [.preferenceRead config.cookieName (stored config d).isDark,
        .directiveWritten directive]⟩ := by
  rw [toggle, Action.bind_of_ok (current_of_works hr),
    Action.bind_of_error (Preference.write_of_fault h ..)]
  rfl

theorem toggle_of_works (hr : d.fault .readCookies = none) (hw : d.fault .writeCookie = none)
    (now : Int) :
    let directive := Preference.directive config.cookieName (stored config d).toggled.isDark
    let applied := apply config (d.written now directive)
    toggle config now d = ⟨applied.result, applied.document,
      ⟨.readCookies, none⟩ :: ⟨.writeCookie directive, none⟩ :: applied.calls,
      .preferenceRead config.cookieName (stored config d).isDark :: .directiveWritten directive ::
        d.complaints now directive ++ .toggled (stored config d).toggled :: applied.events⟩ := by
  intro directive applied
  rw [toggle, Action.bind_of_ok (current_of_works hr),
    Action.bind_of_ok (Preference.write_of_works hw ..), Action.bind_of_ok (by rfl)]
  simp [directive, applied]

theorem set_of_unreadable {failure : Failure} (h : d.fault .readCookies = some failure)
    (now : Int) (wanted : Theme) :
    set config now wanted d = ⟨.error failure, d, [⟨.readCookies, failure⟩], []⟩ :=
  Action.bind_of_error (current_of_fault h) _

theorem set_of_unwritten (hr : d.fault .readCookies = none) {failure : Failure}
    (h : d.fault .writeCookie = some failure) (now : Int) {wanted : Theme}
    (hne : stored config d ≠ wanted) :
    let directive := Preference.directive config.cookieName wanted.isDark
    set config now wanted d = ⟨.error failure, d,
      [⟨.readCookies, none⟩, ⟨.writeCookie directive, failure⟩],
      [.preferenceRead config.cookieName (stored config d).isDark,
        .directiveWritten directive]⟩ := by
  rw [set, Action.bind_of_ok (current_of_works hr)]
  dsimp only
  rw [if_pos hne, Action.bind_of_error (Preference.write_of_fault h ..)]
  rfl

theorem set_of_works (hr : d.fault .readCookies = none) (hw : d.fault .writeCookie = none)
    (now : Int) {wanted : Theme} (hne : stored config d ≠ wanted) :
    let directive := Preference.directive config.cookieName wanted.isDark
    let applied := apply config (d.written now directive)
    set config now wanted d = ⟨applied.result, applied.document,
      ⟨.readCookies, none⟩ :: ⟨.writeCookie directive, none⟩ :: applied.calls,
      .preferenceRead config.cookieName (stored config d).isDark :: .directiveWritten directive ::
        d.complaints now directive ++ applied.events⟩ := by
  intro directive applied
  rw [set, Action.bind_of_ok (current_of_works hr)]
  dsimp only
  rw [if_pos hne, Action.bind_of_ok (Preference.write_of_works hw ..)]
  simp [directive, applied]

theorem set_of_stored (hr : d.fault .readCookies = none) (now : Int) :
    set config now (stored config d) d =
      ⟨(apply config d).result, (apply config d).document,
        ⟨.readCookies, none⟩ :: (apply config d).calls,
        .preferenceRead config.cookieName (stored config d).isDark :: (apply config d).events⟩ := by
  rw [set, Action.bind_of_ok (current_of_works hr)]
  dsimp only
  rw [if_neg (not_not_intro rfl)]
  rfl

/-- The ways in which it can go to write a directive and to apply what is stored then, where `news`
is logged in between. -/
inductive Rewritten (config : Config) (now : Int) (d : Document) (directive : String)
    (news : List Event) : Outcome Theme → Prop
  | unreadable (failure : Failure) :
    Rewritten config now d directive news ⟨.error failure, d, [⟨.readCookies, failure⟩], []⟩
  | unwritten (failure : Failure) :
    Rewritten config now d directive news ⟨.error failure, d,
      [⟨.readCookies, none⟩, ⟨.writeCookie directive, failure⟩],
      [.preferenceRead config.cookieName (stored config d).isDark, .directiveWritten directive]⟩
  | written {applied : Outcome Theme} (h : applied = apply config (d.written now directive)) :
    Rewritten config now d directive news ⟨applied.result, applied.document,
      ⟨.readCookies, none⟩ :: ⟨.writeCookie directive, none⟩ :: applied.calls,
      .preferenceRead config.cookieName (stored config d).isDark :: .directiveWritten directive ::
        d.complaints now directive ++ (news ++ applied.events)⟩

theorem rewritten_toggle (config : Config) (now : Int) (d : Document) :
    Rewritten config now d
      (Preference.directive config.cookieName (stored config d).toggled.isDark)
      [.toggled (stored config d).toggled] (toggle config now d) := by
  cases hr : d.fault .readCookies with
  | some failure =>
    rw [toggle_of_unreadable hr]
    exact .unreadable failure
  | none =>
    cases hw : d.fault .writeCookie with
    | some failure =>
      rw [toggle_of_unwritten hr hw]
      exact .unwritten failure
    | none =>
      rw [toggle_of_works hr hw]
      exact .written rfl

theorem rewritten_set {wanted : Theme} (hne : stored config d ≠ wanted) (now : Int) :
    Rewritten config now d (Preference.directive config.cookieName wanted.isDark) []
      (set config now wanted d) := by
  cases hr : d.fault .readCookies with
  | some failure =>
    rw [set_of_unreadable hr]
    exact .unreadable failure
  | none =>
    cases hw : d.fault .writeCookie with
    | some failure =>
      rw [set_of_unwritten hr hw now hne]
      exact .unwritten failure
    | none =>
      rw [set_of_works hr hw now hne]
      exact .written rfl

end Controller
end ThemeSwitch
