import ThemeSwitch.Proofs.ControllerFrame

/-! # Toggling settles into a cycle of two

A toggle to the light theme leaves nothing behind of the cookie and the class. A toggle to the dark
theme adds both, the class at the end. From the second toggle on the document therefore goes to and
fro between two states, whatever it was like at the start. -/
namespace ThemeSwitch
open Cookie

/-- What a document holds. -/
def Document.contents (d : Document) : Jar × ClassList := (d.jar, d.classes)

theorem Document.Calm.written_directive {d : Document} (hd : d.Calm) {name : String}
    (hn : Carriable name) {now : Int} (h0 : 0 ≤ now) (dark : Bool) :
    (d.written now (Preference.directive name dark)).jar =
      if dark then d.jar.insert (Preference.pair hn true) else d.jar.erase name := by
  rw [Document.written, hd.keeps, if_neg Bool.false_ne_true, Preference.set_directive_eq hn]
  cases dark with
  | false => simp [h0]
  | true => rfl

namespace Controller

variable {config : Config} {d : Document} {now : Int}

theorem toggle_document (hv : config.Valid) (hd : d.Calm) (now : Int) :
    (toggle config now d).document =
      { d.written now
          (Preference.directive config.cookieName (stored config d).toggled.isDark) with
        classes := d.classes.put hv.isToken (stored config d).toggled.isDark } := by
  have hs := stored_written hv hd now (stored config d).toggled.isDark
  have ha := (apply_of_works (hd.written now (Preference.directive config.cookieName
    (stored config d).toggled.isDark)).works hv.isToken).2
  rw [hs, Theme.isDark_ofDark, Document.classes_written] at ha
  rw [toggle_of_works (hd.works _) (hd.works _)]
  exact ha

/-- A toggle to the light theme only takes away. -/
theorem toggle_of_dark (hv : config.Valid) (hd : d.Calm) (h0 : 0 ≤ now)
    (hs : stored config d = .dark) :
    (toggle config now d).document.contents = d.others config := by
  rw [toggle_document hv hd, hs]
  exact congrArg (·, _) (hd.written_directive hv.carriable h0 false)

/-- A toggle to the dark theme only adds. -/
theorem toggle_of_light (hv : config.Valid) (hd : d.Calm) (h0 : 0 ≤ now)
    (hs : stored config d = .light) :
    (toggle config now d).document.contents =
      (d.jar.insert (Preference.pair hv.carriable true),
        d.classes.insert config.darkClass hv.isToken) := by
  rw [toggle_document hv hd, hs]
  exact congrArg (·, _) (hd.written_directive hv.carriable h0 true)

/-- The document after as many toggles, each at the second that the clock shows by then. -/
def toggled (config : Config) (clock : Nat → Int) (start : Document) : Nat → Document
  | 0 => start
  | k + 1 => (toggle config (clock k) (toggled config clock start k)).document

variable {clock : Nat → Int} {start : Document}

theorem calm_toggled (hv : config.Valid) (hd : start.Calm) (k : Nat) :
    (toggled config clock start k).Calm := by
  induction k with
  | zero => exact hd
  | succ k ih => exact (lands_toggle hv ih (Theme.ofDark_isDark _).symm (clock k)).calm

/-- What a toggle returns is stored then, and it is not what was stored before. -/
theorem toggled_succ (hv : config.Valid) (hd : start.Calm) (k : Nat) :
    (toggle config (clock k) (toggled config clock start k)).result =
        .ok (stored config (toggled config clock start (k + 1))) ∧
      stored config (toggled config clock start (k + 1)) =
        (stored config (toggled config clock start k)).toggled := by
  obtain ⟨hr, -, hs⟩ :=
    lands_toggle hv (calm_toggled hv hd k) (Theme.ofDark_isDark _).symm (clock k)
  exact ⟨hr.trans (congrArg _ hs.symm), hs⟩

theorem others_toggled (hn : Carriable config.cookieName) (k : Nat) :
    (toggled config clock start k).others config = start.others config := by
  induction k with
  | zero => rfl
  | succ k ih => exact (others_ask hn (clock k) .toggle).trans ih

/-- Nothing is left behind of what the document was like before. -/
theorem contents_of_light (hv : config.Valid) (hd : start.Calm) (h0 : ∀ k, 0 ≤ clock k) {k : Nat}
    (hs : stored config (toggled config clock start (k + 1)) = .light) :
    (toggled config clock start (k + 1)).contents = start.others config := by
  have hbefore : stored config (toggled config clock start k) = .dark := by
    rw [(toggled_succ hv hd k).2] at hs
    rw [← Theme.toggled_toggled (stored _ _), hs]
    rfl
  exact (toggle_of_dark hv (calm_toggled hv hd k) (h0 k) hbefore).trans
    (others_toggled hv.carriable k)

theorem contents_of_dark (hv : config.Valid) (hd : start.Calm) (h0 : ∀ k, 0 ≤ clock k) {k : Nat}
    (hs : stored config (toggled config clock start (k + 2)) = .dark) :
    (toggled config clock start (k + 2)).contents =
      ((start.jar.erase config.cookieName).insert (Preference.pair hv.carriable true),
        (start.classes.erase config.darkClass).insert config.darkClass hv.isToken) := by
  have hbefore : stored config (toggled config clock start (k + 1)) = .light := by
    rw [(toggled_succ hv hd (k + 1)).2] at hs
    rw [← Theme.toggled_toggled (stored _ _), hs]
    rfl
  have hc := contents_of_light hv hd h0 hbefore
  obtain ⟨hj, hl⟩ : (toggled config clock start (k + 1)).jar = start.jar.erase config.cookieName ∧
      (toggled config clock start (k + 1)).classes = start.classes.erase config.darkClass :=
    Prod.mk.inj hc
  have ht := toggle_of_light hv (calm_toggled hv hd (k + 1)) (h0 (k + 1)) hbefore
  rw [hj, hl] at ht
  exact ht

theorem contents_toggled_add_two (hv : config.Valid) (hd : start.Calm) (h0 : ∀ k, 0 ≤ clock k)
    (k : Nat) : (toggled config clock start (k + 4)).contents =
      (toggled config clock start (k + 2)).contents := by
  have hs : stored config (toggled config clock start (k + 4)) =
      stored config (toggled config clock start (k + 2)) := by
    rw [(toggled_succ hv hd (k + 3)).2, (toggled_succ hv hd (k + 2)).2, Theme.toggled_toggled]
  cases h : stored config (toggled config clock start (k + 2)) with
  | light => rw [contents_of_light hv hd h0 h, contents_of_light hv hd h0 (hs.trans h)]
  | dark => rw [contents_of_dark hv hd h0 h, contents_of_dark hv hd h0 (hs.trans h)]

/-- Every toggle returns a theme. If it is the light one, the cookies are those of the start without
the preference, and the classes those of the start without the dark one. If it is the dark one, and
not the first toggle, the preference has been added to these cookies and the dark class to the end
of these classes. So from the second toggle on, every other state is the same. -/
theorem toggles_settle {config : Config} (hv : config.Valid) (jar : Jar) (classes : ClassList)
    {clock : Nat → Int} (h0 : ∀ k, 0 ≤ clock k) :
    let s := toggled config clock { jar, classes }
    (∀ k ≥ 2, (s (k + 2)).contents = (s k).contents) ∧
    ∀ k, ∃ theme, (toggle config (clock k) (s k)).result = .ok theme ∧
      (theme = .light → (s (k + 1)).jar = jar.erase config.cookieName ∧
        (s (k + 1)).classes = classes.erase config.darkClass) ∧
      (theme = .dark → k ≥ 1 →
        (∃ pair : Pair, pair.name = config.cookieName ∧ pair.value = "true" ∧
          (s (k + 1)).jar = (jar.erase config.cookieName).insert pair) ∧
        (s (k + 1)).classes.classes =
          (classes.erase config.darkClass).classes ++ [config.darkClass]) := by
  intro s
  have hd : Document.Calm { jar, classes } := ⟨fun _ => rfl, rfl⟩
  refine ⟨?_, fun k => ⟨_, (toggled_succ hv hd k).1, ?_, ?_⟩⟩
  · rintro (_ | _ | k) hk
    · omega
    · omega
    · exact contents_toggled_add_two hv hd h0 k
  · intro hs
    exact Prod.mk.inj (contents_of_light hv hd h0 hs)
  · rintro hs hk
    obtain ⟨k, rfl⟩ : ∃ j, k = j + 1 := ⟨k - 1, by omega⟩
    obtain ⟨hj, hl⟩ := Prod.mk.inj (contents_of_dark hv hd h0 hs)
    refine ⟨⟨Preference.pair hv.carriable true, rfl, rfl, hj⟩, ?_⟩
    rw [← ClassList.classes_insert_of_not_contains hv.isToken (classes.contains_erase _)]
    exact congrArg ClassList.classes hl

/-- A class that was there from the start, in front, stands at the end by the third toggle. -/
theorem toggles_settle_stale_class :
    let s := toggled {} (fun k => k)
      { jar := .ofString "dark=false; lang=en", classes := .ofString "dark wide" }
    Config.Valid {} ∧ (∀ k : Nat, 0 ≤ (k : Int)) ∧ (s 4).contents = (s 2).contents ∧
      (s 2).jar.text = "lang=en" ∧ (s 3).classes.classes = ["wide", "dark"] := by
  have hv : Config.Valid {} := by decide
  have h0 (k : Nat) : 0 ≤ (k : Int) := Int.natCast_nonneg k
  have hd : Document.Calm
      { jar := .ofString "dark=false; lang=en", classes := .ofString "dark wide" } :=
    ⟨fun _ => rfl, rfl⟩
  obtain ⟨hcycle, hstates⟩ :=
    toggles_settle hv (.ofString "dark=false; lang=en") (.ofString "dark wide") h0
  have hsucc := @toggled_succ _ (fun k => k) _ hv hd
  have hstart : stored {} (toggled {} (fun k => k)
    { jar := .ofString "dark=false; lang=en", classes := .ofString "dark wide" } 0) = .light := by
    decide
  -- The states are not to be computed, but to be read off these facts about them.
  generalize toggled {} (fun k => (k : Int))
    { jar := .ofString "dark=false; lang=en", classes := .ofString "dark wide" } = s
    at hcycle hstates hsucc hstart ⊢
  have h1 : stored {} (s 1) = .dark := (hsucc 0).2.trans (congrArg Theme.toggled hstart)
  have h2 : stored {} (s 2) = .light := (hsucc 1).2.trans (congrArg Theme.toggled h1)
  have h3 : stored {} (s 3) = .dark := (hsucc 2).2.trans (congrArg Theme.toggled h2)
  obtain ⟨theme, hr, hlight, -⟩ := hstates 1
  obtain ⟨theme', hr', -, hdark⟩ := hstates 2
  obtain rfl : .light = theme := by
    rw [← h2]
    exact Except.ok.inj ((hsucc 1).1.symm.trans hr)
  obtain rfl : .dark = theme' := by
    rw [← h3]
    exact Except.ok.inj ((hsucc 2).1.symm.trans hr')
  refine ⟨hv, h0, hcycle 2 (by decide), ?_, ?_⟩
  · exact (congrArg Jar.text (hlight rfl).1).trans (by decide)
  · exact (hdark rfl (by decide)).2.trans (by decide)

end Controller
end ThemeSwitch
