import Mathlib.Algebra.Ring.Parity
import Mathlib.Data.List.Induction
import ThemeSwitch.Page.Basic
import ThemeSwitch.Proofs.ConfigEnvironment
import ThemeSwitch.Proofs.ControllerSwitch
import ThemeSwitch.Proofs.PageMarkup
import ThemeSwitch.Proofs.QuietActions

/-! # The page follows the clicks

A page whose configuration is valid turns dark and light by turns with the clicks on its button, and
logs no error. Without a valid configuration it stays light, and logs an error at every click. -/
namespace ThemeSwitch
open Log

/-- What a click turns a page to, from what it was turned to. -/
def Click.turn (on : Bool) : Click → Bool
  | .toggle => !on
  | .home => on

namespace Page

/-- The page after clicks, each at its own second. -/
def clicked (page : Page) (clicks : List (Int × Click)) : Page :=
  clicks.foldl (fun page c => (page.click c.1 c.2).1) page

/-- How often the toggle button is among the clicks. -/
def toggles (clicks : List (Int × Click)) : Nat := (clicks.map Prod.snd).count .toggle

theorem length_follow (page : Page) (clicks : List (Int × Click)) :
    (page.follow clicks).length = clicks.length := by
  induction clicks generalizing page with
  | nil => rfl
  | cons c rest ih => exact congrArg Nat.succ (ih _)

/-- Every click meets the page as those before it left it. -/
theorem getElem?_follow (page : Page) (clicks : List (Int × Click)) (k : Nat) :
    (page.follow clicks)[k]? = clicks[k]?.map fun c =>
      let (next, events) := (page.clicked (clicks.take k)).click c.1 c.2
      ⟨next.html, events⟩ := by
  induction clicks generalizing page k with
  | nil => rfl
  | cons c rest ih =>
    cases k with
    | zero => rfl
    | succ k => exact ih _ k

theorem clicked_take_succ {page : Page} {clicks : List (Int × Click)} {k : Nat} {c : Int × Click}
    (h : clicks[k]? = some c) :
    page.clicked (clicks.take (k + 1)) = ((page.clicked (clicks.take k)).click c.1 c.2).1 := by
  rw [clicked, List.take_add_one, h, List.foldl_append]
  rfl

variable {env : Environment} {clicks : List (Int × Click)} {k : Nat}

theorem getElem?_frames_zero :
    (frames env clicks)[0]? = some ⟨(mount env).1.html, (mount env).2⟩ := rfl

theorem getElem?_frames_succ {c : Int × Click} (h : clicks[k]? = some c) :
    (frames env clicks)[k + 1]? = some
      ⟨((mount env).1.clicked (clicks.take (k + 1))).html,
        (((mount env).1.clicked (clicks.take k)).click c.1 c.2).2⟩ := by
  rw [clicked_take_succ h]
  change ((mount env).1.follow clicks)[k]? = _
  rw [getElem?_follow, h]
  rfl

/-- A frame is the one after mounting, or belongs to a click. -/
theorem frames_cases {frame : Frame} (h : (frames env clicks)[k]? = some frame) :
    frame.html = ((mount env).1.clicked (clicks.take k)).html ∧
      (k = 0 ∧ frame.events = (mount env).2 ∨
        ∃ j c, k = j + 1 ∧ clicks[j]? = some c ∧
          frame.events = (((mount env).1.clicked (clicks.take j)).click c.1 c.2).2) := by
  cases k with
  | zero =>
    cases h
    exact ⟨rfl, .inl ⟨rfl, rfl⟩⟩
  | succ j =>
    cases hc : clicks[j]? with
    | none =>
      change ((mount env).1.follow clicks)[j]? = _ at h
      rw [getElem?_follow, hc] at h
      cases h
    | some c =>
      rw [getElem?_frames_succ hc] at h
      cases h
      exact ⟨rfl, .inr ⟨j, c, rfl, hc, rfl⟩⟩

theorem length_frames (env : Environment) (clicks : List (Int × Click)) :
    (frames env clicks).length = clicks.length + 1 := congrArg Nat.succ (length_follow _ _)

theorem html_frames (h : k ≤ clicks.length) :
    (frames env clicks)[k]?.map Frame.html =
      some ((mount env).1.clicked (clicks.take k)).html := by
  have hk : k < (frames env clicks).length := by
    rw [length_frames]
    omega
  have hf := List.getElem?_eq_getElem hk
  rw [hf]
  exact congrArg some (frames_cases hf).1

/-! ## With a controller -/

/-- The page shows the position of a switch that its document keeps. -/
structure Turned (config : Config) (on : Bool) (page : Page) : Prop where
  attached : page.config = some config
  shown : page.theme = .ofDark on
  calm : page.document.Calm
  stored : Controller.stored config page.document = .ofDark on

variable {config : Config} {on : Bool} {page : Page}

theorem Turned.html (h : Turned config on page) : page.html =
    if on then (darkPage config.darkClass).render else lightPage.render := by
  rw [Page.html, rootClass, h.attached, h.shown]
  cases on with
  | false => exact congrArg Html.render root_light
  | true => exact congrArg Html.render (root_dark _)

theorem turned_act (hc : page.config = some config) {action : Action Theme}
    (ha : action.Quiet) (h : Controller.Lands config on (action page.document))
    (failed : Failure → Event) :
    Turned config on (page.act action failed).1 ∧
      ∀ event ∈ (page.act action failed).2, event.level ≠ .error := by
  rw [act, h.answers]
  exact ⟨⟨hc, rfl, h.calm, h.stored⟩, ha page.document⟩

theorem mount_of_valid (hv : (Config.wanted env).Valid) :
    Turned (Config.wanted env) false (mount env).1 ∧
      ∀ event ∈ (mount env).2, event.level ≠ .error := by
  obtain ⟨events, he, hq⟩ := Config.ofEnvironment_eq env
  have hc : Page.config ⟨some (Config.wanted env), {}, default⟩ = some (Config.wanted env) := rfl
  obtain ⟨ht, hq'⟩ := turned_act hc (Controller.quiet_apply _)
    (Controller.lands_apply hv ⟨fun _ => rfl, rfl⟩ rfl) .applyFailed
  have ha : Controller.attach (Config.wanted env) =
      .ok (Config.wanted env, [.attached (Config.wanted env).cookieName]) := by
    rw [Controller.attach, Config.validated_of_valid hv]
    rfl
  simp only [mount, he, Config.validated_of_valid hv, Except.bind, ha]
  refine ⟨ht, fun event hm => ?_⟩
  rcases List.mem_append.1 hm with hm | hm
  · rcases List.mem_append.1 hm with hm | hm
    · exact hq event hm
    · rw [List.mem_singleton.1 hm]
      simp [Event.level]
  · exact hq' event hm

theorem Turned.click (hv : config.Valid) (h : Turned config on page) (now : Int) (c : Click) :
    Turned config (Click.turn on c) (page.click now c).1 ∧
      ∀ event ∈ (page.click now c).2, event.level ≠ .error := by
  cases c with
  | home => exact ⟨h, fun event he => by cases he⟩
  | toggle =>
    rw [Page.click, h.attached]
    exact turned_act h.attached (Controller.quiet_toggle _ _)
      (Controller.lands_toggle hv h.calm h.stored now) _

theorem decide_odd_toggles (front : List (Int × Click)) (c : Int × Click) :
    decide (Odd (toggles (front ++ [c]))) = Click.turn (decide (Odd (toggles front))) c.2 := by
  obtain ⟨now, _ | _⟩ := c
  · have ht : toggles (front ++ [(now, .toggle)]) = toggles front + 1 := by simp [toggles]
    rw [Click.turn, ← decide_not, decide_eq_decide, ht, Nat.odd_add_one]
  · have ht : toggles (front ++ [(now, .home)]) = toggles front := by simp [toggles]
    rw [Click.turn, decide_eq_decide, ht]

/-- After clicks the page is turned on if an odd number of them were on the toggle button. -/
theorem turned_clicked (hv : config.Valid) (h : Turned config false page)
    (clicks : List (Int × Click)) :
    Turned config (decide (Odd (toggles clicks))) (page.clicked clicks) := by
  induction clicks using List.reverseRecOn with
  | nil => exact h
  | append_singleton front c ih =>
    rw [clicked, List.foldl_append, decide_odd_toggles]
    exact (ih.click hv c.1 c.2).1

theorem frame_of_valid (hv : (Config.wanted env).Valid) {frame : Frame}
    (hf : (frames env clicks)[k]? = some frame) :
    (frame.html = if Odd (toggles (clicks.take k)) then
        (darkPage (Config.wanted env).darkClass).render else lightPage.render) ∧
      ∀ event ∈ frame.events, event.level ≠ .error := by
  obtain ⟨hm, hq⟩ := mount_of_valid hv
  obtain ⟨hh, he⟩ := frames_cases hf
  constructor
  · rw [hh, (turned_clicked hv hm (clicks.take k)).html]
    simp only [decide_eq_true_eq]
  · rcases he with ⟨-, he⟩ | ⟨j, c, -, -, he⟩
    · exact he ▸ hq
    · exact he ▸ ((turned_clicked hv hm (clicks.take j)).click hv c.1 c.2).2

/-! ## Without a controller -/

theorem mount_of_not_valid (hv : ¬ (Config.wanted env).Valid) :
    ∃ defect events, (Config.wanted env).defect? = some defect ∧
      mount env =
        (⟨none, {}, .light⟩, events ++ [.unavailable ⟨.invalidConfig, defect.message⟩]) ∧
      ∀ event ∈ events, event.level ≠ .error := by
  obtain ⟨events, he, hq⟩ := Config.ofEnvironment_eq env
  obtain ⟨defect, hd, hf⟩ := Config.validated_of_not_valid hv
  exact ⟨defect, events, hd, by rw [mount, he, hf]; rfl, hq⟩

theorem clicked_of_detached (h : page.config = none) (clicks : List (Int × Click)) :
    page.clicked clicks = page := by
  induction clicks with
  | nil => rfl
  | cons c rest ih =>
    obtain ⟨now, _ | _⟩ := c
    · rw [clicked, List.foldl_cons, click, h]
      exact ih
    · exact ih

/-- What is seen of a page without a controller: it complains once, and at every toggle. -/
theorem frames_of_not_valid (hv : ¬ (Config.wanted env).Valid) :
    (∃ frame defect, (frames env clicks)[0]? = some frame ∧
      (Config.wanted env).defect? = some defect ∧
      frame.events.filter (·.level = .error) = [.unavailable ⟨.invalidConfig, defect.message⟩]) ∧
    (∀ frame ∈ frames env clicks, frame.html = lightPage.render) ∧
    ∀ k now, clicks[k]? = some (now, .toggle) →
      ∃ frame, (frames env clicks)[k + 1]? = some frame ∧
        frame.events = [.toggleFailed .notAttached] := by
  obtain ⟨defect, events, hd, hm, hq⟩ := mount_of_not_valid hv
  have hc (clicks : List (Int × Click)) : (mount env).1.clicked clicks = ⟨none, {}, .light⟩ := by
    rw [hm]
    exact clicked_of_detached rfl clicks
  refine ⟨⟨_, defect, getElem?_frames_zero, hd, ?_⟩, ?_, ?_⟩
  · have hnone : events.filter (·.level = .error) = [] := by simpa using hq
    rw [hm, List.filter_append, hnone]
    rfl
  · intro frame hf
    obtain ⟨k, hk⟩ := List.mem_iff_getElem?.1 hf
    rw [(frames_cases hk).1, hc]
    rfl
  · intro k now hk
    refine ⟨_, getElem?_frames_succ hk, ?_⟩
    dsimp only
    rw [hc]
    rfl

/-- A click on the link to the page changes nothing, with a controller or without. -/
theorem frame_of_home {now : Int} (h : clicks[k]? = some (now, .home)) :
    ∃ frame, (frames env clicks)[k + 1]? = some frame ∧
      (frames env clicks)[k]?.map Frame.html = some frame.html ∧ frame.events = [] := by
  obtain ⟨hlt, -⟩ := List.getElem?_eq_some_iff.1 h
  refine ⟨_, getElem?_frames_succ h, ?_, rfl⟩
  rw [clicked_take_succ h]
  exact html_frames (Nat.le_of_lt hlt)

/-- A page has two looks, the dark one after an odd number of clicks on the toggle button, and logs
no error, if the configuration that its environment asks for is valid. Otherwise it is light, and
logs one error when it is mounted and one more at every click on the button. A click on the link to
the page changes nothing. -/
theorem frames_follow_clicks (env : Environment) (clicks : List (Int × Click)) :
    let config := Config.wanted env
    let seen := frames env clicks
    seen.length = clicks.length + 1 ∧
    (if config.Valid then
      ∀ k frame, seen[k]? = some frame →
        (frame.html = lightPage.render ∨ frame.html = (darkPage config.darkClass).render) ∧
        (frame.html = (darkPage config.darkClass).render ↔ Odd (toggles (clicks.take k))) ∧
        ∀ event ∈ frame.events, event.level ≠ .error
    else
      (∃ frame defect, seen[0]? = some frame ∧ config.defect? = some defect ∧
        (frame.events.filter (·.level = .error)).map Event.message =
          ["Theme controller unavailable: Invalid Config: " ++ defect.message]) ∧
      (∀ frame ∈ seen, frame.html = lightPage.render) ∧
      ∀ k now, clicks[k]? = some (now, .toggle) → ∃ frame, seen[k + 1]? = some frame ∧
        frame.events.map (fun event => (event.level, event.message)) =
          [(.error, "Failed to toggle theme: Unavailable: theme controller not attached")]) ∧
    ∀ k now, clicks[k]? = some (now, .home) → ∃ frame, seen[k + 1]? = some frame ∧
      seen[k]?.map Frame.html = some frame.html ∧ frame.events = [] := by
  intro config seen
  refine ⟨length_frames env clicks, ?_, fun k now h => frame_of_home h⟩
  split
  · next hv =>
    intro k frame hf
    obtain ⟨hh, hq⟩ := frame_of_valid hv hf
    have hne := render_darkPage_ne config.darkClass
    by_cases ho : Odd (toggles (clicks.take k))
    · rw [if_pos ho] at hh
      exact ⟨.inr hh, iff_of_true hh ho, hq⟩
    · rw [if_neg ho] at hh
      exact ⟨.inl hh, iff_of_false (fun h => hne (h.symm.trans hh)) ho, hq⟩
  · next hv =>
    obtain ⟨⟨frame, defect, hf, hd, he⟩, hlight, htoggle⟩ := frames_of_not_valid hv
    refine ⟨⟨frame, defect, hf, hd, ?_⟩, hlight, fun k now h => ?_⟩
    · rw [he]
      rfl
    · obtain ⟨frame, hf, he⟩ := htoggle k now h
      refine ⟨frame, hf, ?_⟩
      rw [he]
      rfl

end Page
end ThemeSwitch
