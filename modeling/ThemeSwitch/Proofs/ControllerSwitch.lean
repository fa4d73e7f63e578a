import Mathlib.Logic.Function.Iterate
import ThemeSwitch.Proofs.ControllerCoherence

/-! # A controller is a switch

On a document that carries out what it is told, a controller with a valid configuration answers
like a switch with two positions. Which of them it starts in is what the cookies say. -/
namespace ThemeSwitch

/-- Whatever the document is told it carries out. -/
structure Document.Calm (d : Document) : Prop where
  works : ∀ kind, d.fault kind = none
  keeps : d.dropsWrites = false

theorem Document.Calm.written {d : Document} (h : d.Calm) (now : Int) (directive : String) :
    (d.written now directive).Calm := by
  constructor
  · exact Document.works_written h.works now directive
  · rw [dropsWrites_written, h.keeps]

namespace Preference
open Cookie

/-- In a text that fills a jar, the last value that is spelled for a name decides. -/
theorem ofCookies_ofString_iff {raw name : String} :
    ofCookies (Jar.ofString raw).text name = true ↔
      ∃ value, LastSpelled raw name value ∧ value ≠ "" ∧ value ≠ "false" := by
  simp [ofCookies_text, Option.any_eq_true, Jar.get?_ofString_eq_some_iff]

end Preference

namespace Controller
open Cookie Log

/-- What a controller can be asked for. -/
inductive Request
  | current
  | apply
  | toggle
  | set (wanted : Theme)
deriving DecidableEq, Repr

namespace Request

def step : Request → Step
  | current => .current
  | apply => .apply
  | toggle => .toggle
  | set wanted => .set wanted

/-- What a request is put to the controller by, at the given second. -/
def ask (config : Config) (now : Int) : Request → Action Theme
  | current => Controller.current config
  | apply => Controller.apply config
  | toggle => Controller.toggle config now
  | set wanted => Controller.set config now wanted

theorem perform_step (config : Config) (now : Int) (r : Request) :
    r.step.perform config now = Answer.theme <$> r.ask config now := by cases r <;> rfl

/-- The position of a switch after a request, from the position before. -/
def next (on : Bool) : Request → Bool
  | current | apply => on
  | toggle => !on
  | set wanted => wanted.isDark

/-- The positions in which a switch is found after each of the requests. -/
def positions (on : Bool) : List Request → List Bool
  | [] => []
  | r :: rest => r.next on :: positions (r.next on) rest

end Request

/-- The outcome answers with the position and leaves it stored, on a document that stays calm. -/
structure Lands (config : Config) (on : Bool) (outcome : Outcome Theme) : Prop where
  answers : outcome.result = .ok (.ofDark on)
  calm : outcome.document.Calm
  stored : stored config outcome.document = .ofDark on

variable {config : Config} {d : Document} {on : Bool}

theorem lands_current (hd : d.Calm) (ho : stored config d = .ofDark on) :
    Lands config on (current config d) := by
  rw [current_of_works (hd.works _)]
  exact ⟨congrArg _ ho, hd, ho⟩

theorem lands_apply (hv : config.Valid) (hd : d.Calm) (ho : stored config d = .ofDark on) :
    Lands config on (apply config d) := by
  obtain ⟨hr, hc⟩ := apply_of_works hd.works hv.isToken
  refine ⟨hr.trans (congrArg _ ho), ?_, ?_⟩
  · rw [hc]
    exact ⟨hd.works, hd.keeps⟩
  · rw [hc]
    exact ho

/-- A preference that was written is the stored one, whatever the clock says. -/
theorem stored_written (hv : config.Valid) (hd : d.Calm) (now : Int) (dark : Bool) :
    stored config (d.written now (Preference.directive config.cookieName dark)) =
      .ofDark dark := by
  obtain ⟨next, hs, hn⟩ := Preference.set_directive hv.carriable d.jar now dark
  rw [stored, Document.written, hd.keeps, if_neg Bool.false_ne_true, hs, hn]

theorem lands_toggle (hv : config.Valid) (hd : d.Calm) (ho : stored config d = .ofDark on)
    (now : Int) : Lands config (!on) (toggle config now d) := by
  have hdark : (stored config d).toggled.isDark = !on := by simp [ho]
  obtain ⟨hr, hc, hs⟩ := lands_apply hv (hd.written now _) (stored_written hv hd now (!on))
  rw [toggle_of_works (hd.works _) (hd.works _), hdark]
  exact ⟨hr, hc, hs⟩

theorem lands_set (hv : config.Valid) (hd : d.Calm) (now : Int) (wanted : Theme) :
    Lands config wanted.isDark (set config now wanted d) := by
  by_cases he : stored config d = wanted
  · obtain ⟨hr, hc, hs⟩ := lands_apply hv hd (he.trans wanted.ofDark_isDark.symm)
    rw [← he, set_of_stored (hd.works _), he]
    exact ⟨hr, hc, hs⟩
  · obtain ⟨hr, hc, hs⟩ :=
      lands_apply hv (hd.written now _) (stored_written hv hd now wanted.isDark)
    rw [set_of_works (hd.works _) (hd.works _) now he]
    exact ⟨hr, hc, hs⟩

/-- A request is answered by the position that it turns a switch to. -/
theorem lands_ask (hv : config.Valid) (hd : d.Calm) (ho : stored config d = .ofDark on)
    (now : Int) (r : Request) : Lands config (r.next on) (r.ask config now d) := by
  cases r with
  | current => exact lands_current hd ho
  | apply => exact lands_apply hv hd ho
  | toggle => exact lands_toggle hv hd ho now
  | set wanted => exact lands_set hv hd now wanted

/-- Requests put one after the other, each at its own second. -/
def requested (requests : List (Int × Request)) : List (Int × Step) :=
  requests.map fun r => (r.1, r.2.step)

theorem run_requested (hv : config.Valid) (hd : d.Calm) (ho : stored config d = .ofDark on)
    (requests : List (Int × Request)) :
    (run config (requested requests) d).map Outcome.result =
      (Request.positions on (requests.map Prod.snd)).map fun on => .ok (.theme (.ofDark on)) := by
  induction requests generalizing d on with
  | nil => rfl
  | cons r rest ih =>
    obtain ⟨now, r⟩ := r
    obtain ⟨hr, hc, hs⟩ := lands_ask hv hd ho now r
    rw [requested, List.map_cons, run, Request.perform_step, Action.map_apply]
    exact congrArg₂ List.cons (congrArg (Except.map Answer.theme) hr) (ih hc hs)

theorem stored_after_requested (hv : config.Valid) (hd : d.Calm)
    (ho : stored config d = .ofDark on) (requests : List (Int × Request)) :
    stored config (after config (requested requests) d) =
      .ofDark ((requests.map Prod.snd).foldl Request.next on) := by
  induction requests generalizing d on with
  | nil => exact ho
  | cons r rest ih =>
    obtain ⟨now, r⟩ := r
    obtain ⟨-, hc, hs⟩ := lands_ask hv hd ho now r
    rw [requested, List.map_cons, after, Request.perform_step, Action.map_apply]
    exact ih hc hs

theorem foldl_toggles (on : Bool) (nows : List Int) :
    (nows.map fun _ => Request.toggle).foldl Request.next on = not^[nows.length] on := by
  induction nows generalizing on with
  | nil => rfl
  | cons now nows ih => exact ih _

/-- From cookies and classes of any kind on, a controller with a valid configuration answers every
request, and answers like a switch. The switch begins turned on if the last value that the cookies
spell for the name of the preference is neither empty nor `false`. -/
theorem answers_like_switch {config : Config} (hv : config.Valid) (cookies classes : String) :
    let start : Document := { jar := .ofString cookies, classes := .ofString classes }
    ∃ on : Bool,
      (on = true ↔ ∃ value, LastSpelled cookies config.cookieName value ∧
        value ≠ "" ∧ value ≠ "false") ∧
      (∀ requests : List (Int × Request),
        (run config (requested requests) start).map Outcome.result =
          (Request.positions on (requests.map Prod.snd)).map fun on =>
            .ok (.theme (.ofDark on))) ∧
      ∀ nows : List Int,
        stored config (after config (requested (nows.map fun now => (now, .toggle))) start) =
          .ofDark (not^[nows.length] on) := by
  intro start
  have hd : start.Calm := ⟨fun _ => rfl, rfl⟩
  refine ⟨_, Preference.ofCookies_ofString_iff, run_requested hv hd rfl, fun nows => ?_⟩
  rw [stored_after_requested hv hd rfl, List.map_map]
  exact congrArg _ (foldl_toggles _ nows)

/-- The cookie may also be named like an attribute; of its two values the last one counts. -/
theorem answers_like_switch_expires :
    let config : Config := ⟨"Expires", "night"⟩
    let start : Document :=
      { jar := .ofString "Expires=never; x; Expires = false", classes := .ofString "night" }
    config.Valid ∧
      (run config (requested [(0, .toggle), (5, .current), (7, .set .light)]) start).map
        Outcome.result = [.ok (.theme .dark), .ok (.theme .dark), .ok (.theme .light)] := by
  intro config start
  have hv : config.Valid := by decide
  obtain ⟨on, ho, hr, -⟩ :=
    answers_like_switch hv "Expires=never; x; Expires = false" "night"
  rw [← Preference.ofCookies_ofString_iff] at ho
  cases on with
  | false => exact ⟨hv, hr _⟩
  | true => exact absurd (ho.1 rfl) (by decide)

end Controller
end ThemeSwitch
