import ThemeSwitch.Proofs.AccountedActions

/-! # What a controller leaves alone

A controller makes calls about one cookie and one class only. Whatever it is asked for, and whatever
of it fails, the cookies of all other names and all other classes therefore stay as they are, the
classes in their order. -/
namespace ThemeSwitch
open Cookie

/-- A call that the controller of a configuration may make. -/
inductive Own (config : Config) : Call → Prop
  | readCookies : Own config .readCookies
  | writeCookie (dark : Bool) :
    Own config (.writeCookie (Preference.directive config.cookieName dark))
  | hasClass : Own config (.hasClass config.darkClass)
  | setClass (present : Bool) : Own config (.setClass config.darkClass present)

namespace Action

variable {config : Config}

theorem own_call {α : Type} {c : Call} (h : Own config c)
    (work : Document → Except Failure α × Document × List Log.Event) (d : Document) :
    ∀ made ∈ (call c work d).calls, Own config made.call := by
  obtain ⟨failure, hc⟩ : ∃ failure, (call c work d).calls = [⟨c, failure⟩] := by
    rw [call]
    split
    · exact ⟨_, rfl⟩
    · split <;> exact ⟨_, rfl⟩
  intro made hm
  rw [hc, List.mem_singleton] at hm
  exact hm ▸ h

theorem own_bind {α β : Type} {x : Action α} {f : α → Action β}
    (hx : ∀ d, ∀ made ∈ (x d).calls, Own config made.call)
    (hf : ∀ a d, ∀ made ∈ (f a d).calls, Own config made.call) (d : Document) :
    ∀ made ∈ ((x >>= f) d).calls, Own config made.call := by
  intro made hm
  rcases bind_cases x f d with ⟨failure, -, e⟩ | ⟨a, -, e⟩
  · rw [e] at hm
    exact hx d made hm
  · rw [e] at hm
    rcases List.mem_append.1 hm with hm | hm
    · exact hx d made hm
    · exact hf a _ made hm

end Action

namespace Document

/-- The document without the cookie and the class of a configuration. -/
def others (config : Config) (d : Document) : Jar × ClassList :=
  (d.jar.erase config.cookieName, d.classes.erase config.darkClass)

variable {config : Config} {d : Document} {now : Int}

theorem others_written (hn : Carriable config.cookieName) (dark : Bool) :
    (d.written now (Preference.directive config.cookieName dark)).others config =
      d.others config := by
  rw [written, Preference.set_directive_eq hn]
  split
  · rfl
  · refine congrArg (·, _) ?_
    dsimp only
    split
    · exact d.jar.erase_erase _
    · exact d.jar.erase_insert (Preference.pair hn dark)

theorem others_redo (hn : Carriable config.cookieName) {made : Made} (h : Own config made.call) :
    (d.redo now made).others config = d.others config := by
  obtain ⟨c, _ | failure⟩ := made
  · cases h with
    | readCookies | hasClass => rfl
    | writeCookie dark => exact others_written hn dark
    | setClass present =>
      rw [redo]
      split
      · next hs => rw [others, ClassList.erase_of_set hs, others]
      · rfl
  · rw [redo_of_failure]

theorem others_replay (hn : Carriable config.cookieName) {calls : List Made}
    (h : ∀ made ∈ calls, Own config made.call) :
    (d.replay now calls).others config = d.others config := by
  induction calls generalizing d with
  | nil => rfl
  | cons made rest ih =>
    obtain ⟨hm, hrest⟩ := List.forall_mem_cons.1 h
    calc (d.replay now (made :: rest)).others config
      _ = (d.redo now made).others config := ih hrest
      _ = d.others config := others_redo hn hm

end Document

namespace Controller

theorem inherited_own (config : Config) (now : Int) :
    Inherited config now fun _ o => ∀ made ∈ o.calls, Own config made.call where
  done a d made hm := by cases hm
  log _ d made hm := by cases hm
  bind := Action.own_bind
  readCookies := Action.own_call .readCookies _
  writeCookie dark := Action.own_call (.writeCookie dark) _
  hasClass := Action.own_call .hasClass _
  setClass present := Action.own_call (.setClass present) _

variable {config : Config} {d : Document}

theorem others_ask (hn : Carriable config.cookieName) (now : Int) (r : Request) :
    (r.ask config now d).document.others config = d.others config := by
  rw [((inherited_accounted config now).ask r d).document]
  exact Document.others_replay hn ((inherited_own config now).ask r d)

theorem length_run (config : Config) (steps : List (Int × Step)) (d : Document) :
    (run config steps d).length = steps.length := by
  induction steps generalizing d with
  | nil => rfl
  | cons s rest ih => exact congrArg Nat.succ (ih _)

theorem others_run (hn : Carriable config.cookieName) (requests : List (Int × Request)) :
    ∀ outcome ∈ run config (requested requests) d,
      outcome.document.others config = d.others config := by
  induction requests generalizing d with
  | nil =>
    intro outcome ho
    cases ho
  | cons r rest ih =>
    have hfirst : (r.2.step.perform config r.1 d).document.others config = d.others config := by
      rw [Request.perform_step, Action.map_apply]
      exact others_ask hn r.1 r.2
    intro outcome ho
    rcases List.mem_cons.1 ho with rfl | ho
    · exact hfirst
    · exact (ih outcome ho).trans hfirst

theorem list_of_others {d d' : Document} (h : d'.others config = d.others config) :
    (Pair.list d'.jar.text).filter (·.name != config.cookieName) =
      (Pair.list d.jar.text).filter (·.name != config.cookieName) := by
  rw [Jar.list_text, Jar.list_text]
  exact congrArg (Jar.pairs ∘ Prod.fst) h

theorem value?_of_others {d d' : Document} (h : d'.others config = d.others config)
    {name : String} (hne : name ≠ config.cookieName) :
    value? d'.jar.text name = value? d.jar.text name := by
  have hg (jar : Jar) : value? jar.text name = (jar.erase config.cookieName).get? name := by
    rw [Jar.value?_text, Jar.get?_erase, if_neg hne.symm]
  rw [hg, hg]
  exact congrArg (fun o => Jar.get? o.1 name) h

theorem classes_of_others {d d' : Document} (h : d'.others config = d.others config) :
    d'.classes.classes.filter (· != config.darkClass) =
      d.classes.classes.filter (· != config.darkClass) := by
  rw [← d'.classes.nodup.erase_eq_filter, ← d.classes.nodup.erase_eq_filter]
  exact congrArg (ClassList.classes ∘ Prod.snd) h

/-- At every point of a run of requests, the pairs in the cookie text that have another name than
the cookie of the configuration are those of the start, every other name reads as at the start, and
the classes other than the dark one are those of the start, in the same order. -/
theorem others_kept {config : Config} (hv : config.Valid) (start : Document)
    (requests : List (Int × Request)) :
    (run config (requested requests) start).length = requests.length ∧
    ∀ outcome ∈ run config (requested requests) start,
      let d := outcome.document
      (Pair.list d.jar.text).filter (·.name != config.cookieName) =
        (Pair.list start.jar.text).filter (·.name != config.cookieName) ∧
      (∀ name ≠ config.cookieName, value? d.jar.text name = value? start.jar.text name) ∧
      d.classes.classes.filter (· != config.darkClass) =
        start.classes.classes.filter (· != config.darkClass) := by
  refine ⟨?_, fun outcome ho => ?_⟩
  · rw [length_run, requested, List.length_map]
  · have h := others_run hv.carriable requests outcome ho
    exact ⟨list_of_others h, fun name hne => value?_of_others h hne, classes_of_others h⟩

/-- Names that begin with the cookie's, or differ from it in case, are other names. -/
theorem others_kept_lookalikes :
    let start : Document :=
      { jar := .ofString "darkness=1; dark=false; Dark=2", classes := .ofString "wide dark darker" }
    let requests := [(0, Request.toggle), (5, .set .light), (9, .toggle)]
    Config.Valid {} ∧ ∀ outcome ∈ run {} (requested requests) start,
      value? outcome.document.jar.text "darkness" = some "1" ∧
      value? outcome.document.jar.text "Dark" = some "2" ∧
      outcome.document.classes.classes.filter (· != "dark") = ["wide", "darker"] := by
  intro start requests
  have hv : Config.Valid {} := by decide
  refine ⟨hv, fun outcome ho => ?_⟩
  obtain ⟨-, hvalue, hclasses⟩ := (others_kept hv start requests).2 outcome ho
  refine ⟨?_, ?_, ?_⟩
  · exact (hvalue "darkness" (by decide)).trans (by decide)
  · exact (hvalue "Dark" (by decide)).trans (by decide)
  · exact hclasses.trans (by decide)

end Controller
end ThemeSwitch
