import ThemeSwitch.Proofs.ControllerActions

/-! # Actions do what their calls do

An action stops at the first call that fails, and fails as this call did. What it leaves of a
document is what its successful calls make of it, one after the other: nothing else touches the
document, and calls that fail do not touch it either. -/
namespace ThemeSwitch
open Cookie Log

/-- No call but the last one failed, and that it failed is what the result says. -/
inductive Ended {α : Type} : Except Failure α → List Made → Prop
  | ok {a : α} {calls : List Made} (h : ∀ made ∈ calls, made.failure = none) :
    Ended (.ok a) calls
  | error {failure : Failure} {calls : List Made} (h : ∀ made ∈ calls, made.failure = none)
    (last : Call) : Ended (.error failure) (calls ++ [⟨last, failure⟩])

namespace Ended

variable {α : Type} {result : Except Failure α} {calls : List Made}

theorem failed (c : Call) (failure : Failure) :
    Ended (.error failure : Except Failure α) [⟨c, failure⟩] :=
  @error _ failure [] (fun _ hm => absurd hm List.not_mem_nil) c

theorem all_succeeded {a : α} (h : Ended (.ok a) calls) : ∀ made ∈ calls, made.failure = none := by
  cases h with
  | ok hc => exact hc

/-- A failure ends an action of any type. -/
theorem of_error {β : Type} {failure : Failure} (h : Ended (.error failure : Except Failure α) calls) :
    Ended (.error failure : Except Failure β) calls := by
  cases h with
  | error hc last => exact .error hc last

theorem append {before : List Made} (hb : ∀ made ∈ before, made.failure = none)
    (h : Ended result calls) : Ended result (before ++ calls) := by
  have join {more : List Made} (hm : ∀ made ∈ more, made.failure = none) :
      ∀ made ∈ before ++ more, made.failure = none := by
    intro made h
    rcases List.mem_append.1 h with h | h
    · exact hb made h
    · exact hm made h
  cases h with
  | ok hc => exact .ok (join hc)
  | error hc last =>
    rw [← List.append_assoc]
    exact .error (join hc) last

theorem of_mem_dropLast (h : Ended result calls) :
    ∀ made ∈ calls.dropLast, made.failure = none := by
  cases h with
  | ok hc => exact fun made hm => hc made ((List.dropLast_sublist _).subset hm)
  | error hc last =>
    rw [List.dropLast_concat]
    exact hc

theorem error_iff (h : Ended result calls) (failure : Failure) :
    result = .error failure ↔ ∃ last ∈ calls.getLast?, last.failure = some failure := by
  cases h with
  | ok hc =>
    constructor
    · intro he
      cases he
    · rintro ⟨last, hl, hf⟩
      rw [hc last (List.mem_of_mem_getLast? hl)] at hf
      cases hf
  | error hc last => simp

end Ended

/-- A call of that kind was made, and did its work. -/
def Succeeded (kind : Call.Kind) (calls : List Made) : Prop :=
  ∃ made ∈ calls, made.call.kind = kind ∧ made.failure = none

namespace Document

/-- The document after a call that was made: what failed has changed nothing. -/
def redo (now : Int) (d : Document) : Made → Document
  | ⟨.writeCookie directive, none⟩ => d.written now directive
  | ⟨.setClass name present, none⟩ =>
    match d.classes.set name present with
    | .ok classes => { d with classes }
    | .error _ => d
  | _ => d

/-- The document after calls that were made, one after the other. -/
def replay (now : Int) (d : Document) (calls : List Made) : Document := calls.foldl (redo now) d

variable {now : Int} {d : Document}

theorem redo_of_failure (now : Int) (d : Document) (c : Call) (failure : Failure) :
    d.redo now ⟨c, some failure⟩ = d := by
  cases c <;> rfl

theorem dropsWrites_redo (now : Int) (d : Document) (made : Made) :
    (d.redo now made).dropsWrites = d.dropsWrites := by
  obtain ⟨c, _ | failure⟩ := made
  · cases c with
    | readCookies | hasClass => rfl
    | writeCookie directive => exact d.dropsWrites_written now directive
    | setClass name present =>
      rw [redo]
      split <;> rfl
  · rw [redo_of_failure]

theorem jar_redo (made : Made)
    (h : made.call.kind = .writeCookie → made.failure = none → d.dropsWrites = true) :
    (d.redo now made).jar = d.jar := by
  obtain ⟨c, _ | failure⟩ := made
  · cases c with
    | readCookies | hasClass => rfl
    | writeCookie directive => rw [redo, written, if_pos (h rfl rfl)]
    | setClass name present =>
      rw [redo]
      split <;> rfl
  · rw [redo_of_failure]

theorem classes_redo (made : Made) (h : made.call.kind = .setClass → made.failure ≠ none) :
    (d.redo now made).classes = d.classes := by
  obtain ⟨c, _ | failure⟩ := made
  · cases c with
    | readCookies | hasClass => rfl
    | writeCookie directive => exact d.classes_written now directive
    | setClass name present => exact absurd rfl (h rfl)
  · rw [redo_of_failure]

/-- Only a cookie that was written, and not lost, changes the jar. -/
theorem jar_replay {calls : List Made} (h : Succeeded .writeCookie calls → d.dropsWrites = true) :
    (d.replay now calls).jar = d.jar := by
  induction calls generalizing d with
  | nil => rfl
  | cons made rest ih =>
    have hrest : Succeeded .writeCookie rest → (d.redo now made).dropsWrites = true := by
      rintro ⟨m, hm, hs⟩
      rw [dropsWrites_redo]
      exact h ⟨m, List.mem_cons_of_mem _ hm, hs⟩
    calc (d.replay now (made :: rest)).jar
      _ = (d.redo now made).jar := ih hrest
      _ = d.jar := jar_redo made fun hk hf => h ⟨made, List.mem_cons_self, hk, hf⟩

/-- Only a class that was set changes the class list. -/
theorem classes_replay {calls : List Made} (h : ¬ Succeeded .setClass calls) :
    (d.replay now calls).classes = d.classes := by
  induction calls generalizing d with
  | nil => rfl
  | cons made rest ih =>
    have hrest : ¬ Succeeded .setClass rest :=
      fun ⟨m, hm, hs⟩ => h ⟨m, List.mem_cons_of_mem _ hm, hs⟩
    calc (d.replay now (made :: rest)).classes
      _ = (d.redo now made).classes := ih hrest
      _ = d.classes := classes_redo made fun hk hf => h ⟨made, List.mem_cons_self, hk, hf⟩

end Document

/-! ## Calls account for all -/

/-- The calls of an outcome account for its result and for its document. -/
structure Accounted {α : Type} (now : Int) (d : Document) (o : Outcome α) : Prop where
  ended : Ended o.result o.calls
  document : o.document = d.replay now o.calls

namespace Action

variable {α β : Type} (now : Int)

theorem accounted_done (a : α) (d : Document) : Accounted now d ((pure a : Action α) d) :=
  ⟨.ok (by simp [pure, done]), rfl⟩

theorem accounted_log (event : Event) (d : Document) : Accounted now d (log event d) :=
  ⟨.ok (by simp [log]), rfl⟩

theorem accounted_bind {x : Action α} {f : α → Action β} (hx : ∀ d, Accounted now d (x d))
    (hf : ∀ a d, Accounted now d (f a d)) (d : Document) : Accounted now d ((x >>= f) d) := by
  obtain ⟨he, hd⟩ := hx d
  rcases bind_cases x f d with ⟨failure, hr, e⟩ | ⟨a, hr, e⟩
  · rw [hr] at he
    rw [e]
    exact ⟨he.of_error, hd⟩
  · obtain ⟨he', hd'⟩ := hf a (x d).document
    rw [hr] at he
    rw [e]
    refine ⟨he'.append he.all_succeeded, ?_⟩
    calc (f a (x d).document).document
      _ = (x d).document.replay now (f a (x d).document).calls := hd'
      _ = (d.replay now (x d).calls).replay now (f a (x d).document).calls := by rw [← hd]
      _ = d.replay now ((x d).calls ++ (f a (x d).document).calls) := List.foldl_append.symm

/-- A call is accounted for if it does to the document what it stands for, and nothing where it is
refused. -/
theorem accounted_call {c : Call} {work : Document → Except Failure α × Document × List Event}
    {d : Document}
    (hok : ∀ a d' events, work d = (.ok a, d', events) → d' = d.redo now ⟨c, none⟩)
    (herror : ∀ failure d' events, work d = (.error failure, d', events) → d' = d) :
    Accounted now d (call c work d) := by
  have hfailed (failure : Failure) : d = d.replay now [⟨c, failure⟩] :=
    (d.redo_of_failure now c failure).symm
  rw [call]
  split
  · next failure _ => exact ⟨.failed c failure, hfailed failure⟩
  · split
    · next a d' events hw => exact ⟨.ok (by simp), hok a d' events hw⟩
    · next failure d' events hw =>
      exact ⟨.failed c failure, (herror failure d' events hw).trans (hfailed failure)⟩

theorem accounted_readCookies (d : Document) : Accounted now d (readCookies d) :=
  accounted_call now (by rintro _ _ _ ⟨⟩; rfl) (by rintro _ _ _ ⟨⟩)

theorem accounted_writeCookie (directive : String) (d : Document) :
    Accounted now d (writeCookie now directive d) := by
  refine accounted_call now (fun a d' events hw => ?_) (fun failure d' events hw => ?_)
  · rw [Document.redo, Document.written]
    split at hw
    · next hl =>
      cases hw
      rw [if_pos hl]
    · next hl =>
      cases hw
      rw [if_neg hl]
      rfl
  · split at hw <;> cases hw

theorem accounted_hasClass (name : String) (d : Document) :
    Accounted now d (hasClass name d) :=
  accounted_call now (by rintro _ _ _ ⟨⟩; rfl) (by rintro _ _ _ ⟨⟩)

theorem accounted_setClass (name : String) (present : Bool) (d : Document) :
    Accounted now d (setClass name present d) := by
  refine accounted_call now (fun a d' events hw => ?_) (fun failure d' events hw => ?_)
  · split at hw
    · next hs =>
      cases hw
      rw [Document.redo, hs]
    · cases hw
  · split at hw <;> cases hw
    rfl

end Action

namespace Controller

theorem inherited_accounted (config : Config) (now : Int) :
    Inherited config now (Accounted now) where
  done := Action.accounted_done now
  log _ := Action.accounted_log now _
  bind := Action.accounted_bind now
  readCookies := Action.accounted_readCookies now
  writeCookie _ := Action.accounted_writeCookie now _
  hasClass := Action.accounted_hasClass now _
  setClass := Action.accounted_setClass now _

end Controller
end ThemeSwitch
