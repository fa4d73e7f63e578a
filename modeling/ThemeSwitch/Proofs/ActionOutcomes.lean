import ThemeSwitch.Controller.Basic

/-! # Outcomes of actions

An action that is made of two has succeeded only if both have, and its document is then the one
that the second left. A call either fails as it was told to, or does its work. -/
namespace ThemeSwitch
open Cookie Log

/-- The document after a directive was handed to it: changed, unless it loses what is written. -/
def Document.written (d : Document) (now : Int) (directive : String) : Document :=
  if d.dropsWrites then d else { d with jar := (d.jar.set now directive).1 }

/-- What is logged when a directive is handed to the document. -/
def Document.complaints (d : Document) (now : Int) (directive : String) : List Event :=
  if d.dropsWrites then []
  else ((d.jar.set now directive).2.map (.directiveIgnored directive)).toList

/-- A directive that is ignored is only warned of. -/
theorem level_of_ignored {directive : String} {refusal : Option Malformed} :
    ∀ event ∈ (refusal.map (Event.directiveIgnored directive)).toList, event.level = .warn := by
  intro event he
  obtain ⟨reason, -, rfl⟩ := Option.map_eq_some_iff.1 (Option.mem_toList.1 he)
  rfl

theorem Document.level_of_complaints {d : Document} {now : Int} {directive : String} :
    ∀ event ∈ d.complaints now directive, event.level = .warn := by
  rw [complaints]
  split
  · simp
  · exact level_of_ignored

@[simp] theorem Document.fault_written (d : Document) (now : Int) (directive : String) :
    (d.written now directive).fault = d.fault := by
  rw [written]
  split <;> rfl

theorem Document.works_written {d : Document} (h : ∀ kind, d.fault kind = none) (now : Int)
    (directive : String) : ∀ kind, (d.written now directive).fault kind = none := by
  rwa [fault_written]

@[simp] theorem Document.dropsWrites_written (d : Document) (now : Int) (directive : String) :
    (d.written now directive).dropsWrites = d.dropsWrites := by
  rw [written]
  split <;> rfl

@[simp] theorem Document.classes_written (d : Document) (now : Int) (directive : String) :
    (d.written now directive).classes = d.classes := by
  rw [written]
  split <;> rfl

namespace Action
variable {α β : Type} {d : Document}

theorem bind_of_ok {x : Action α} {a : α} {d' : Document} {calls : List Made}
    {events : List Event} (h : x d = ⟨.ok a, d', calls, events⟩) (f : α → Action β) :
    (x >>= f) d = ⟨(f a d').result, (f a d').document, calls ++ (f a d').calls,
      events ++ (f a d').events⟩ := by
  change andThen x f d = _
  rw [andThen, h]

theorem bind_of_error {x : Action α} {failure : Failure} {d' : Document} {calls : List Made}
    {events : List Event} (h : x d = ⟨.error failure, d', calls, events⟩) (f : α → Action β) :
    (x >>= f) d = ⟨.error failure, d', calls, events⟩ := by
  change andThen x f d = _
  rw [andThen, h]

/-- Two actions make one: the first alone where it fails, and else both, the second on the document
that the first left. -/
theorem bind_cases (x : Action α) (f : α → Action β) (d : Document) :
    (∃ failure, (x d).result = .error failure ∧
      (x >>= f) d = ⟨.error failure, (x d).document, (x d).calls, (x d).events⟩) ∨
    ∃ a, (x d).result = .ok a ∧
      (x >>= f) d = ⟨(f a (x d).document).result, (f a (x d).document).document,
        (x d).calls ++ (f a (x d).document).calls, (x d).events ++ (f a (x d).document).events⟩ := by
  rcases hx : x d with ⟨failure | a, d', calls, events⟩
  · exact .inl ⟨failure, rfl, bind_of_error hx f⟩
  · exact .inr ⟨a, rfl, bind_of_ok hx f⟩

theorem bind_ok {x : Action α} {f : α → Action β} {b : β} (h : ((x >>= f) d).result = .ok b) :
    ∃ a, (x d).result = .ok a ∧ (f a (x d).document).result = .ok b ∧
      ((x >>= f) d).document = (f a (x d).document).document := by
  rcases bind_cases x f d with ⟨failure, -, e⟩ | ⟨a, hr, e⟩
  · rw [e] at h
    cases h
  · rw [e] at h ⊢
    exact ⟨a, hr, h, rfl⟩

theorem map_apply (f : α → β) (x : Action α) (d : Document) :
    (f <$> x) d = ⟨(x d).result.map f, (x d).document, (x d).calls, (x d).events⟩ := by
  change (x >>= fun a => done (f a)) d = _
  rcases hx : x d with ⟨_ | a, d', calls, events⟩
  · rw [bind_of_error hx]
    rfl
  · rw [bind_of_ok hx]
    simp [done, Except.map]

theorem map_ok {f : α → β} {x : Action α} {b : β} (h : ((f <$> x) d).result = .ok b) :
    ∃ a, (x d).result = .ok a ∧ b = f a ∧ ((f <$> x) d).document = (x d).document := by
  rw [map_apply] at h ⊢
  cases hx : (x d).result with
  | error failure =>
    rw [hx] at h
    cases h
  | ok a =>
    rw [hx] at h
    cases h
    exact ⟨a, rfl, rfl, rfl⟩

theorem map_of_ok {x : Action α} {a : α} (h : (x d).result = .ok a) (f : α → β) :
    ((f <$> x) d).result = .ok (f a) := by
  rw [map_apply, h]
  rfl

/-! ## The four calls -/

theorem call_of_fault {c : Call} {failure : Failure} (h : d.fault c.kind = some failure)
    (work : Document → Except Failure α × Document × List Event) :
    call c work d = ⟨.error failure, d, [⟨c, failure⟩], []⟩ := by
  rw [call, h]

theorem readCookies_of_works (h : d.fault .readCookies = none) :
    readCookies d = ⟨.ok d.jar.text, d, [⟨.readCookies, none⟩], []⟩ := by
  simp [readCookies, call, Call.kind, h]

theorem writeCookie_of_works (h : d.fault .writeCookie = none) (now : Int) (directive : String) :
    writeCookie now directive d =
      ⟨.ok (), d.written now directive, [⟨.writeCookie directive, none⟩],
        d.complaints now directive⟩ := by
  cases hd : d.dropsWrites <;>
    simp [writeCookie, call, Call.kind, h, hd, Document.written, Document.complaints]

theorem hasClass_of_works (h : d.fault .hasClass = none) (name : String) :
    hasClass name d = ⟨.ok (d.classes.contains name), d, [⟨.hasClass name, none⟩], []⟩ := by
  simp [hasClass, call, Call.kind, h]

theorem setClass_of_works (h : d.fault .setClass = none) {name : String} {present : Bool}
    {classes : ClassList} (hs : d.classes.set name present = .ok classes) :
    setClass name present d =
      ⟨.ok (), { d with classes }, [⟨.setClass name present, none⟩], []⟩ := by
  simp [setClass, call, Call.kind, h, hs]

theorem setClass_of_refused (h : d.fault .setClass = none) {name : String} {present : Bool}
    {failure : Failure} (hs : d.classes.set name present = .error failure) :
    setClass name present d =
      ⟨.error failure, d, [⟨.setClass name present, failure⟩], []⟩ := by
  simp [setClass, call, Call.kind, h, hs]

end Action
end ThemeSwitch
