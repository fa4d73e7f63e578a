import ThemeSwitch.Proofs.AccountedActions

/-! # A failure ends a request at once

A request makes its calls by a plan, as far as they succeed. The classes come last in each plan, so
that a request that fails has not touched them; the cookies it has touched only where it got as far
as writing one. -/
namespace ThemeSwitch.Controller
open Cookie

variable {config : Config} {d : Document}

/-- The kinds of calls that an application is made of. -/
def application : List Call.Kind := [.readCookies, .hasClass, .setClass]

/-- The kinds of calls that a request is made of, in order, given the theme stored before. -/
def Request.plan (before : Theme) : Request → List Call.Kind
  | current => [.readCookies]
  | apply => application
  | toggle => .readCookies :: .writeCookie :: application
  | set wanted =>
    if before = wanted then .readCookies :: application
    else .readCookies :: .writeCookie :: application

def kinds (calls : List Made) : List Call.Kind := calls.map (·.call.kind)

/-- The calls are a beginning of the plan. If all went well they are the whole plan, or all of it
but a last setting of the class, which was as it should be. -/
structure Follows {α : Type} (plan : List Call.Kind) (result : Except Failure α)
    (calls : List Made) : Prop where
  begins : kinds calls <+: plan
  completes : ∀ a, result = .ok a → kinds calls = plan ∨ kinds calls ++ [.setClass] = plan

theorem Follows.cons {α : Type} {plan : List Call.Kind} {result : Except Failure α}
    {calls : List Made} {kind : Call.Kind} {first : Made} (hk : first.call.kind = kind)
    (h : Follows plan result calls) : Follows (kind :: plan) result (first :: calls) where
  begins := List.cons_prefix_cons.2 ⟨hk, h.begins⟩
  completes a hr := (h.completes a hr).imp (congrArg₂ _ hk) (congrArg₂ _ hk)

theorem follows_error {α : Type} {plan : List Call.Kind} {failure : Failure} {calls : List Made}
    (h : kinds calls <+: plan) : Follows plan (.error failure : Except Failure α) calls :=
  ⟨h, fun a hr => by cases hr⟩

theorem follows_current (d : Document) :
    Follows [.readCookies] (current config d).result (current config d).calls := by
  cases hr : d.fault .readCookies with
  | some failure =>
    rw [current_of_fault hr]
    exact follows_error (List.prefix_refl _)
  | none =>
    rw [current_of_works hr]
    exact ⟨List.prefix_refl _, fun a h => .inl rfl⟩

theorem follows_apply (d : Document) :
    Follows application (apply config d).result (apply config d).calls := by
  have ha := applied_apply config d
  generalize apply config d = outcome at ha ⊢
  cases ha with
  | unreadable | unseen => exact follows_error ⟨_, rfl⟩
  | agreeing => exact ⟨⟨_, rfl⟩, fun a h => .inr rfl⟩
  | unset => exact follows_error (List.prefix_refl _)
  | set => exact ⟨List.prefix_refl _, fun a h => .inl rfl⟩

theorem Rewritten.follows {now : Int} {directive : String} {news : List Log.Event}
    {outcome : Outcome Theme} (h : Rewritten config now d directive news outcome) :
    Follows (.readCookies :: .writeCookie :: application) outcome.result outcome.calls := by
  cases h with
  | unreadable | unwritten => exact follows_error ⟨_, rfl⟩
  | written ha =>
    subst ha
    exact .cons rfl (.cons rfl (follows_apply _))

theorem follows_set (now : Int) (wanted : Theme) (d : Document) :
    Follows ((Request.set wanted).plan (stored config d)) (set config now wanted d).result
      (set config now wanted d).calls := by
  rw [Request.plan]
  split
  · next he =>
    cases hr : d.fault .readCookies with
    | some failure =>
      rw [set_of_unreadable hr]
      exact follows_error ⟨_, rfl⟩
    | none =>
      rw [← he, set_of_stored hr]
      exact .cons rfl (follows_apply _)
  · next hne => exact (rewritten_set hne now).follows

theorem follows_ask (now : Int) (r : Request) (d : Document) :
    Follows (r.plan (stored config d)) (r.ask config now d).result (r.ask config now d).calls := by
  cases r with
  | current => exact follows_current d
  | apply => exact follows_apply d
  | toggle => exact (rewritten_toggle config now d).follows
  | set wanted => exact follows_set now wanted d

theorem not_mem_dropLast_plan (before : Theme) (r : Request) :
    Call.Kind.setClass ∉ (r.plan before).dropLast := by
  cases r with
  | current | apply | toggle => simp [Request.plan, application]
  | set wanted =>
    rw [Request.plan]
    split <;> simp [application]

/-- Classes are set by the last call of a plan only, and that did not succeed if the request has
failed. -/
theorem not_succeeded_setClass {now : Int} {r : Request} {failure : Failure}
    (h : (r.ask config now d).result = .error failure) :
    ¬ Succeeded .setClass (r.ask config now d).calls := by
  rintro ⟨made, hm, hk, hf⟩
  have hp : kinds (r.ask config now d).calls <+: r.plan (stored config d) :=
    (follows_ask now r d).begins
  have he := ((inherited_accounted config now).ask r d).ended
  generalize (r.ask config now d).calls = calls at hm hp he
  rw [h] at he
  cases he with
  | @error _ front _ last =>
    have hfront : made ∈ front := by
      rcases List.mem_append.1 hm with hm | hm
      · exact hm
      · rw [List.mem_singleton.1 hm] at hf
        cases hf
    obtain ⟨back, hb⟩ := hp
    have hd : (r.plan (stored config d)).dropLast = kinds front ++ (last.kind :: back).dropLast := by
      rw [← hb, kinds, List.map_append, List.append_assoc, List.dropLast_append_of_ne_nil (by simp)]
      rfl
    refine not_mem_dropLast_plan (stored config d) r ?_
    rw [hd, ← hk]
    exact List.mem_append_left _ (List.mem_map_of_mem hfront)

/-- Whatever calls of a document fail and whether its cookies get lost: the calls that a request
makes begin its plan, none but the last of them has failed, and the request fails just if that one
did, with its failure. What it leaves is what its successful calls have made of the document. So the
classes are as before if it fails, and the cookies too unless one was written before. -/
theorem stops_at_failure (config : Config) (d : Document) (now : Int) (r : Request) :
    let outcome := r.ask config now d
    (Follows (r.plan (stored config d)) outcome.result outcome.calls ∧
      (∀ made ∈ outcome.calls.dropLast, made.failure = none) ∧
      ∀ failure, outcome.result = .error failure ↔
        ∃ last ∈ outcome.calls.getLast?, last.failure = some failure) ∧
    outcome.document = d.replay now outcome.calls ∧
    (outcome.document.jar.text ≠ d.jar.text →
      Succeeded .writeCookie outcome.calls ∧ d.dropsWrites = false) ∧
    (outcome.document.classes ≠ d.classes → Succeeded .setClass outcome.calls) ∧
    (∀ failure, outcome.result = .error failure → outcome.document.classes = d.classes ∧
      (outcome.document.jar.text = d.jar.text ∨ Succeeded .writeCookie outcome.calls)) ∧
    (r = .current ∨ r = .apply → .writeCookie ∉ kinds outcome.calls ∧
      outcome.document.jar = d.jar) := by
  intro outcome
  have hf : Follows (r.plan (stored config d)) outcome.result outcome.calls := follows_ask now r d
  obtain ⟨he, hd⟩ : Accounted now d outcome := (inherited_accounted config now).ask r d
  have hjar : outcome.document.jar.text ≠ d.jar.text → Succeeded .writeCookie outcome.calls ∧
      d.dropsWrites = false := by
    intro hne
    rw [hd] at hne
    by_contra hnot
    refine hne (congrArg Jar.text (Document.jar_replay fun hw => ?_))
    by_contra hl
    exact hnot ⟨hw, Bool.eq_false_iff.2 hl⟩
  refine ⟨⟨hf, he.of_mem_dropLast, he.error_iff⟩, hd, hjar, ?_, ?_, ?_⟩
  · intro hne
    by_contra hnot
    exact hne (hd ▸ Document.classes_replay hnot)
  · intro failure hr
    refine ⟨hd ▸ Document.classes_replay (not_succeeded_setClass hr), ?_⟩
    by_cases ht : outcome.document.jar.text = d.jar.text
    · exact .inl ht
    · exact .inr (hjar ht).1
  · intro hr
    have hplan : Call.Kind.writeCookie ∉ r.plan (stored config d) := by
      rcases hr with rfl | rfl <;> simp [Request.plan, application]
    have hnot : Call.Kind.writeCookie ∉ kinds outcome.calls := fun hm => hplan (hf.begins.subset hm)
    refine ⟨hnot, hd ▸ Document.jar_replay ?_⟩
    rintro ⟨made, hm, hk, -⟩
    exact absurd (hk ▸ List.mem_map_of_mem hm) hnot

end ThemeSwitch.Controller
