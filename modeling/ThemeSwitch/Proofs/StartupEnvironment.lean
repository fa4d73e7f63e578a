import ThemeSwitch.Startup
import ThemeSwitch.Proofs.EnvironmentLoading

/-! # Starting leaves an environment in which to start again

To start the program completes its environment: what was a text stays, nothing becomes unset, and
there is a log filter afterwards. A second start from there, with the same files, finds nothing more
to complete, though the values of its lines may come out differently the second time. -/
namespace ThemeSwitch.Startup
open Environment

variable {env : Environment} {files : List (Option ByteArray)}

/-- The environment with a log filter for information, unless it has one. -/
def withFilter (env : Environment) : Environment :=
  if (env.text? filterVariable).isSome then env else env.set filterVariable "info"

theorem prepare_eq (env : Environment) (files : List (Option ByteArray)) :
    prepare env files = withFilter (env.load (files.findSome? id)) := rfl

theorem extends_withFilter (env : Environment) : Extends env (withFilter env) := by
  rw [withFilter]
  split
  · exact .refl env
  · next h => exact extends_set h "info"

theorem isSome_filter_withFilter (env : Environment) :
    ((withFilter env).text? filterVariable).isSome = true := by
  rw [withFilter]
  split
  · next h => exact h
  · rw [text?_set, if_pos rfl]
    rfl

theorem withFilter_of_isSome (h : (env.text? filterVariable).isSome = true) :
    withFilter env = env := if_pos h

theorem extends_prepare (env : Environment) (files : List (Option ByteArray)) :
    Extends env (prepare env files) := by
  rw [prepare_eq]
  exact (extends_load env _).trans (extends_withFilter _)

theorem prepare_prepare (env : Environment) (files : List (Option ByteArray)) :
    prepare (prepare env files) files = prepare env files := by
  have hload : (prepare env files).load (files.findSome? id) = prepare env files :=
    load_of_extends (extends_withFilter (env.load (files.findSome? id)))
  have hfilter : ((prepare env files).text? filterVariable).isSome = true :=
    isSome_filter_withFilter _
  -- Which file is loaded does not depend on the environment: the second start takes the same one.
  calc prepare (prepare env files) files
    _ = withFilter ((prepare env files).load (files.findSome? id)) := prepare_eq _ files
    _ = withFilter (prepare env files) := by rw [hload]
    _ = prepare env files := withFilter_of_isSome hfilter

/-- Where neither the environment nor a line that counts gives a filter, it is that for
information. -/
theorem filter_of_unsupplied (henv : env.text? filterVariable = none)
    (hlines : ∀ value, .binding filterVariable value ∉ heeded (files.findSome? id)) :
    (prepare env files).text? filterVariable = some "info" := by
  have hload : (env.load (files.findSome? id)).text? filterVariable = none := by
    rw [load_eq_foldl, text?, get?_foldl_obey hlines]
    exact henv
  rw [prepare_eq, withFilter, hload, if_neg (by simp), text?_set, if_pos rfl]

/-- Whatever the environment and the files hold: after the start every variable that was a text is
what it was, and none has become unset. There is a log filter, namely `info` where neither the
environment nor a line that counts of the file gives one. To start once more from there, with the
same files, changes nothing. -/
theorem respects_environment (env : Environment) (files : List (Option ByteArray)) :
    let after := prepare env files
    ((∀ name text, env.text? name = some text →
        after.text? name = some text ∧ after.get? name = env.get? name) ∧
      ∀ name, (env.get? name).isSome = true → (after.get? name).isSome = true) ∧
    ((after.text? filterVariable).isSome = true ∧
      (env.text? filterVariable = none →
        (∀ value, .binding filterVariable value ∉ heeded (files.findSome? id)) →
        after.text? filterVariable = some "info")) ∧
    ∀ name, (prepare after files).get? name = after.get? name := by
  intro after
  have he : Extends env after := extends_prepare env files
  refine ⟨⟨fun name text ht => ?_, he.unsetsNone⟩, ⟨?_, filter_of_unsupplied⟩, fun name => ?_⟩
  · have hs : (env.text? name).isSome = true := by rw [ht, Option.isSome_some]
    exact ⟨(he.text?_eq hs).trans ht, he.keeps name hs⟩
  · exact isSome_filter_withFilter _
  · rw [prepare_prepare]

end ThemeSwitch.Startup
