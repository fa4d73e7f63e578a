import ThemeSwitch.Config.FromEnvironment

/-! # What the environment asks for

The configuration that an environment gives is that of its two variables, or of the usual names
where they are missing, if this is valid. Of what is missing it only warns. -/
namespace ThemeSwitch.Config
open Log

/-- The configuration that the environment asks for, be it valid or not. -/
def wanted (env : Environment) : Config :=
  ⟨(env.text? cookieNameVariable).getD "dark", (env.text? darkClassVariable).getD "dark"⟩

theorem variableOr_fst (env : Environment) (key fallback : String) :
    (variableOr env key fallback).1 = (env.text? key).getD fallback := by
  rw [variableOr]
  cases env.text? key <;> rfl

theorem variableOr_quiet {env : Environment} {key fallback : String} :
    ∀ event ∈ (variableOr env key fallback).2, event.level ≠ .error := by
  intro event he
  rw [variableOr] at he
  split at he
  · cases he
  · rw [List.mem_singleton.1 he]
    simp [Event.level]

theorem ofEnvironment_eq (env : Environment) :
    ∃ events, ofEnvironment env = ((wanted env).validated, events) ∧
      ∀ event ∈ events, event.level ≠ .error := by
  refine ⟨_, congrArg (Prod.mk · _) ?_, ?_⟩
  · rw [wanted, ← variableOr_fst, ← variableOr_fst]
    rfl
  · intro event he
    rcases List.mem_append.1 he with he | he
    · exact variableOr_quiet event he
    · exact variableOr_quiet event he

theorem validated_of_valid {config : Config} (h : config.Valid) :
    config.validated = .ok config := by
  rw [Valid] at h
  rw [validated, h]

theorem validated_of_not_valid {config : Config} (h : ¬ config.Valid) :
    ∃ defect, config.defect? = some defect ∧
      config.validated = .error ⟨.invalidConfig, defect.message⟩ := by
  cases hd : config.defect? with
  | none => exact absurd hd h
  | some defect => exact ⟨defect, rfl, by rw [validated, hd]⟩

end ThemeSwitch.Config
