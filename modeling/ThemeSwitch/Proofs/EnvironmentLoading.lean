import ThemeSwitch.Environment.File

/-! # What a file does to an environment

The lines that count are those up to the first bad one, and which these are depends on the file
alone. Each of them leaves its variable set to a text and changes nothing that was a text before.
Once they have been carried out, they therefore have nothing left to do. -/
namespace ThemeSwitch.Environment

/-- What the lines up to the first bad one do. -/
def goodLines : List (List UInt8) → List Line
  | [] => []
  | line :: lines =>
    match decodeLine? line with
    | some line => line :: goodLines lines
    | none => []

/-- The lines that count of a file, of which there are none if there is no file. -/
def heeded : Option ByteArray → List Line
  | some content => goodLines (fileLines content)
  | none => []

theorem obeyLines_eq_foldl (env : Environment) (lines : List (List UInt8)) :
    env.obeyLines lines = (goodLines lines).foldl obey env := by
  induction lines generalizing env with
  | nil => rfl
  | cons line lines ih =>
    rw [obeyLines, goodLines]
    cases decodeLine? line with
    | none => rfl
    | some line => exact ih (env.obey line)

theorem load_eq_foldl (env : Environment) (file : Option ByteArray) :
    env.load file = (heeded file).foldl obey env := by
  cases file with
  | none => rfl
  | some content => exact obeyLines_eq_foldl env (fileLines content)

/-! ## Nothing gets lost -/

/-- Every variable that was a text is what it was, and none has become unset. -/
structure Extends (env env' : Environment) : Prop where
  keeps : ∀ name, (env.text? name).isSome = true → env'.get? name = env.get? name
  unsetsNone : ∀ name, (env.get? name).isSome = true → (env'.get? name).isSome = true

namespace Extends

variable {env env' env'' : Environment}

theorem refl (env : Environment) : Extends env env := ⟨fun _ _ => rfl, fun _ h => h⟩

theorem text?_eq (h : Extends env env') {name : String} (ht : (env.text? name).isSome = true) :
    env'.text? name = env.text? name := by
  rw [text?, h.keeps name ht, text?]

theorem trans (h : Extends env env') (h' : Extends env' env'') : Extends env env'' where
  keeps name ht := by
    have ht' : (env'.text? name).isSome = true := by rwa [h.text?_eq ht]
    exact (h'.keeps name ht').trans (h.keeps name ht)
  unsetsNone name hs := h'.unsetsNone name (h.unsetsNone name hs)

end Extends

theorem extends_set {env : Environment} {key : String} (h : ¬ (env.text? key).isSome = true)
    (value : String) : Extends env (env.set key value) where
  keeps name ht := by
    have hne : name ≠ key := by
      rintro rfl
      exact h ht
    rw [get?_set, if_neg hne]
  unsetsNone name hs := by
    rw [get?_set]
    split
    · rfl
    · exact hs

theorem extends_obey (env : Environment) (line : Line) : Extends env (env.obey line) := by
  cases line with
  | skipped => exact .refl env
  | binding key value =>
    rw [obey]
    split
    · exact .refl env
    · next h => exact extends_set h _

theorem extends_foldl_obey (lines : List Line) (env : Environment) :
    Extends env (lines.foldl obey env) := by
  induction lines generalizing env with
  | nil => exact .refl env
  | cons line lines ih => exact (extends_obey env line).trans (ih (env.obey line))

theorem extends_load (env : Environment) (file : Option ByteArray) :
    Extends env (env.load file) := by
  rw [load_eq_foldl]
  exact extends_foldl_obey (heeded file) env

/-! ## Nothing is left to do -/

/-- The variable that the line sets is a text already. -/
def Settled (env : Environment) : Line → Prop
  | .skipped => True
  | .binding key _ => (env.text? key).isSome = true

theorem Extends.settled {env env' : Environment} (h : Extends env env') {line : Line}
    (hs : env.Settled line) : env'.Settled line := by
  cases line with
  | skipped => trivial
  | binding key value => exact (congrArg Option.isSome (h.text?_eq hs)).trans hs

theorem settled_obey (env : Environment) (line : Line) : (env.obey line).Settled line := by
  cases line with
  | skipped => trivial
  | binding key value =>
    rw [obey]
    split
    · next h => exact h
    · rw [Settled, text?_set, if_pos rfl]
      rfl

theorem obey_of_settled {env : Environment} {line : Line} (h : env.Settled line) :
    env.obey line = env := by
  cases line with
  | skipped => rfl
  | binding key value => exact if_pos h

theorem settled_foldl_obey (lines : List Line) (env : Environment) :
    ∀ line ∈ lines, (lines.foldl obey env).Settled line := by
  induction lines generalizing env with
  | nil => simp
  | cons first lines ih =>
    intro line hl
    rcases List.mem_cons.1 hl with rfl | hl
    -- What the first line has set stays a text while the others are carried out.
    · exact (extends_foldl_obey lines _).settled (settled_obey env line)
    · exact ih (env.obey first) line hl

theorem foldl_obey_of_settled {lines : List Line} {env : Environment}
    (h : ∀ line ∈ lines, env.Settled line) : lines.foldl obey env = env := by
  induction lines with
  | nil => rfl
  | cons line lines ih =>
    rw [List.foldl_cons, obey_of_settled (h line List.mem_cons_self)]
    exact ih fun other ho => h other (List.mem_cons_of_mem line ho)

/-- A file that was loaded before, possibly into less, does nothing any more. -/
theorem load_of_extends {env env' : Environment} {file : Option ByteArray}
    (h : Extends (env.load file) env') : env'.load file = env' := by
  rw [load_eq_foldl] at h ⊢
  apply foldl_obey_of_settled
  intro line hl
  exact h.settled (settled_foldl_obey (heeded file) env line hl)

/-- A variable that no line sets is what it was. -/
theorem get?_foldl_obey {lines : List Line} {name : String}
    (h : ∀ value, .binding name value ∉ lines) (env : Environment) :
    (lines.foldl obey env).get? name = env.get? name := by
  induction lines generalizing env with
  | nil => rfl
  | cons line lines ih =>
    have hrest : ∀ value, .binding name value ∉ lines :=
      fun value hm => h value (List.mem_cons_of_mem line hm)
    rw [List.foldl_cons, ih hrest]
    cases line with
    | skipped => rfl
    | binding key value =>
      have hne : name ≠ key := by
        rintro rfl
        exact h value List.mem_cons_self
      rw [obey]
      split
      · rfl
      · rw [get?_set, if_neg hne]

end ThemeSwitch.Environment
