/-! # Cutting a text at its first separator

`cut sep cs` gives the texts before and after the first `sep`, if there is one: it succeeds exactly
on `before ++ sep :: after` where `before` is free of `sep` (`cut_eq_some_iff`). -/
namespace ThemeSwitch.Text

/-- The texts before and after the first separator. -/
def cut (sep : Char) : List Char → Option (List Char × List Char)
  | [] => none
  | c :: cs => if c = sep then some ([], cs) else (cut sep cs).map fun p => (c :: p.1, p.2)

/-- The text before the first separator, or all of it. -/
def before (sep : Char) (cs : List Char) : List Char := cs.takeWhile (· != sep)

theorem cut_eq_none_iff {sep : Char} {cs : List Char} : cut sep cs = none ↔ sep ∉ cs := by
  induction cs with
  | nil => simp [cut]
  | cons c cs ih =>
    by_cases h : c = sep
    · simp [cut, h]
    · simp [cut, h, ih, Ne.symm h]

theorem cut_eq_some_iff {sep : Char} {cs l r : List Char} :
    cut sep cs = some (l, r) ↔ cs = l ++ sep :: r ∧ sep ∉ l := by
  induction cs generalizing l with
  | nil => simp [cut]
  | cons c cs ih =>
    by_cases h : c = sep
    · subst h
      cases l with
      | nil => simp [cut, eq_comm]
      | cons d l => simp [cut]; grind
    · cases l with
      | nil => simp [cut, h]
      | cons d l =>
        simp only [cut, h, if_false, Option.map_eq_some_iff, Prod.mk.injEq, List.cons.injEq,
          List.cons_append, List.mem_cons]
        constructor
        · rintro ⟨⟨a, b⟩, hc, ⟨rfl, rfl⟩, rfl⟩
          exact ⟨⟨rfl, (ih.1 hc).1⟩, by simp [Ne.symm h, (ih.1 hc).2]⟩
        · rintro ⟨⟨rfl, e⟩, hl⟩
          exact ⟨(l, r), ih.2 ⟨e, by simp_all⟩, ⟨rfl, rfl⟩, rfl⟩

theorem not_mem_before (sep : Char) (cs : List Char) : sep ∉ before sep cs := by
  intro h
  have := List.all_eq_true.1 (List.all_takeWhile (p := (· != sep)) (l := cs)) sep h
  simp at this

theorem before_eq_self {sep : Char} {cs : List Char} (h : sep ∉ cs) : before sep cs = cs := by
  induction cs with
  | nil => rfl
  | cons c cs ih =>
    simp only [List.mem_cons, not_or] at h
    rw [before, List.takeWhile_cons_of_pos (by simpa using Ne.symm h.1)]
    exact congrArg (c :: ·) (ih h.2)

end ThemeSwitch.Text
