import Mathlib.Data.List.DropRight
import ThemeSwitch.Proofs.JsonReading

/-! # Values are passed over

To pass over a text of a value that stands in open containers is to go on in these containers with
what follows the text. A part of a container that runs up to its closing sign is passed with the
container. One induction over the grammar carries all of this. -/
namespace ThemeSwitch.Json

/-! ## Blanks -/

theorem skipBlanks_append {b : List Char} (h : Blanks b) (cs : List Char) :
    skipBlanks (b ++ cs) = skipBlanks cs :=
  List.dropWhile_append_of_pos h

theorem skipBlanks_cons {c : Char} (h : isBlank c = false) (cs : List Char) :
    skipBlanks (c :: cs) = c :: cs :=
  List.dropWhile_cons_of_neg (by simp [h])

theorem skipBlanks_skipBlanks (cs : List Char) : skipBlanks (skipBlanks cs) = skipBlanks cs :=
  List.dropWhile_idempotent isBlank cs

theorem Ends.append {b rest : List Char} (hb : Blanks b) (h : Ends rest) : Ends (b ++ rest) := by
  cases b with
  | nil => exact h
  | cons c b => exact .of_cons (.inl (hb c List.mem_cons_self))

theorem readColon_append {b : List Char} (h : Blanks b) (cs : List Char) :
    readColon (b ++ ':' :: cs) = .ok cs := by
  rw [readColon, skipBlanks_append h]
  rfl

/-! ## One step at a time -/

theorem passValue_append {b : List Char} (h : Blanks b) (frames : List Frame) (cs : List Char) :
    passValue frames (b ++ cs) = passValue frames cs := by
  rw [passValue_eq, skipBlanks_append h, ← passValue_eq]

theorem passAfter_append {b : List Char} (h : Blanks b) (frame : Frame) (frames : List Frame)
    (cs : List Char) : passAfter (frame :: frames) (b ++ cs) = passAfter (frame :: frames) cs := by
  rw [passAfter_eq, skipBlanks_append h, ← passAfter_eq]

theorem passValue_scalar {c : Char} {cs rest : List Char} (hb : isBlank c = false)
    (hlist : c ≠ '[') (hobject : c ≠ '{') (h : passScalar c cs = .ok rest) (frames : List Frame) :
    passValue frames (c :: cs) = passAfter frames rest := by
  rw [passValue_eq, skipBlanks_cons hb]
  split
  · contradiction
  · simp_all
  · simp_all
  · next e =>
    cases e
    rw [h]
    rfl

theorem passValue_list (frames : List Frame) (cs : List Char) :
    passValue frames ('[' :: cs) = passFirst .list frames cs := by
  rw [passValue_eq]
  rfl

theorem passValue_object (frames : List Frame) (cs : List Char) :
    passValue frames ('{' :: cs) = passFirst .object frames cs := by
  rw [passValue_eq]
  rfl

theorem passAfter_close (frame : Frame) (frames : List Frame) (cs : List Char) :
    passAfter (frame :: frames) (frame.close :: cs) = passAfter frames cs := by
  rw [passAfter_eq]
  cases frame with
  | list => rfl
  | object => rfl

theorem passAfter_comma (frame : Frame) (frames : List Frame) (cs : List Char) :
    passAfter (frame :: frames) (',' :: cs) =
      (passKey frame cs).bind (passValue (frame :: frames)) := by
  rw [passAfter_eq]
  rfl

theorem passFirst_close {b : List Char} (h : Blanks b) (frame : Frame) (frames : List Frame)
    (cs : List Char) : passFirst frame frames (b ++ frame.close :: cs) = passAfter frames cs := by
  rw [passFirst_eq, skipBlanks_append h]
  cases frame with
  | list => rfl
  | object => rfl

/-- A container that does not end at once goes on with an element. -/
theorem passFirst_element {frame : Frame} {cs : List Char}
    (h : ∃ c rest, skipBlanks cs = c :: rest ∧ c ≠ frame.close) (frames : List Frame) :
    passFirst frame frames cs = (passKey frame cs).bind (passValue (frame :: frames)) := by
  obtain ⟨c, rest, hcs, hc⟩ := h
  rw [passFirst_eq, hcs]
  dsimp only
  rw [if_neg hc, ← hcs]
  cases frame with
  | list =>
    change passValue _ (skipBlanks cs) = passValue _ cs
    rw [passValue_eq, skipBlanks_skipBlanks, ← passValue_eq]
  | object => rw [passKey, skipBlanks_skipBlanks, ← passKey]

/-! ## How texts begin -/

theorem exists_head_of_literal {t : List Char} (h : Literal t) :
    ∃ c cs, t = c :: cs ∧ (c = '-' ∨ c.isDigit = true) := by
  cases h with
  | of hs hw hf hp =>
    rcases hs with rfl | rfl
    · cases hw with
      | zero => exact ⟨_, _, rfl, .inr rfl⟩
      | digits hc => exact ⟨_, _, rfl, .inr hc⟩
    · exact ⟨_, _, rfl, .inl rfl⟩

/-- No other sign begins a number. -/
theorem ne_of_number {c d : Char} (hc : c = '-' ∨ c.isDigit = true) (hm : d ≠ '-')
    (hd : d.isDigit = false) : c ≠ d := by
  rcases hc with rfl | hc
  · exact hm.symm
  · exact ne_of_isDigit hc hd

theorem not_blank_of_number {c : Char} (hc : c = '-' ∨ c.isDigit = true) : isBlank c = false := by
  simp [isBlank, ne_of_number hc (d := ' ') (by decide) rfl,
    ne_of_number hc (d := '\n') (by decide) rfl, ne_of_number hc (d := '\t') (by decide) rfl,
    ne_of_number hc (d := '\r') (by decide) rfl]

/-- A value begins with a sign that is neither blank nor the end of a list, and with a quote only if
it is a string. -/
theorem exists_head_of_value {v : Value} {t : List Char} (h : Written (.value v) t) :
    ∃ c cs, t = c :: cs ∧ isBlank c = false ∧ c ≠ ']' ∧ (c = '"' → ∃ s, v = .string s) := by
  cases h with
  | null | true | false | emptyList | list | emptyObject | object =>
    exact ⟨_, _, rfl, rfl, by decide, fun h => by cases h⟩
  | string h => exact ⟨_, _, rfl, rfl, by decide, fun _ => ⟨_, rfl⟩⟩
  | number h =>
    obtain ⟨c, cs, rfl, hc⟩ := exists_head_of_literal h
    refine ⟨c, cs, rfl, not_blank_of_number hc, ne_of_number hc (by decide) rfl, fun h => ?_⟩
    exact absurd h (ne_of_number hc (by decide) rfl)

theorem exists_head_of_elements {vs : List Value} {t : List Char} (h : Written (.elements vs) t)
    (rest : List Char) : ∃ c cs, skipBlanks (t ++ rest) = c :: cs ∧ c ≠ ']' := by
  have hpadded {v : Value} {t : List Char} (h : Written (.padded v) t) (rest : List Char) :
      ∃ c cs, skipBlanks (t ++ rest) = c :: cs ∧ c ≠ ']' := by
    cases h with
    | padded hb h hb' =>
      obtain ⟨c, cs, rfl, hc, hclose, -⟩ := exists_head_of_value h
      rw [List.append_assoc, skipBlanks_append hb]
      exact ⟨c, _, skipBlanks_cons hc _, hclose⟩
  cases h with
  | lastElement h => exact hpadded h rest
  | element h hs =>
    rw [List.append_assoc]
    exact hpadded h _

theorem exists_head_of_members {ms : List (String × Value)} {t : List Char}
    (h : Written (.members ms) t) (rest : List Char) :
    ∃ cs, skipBlanks (t ++ rest) = '"' :: cs := by
  have hmember {key : String} {v : Value} {t : List Char} (h : Written (.member key v) t)
      (rest : List Char) : ∃ cs, skipBlanks (t ++ rest) = '"' :: cs := by
    cases h with
    | keyed hb hk hb' h =>
      rw [List.append_assoc, skipBlanks_append hb]
      exact ⟨_, skipBlanks_cons rfl _⟩
  cases h with
  | lastMember h => exact hmember h rest
  | furtherMember h hs =>
    rw [List.append_assoc]
    exact hmember h _

/-! ## The induction -/

/-- What passing over a text of the form comes to. -/
def Passed : Form → List Char → Prop
  | .value _, t => ∀ frames rest, Ends rest →
    passValue frames (t ++ rest) = passAfter frames rest
  | .padded _, t => ∀ frame frames rest, Ends rest →
    passValue (frame :: frames) (t ++ rest) = passAfter (frame :: frames) rest
  | .elements _, t => ∀ frames rest,
    (passKey .list (t ++ ']' :: rest)).bind (passValue (.list :: frames)) = passAfter frames rest
  | .member _ _, t => ∀ frames rest, Ends rest →
    (passKey .object (t ++ rest)).bind (passValue (.object :: frames)) =
      passAfter (.object :: frames) rest
  | .members _, t => ∀ frames rest,
    (passKey .object (t ++ '}' :: rest)).bind (passValue (.object :: frames)) =
      passAfter frames rest

theorem passScalar_number {c : Char} {cs : List Char} (hc : c = '-' ∨ c.isDigit = true) :
    passScalar c cs = passNumber (c :: cs) := by
  rw [passScalar, if_neg (ne_of_number hc (by decide) rfl),
    if_neg (ne_of_number hc (by decide) rfl), if_neg (ne_of_number hc (by decide) rfl),
    if_neg (ne_of_number hc (by decide) rfl), if_pos hc]

theorem passKey_keyed {b k key b' : List Char} (hb : Blanks b) (hk : Spelled k key)
    (hb' : Blanks b') (cs : List Char) :
    passKey .object (b ++ '"' :: (k ++ '"' :: (b' ++ ':' :: cs))) = .ok cs := by
  rw [passKey, skipBlanks_append hb]
  change (passString (k ++ '"' :: (b' ++ ':' :: cs))).bind readColon = _
  rw [passString_spelled hk]
  exact readColon_append hb' cs

theorem passed_of_written {form : Form} {t : List Char} (h : Written form t) : Passed form t := by
  induction h with
  | null | true | false =>
    intro frames rest hrest
    exact passValue_scalar rfl (by decide) (by decide) rfl frames
  | number h =>
    intro frames rest hrest
    have hnumber := passNumber_literal h hrest
    obtain ⟨c, cs, rfl, hc⟩ := exists_head_of_literal h
    rw [List.cons_append, ← passScalar_number hc] at hnumber
    exact passValue_scalar (not_blank_of_number hc) (ne_of_number hc (by decide) rfl)
      (ne_of_number hc (by decide) rfl) hnumber frames
  | string h =>
    intro frames rest hrest
    rw [List.cons_append, List.append_assoc]
    have hstring : passScalar '"' _ = .ok rest := passString_spelled h rest
    exact passValue_scalar rfl (by decide) (by decide) hstring frames
  | emptyList h =>
    intro frames rest hrest
    rw [List.cons_append, List.append_assoc, passValue_list]
    exact passFirst_close h .list frames rest
  | list h ih =>
    intro frames rest hrest
    rw [List.cons_append, List.append_assoc, passValue_list,
      passFirst_element (exists_head_of_elements h _)]
    exact ih frames rest
  | emptyObject h =>
    intro frames rest hrest
    rw [List.cons_append, List.append_assoc, passValue_object]
    exact passFirst_close h .object frames rest
  | object h ih =>
    intro frames rest hrest
    obtain ⟨cs, hcs⟩ := exists_head_of_members h ('}' :: rest)
    rw [List.cons_append, List.append_assoc, passValue_object]
    exact (passFirst_element ⟨_, cs, hcs, by decide⟩ frames).trans (ih frames rest)
  | padded hb h hb' ih =>
    intro frame frames rest hrest
    rw [List.append_assoc, List.append_assoc, passValue_append hb,
      ih (frame :: frames) _ (hrest.append hb'), passAfter_append hb']
  | lastElement h ih =>
    intro frames rest
    exact (ih .list frames _ (.of_cons (by simp))).trans (passAfter_close .list frames rest)
  | element h hs ih ihs =>
    intro frames rest
    rw [List.append_assoc]
    exact (ih .list frames _ (.of_cons (by simp))).trans
      ((passAfter_comma .list frames _).trans (ihs frames rest))
  | keyed hb hk hb' h ih =>
    intro frames rest hrest
    simp only [List.append_assoc, List.cons_append]
    rw [passKey_keyed hb hk hb']
    exact ih .object frames rest hrest
  | lastMember h ih =>
    intro frames rest
    exact (ih frames _ (.of_cons (by simp))).trans (passAfter_close .object frames rest)
  | furtherMember h hs ih ihs =>
    intro frames rest
    rw [List.append_assoc]
    exact (ih frames _ (.of_cons (by simp))).trans
      ((passAfter_comma .object frames _).trans (ihs frames rest))

/-- A value outside of all containers is passed over to its end. -/
theorem passValue_written {v : Value} {t rest : List Char} (h : Written (.value v) t)
    (hrest : Ends rest) : passValue [] (t ++ rest) = .ok rest := by
  rw [passed_of_written h [] rest hrest, passAfter]

end ThemeSwitch.Json
