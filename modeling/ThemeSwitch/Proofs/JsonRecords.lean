import ThemeSwitch.Json.Printer
import ThemeSwitch.Proofs.JsonObjects

/-! # Records are read back from JSON

What is printed for a string or an object is one of its texts, and so it is read as any text of it
is: an object with some of the fields of a record, each once and in any order, reads back as these
fields in this order. -/
namespace ThemeSwitch.Json

/-! ## Strings -/

theorem isHex_hexDigit {n : Nat} (h : n < 16) : IsHex (hexDigit n) n := ⟨h, .inl rfl⟩

/-- The number of a control character, in four digits. -/
theorem numbered_hexDigit {n : Nat} (h : n < 0x20) :
    Numbered ['0', '0', hexDigit (n / 16), hexDigit (n % 16)] n := by
  have hzero : IsHex '0' 0 := isHex_hexDigit (by decide)
  have hsum : ((0 * 16 + 0) * 16 + n / 16) * 16 + n % 16 = n := by omega
  have hof := Numbered.of hzero hzero (isHex_hexDigit (n := n / 16) (by omega))
    (isHex_hexDigit (n := n % 16) (by omega))
  rwa [hsum] at hof

theorem letter_escapedChar (c : Char) : Letter (escapedChar c) c := by
  unfold escapedChar
  split
  -- All but the last row give a backslash and a letter.
  case h_8 hquote hslash _ _ _ _ _ =>
    split
    · next h => exact .numbered (numbered_hexDigit h)
    · next h => exact .plain hquote hslash (Nat.not_lt.1 h)
  all_goals exact .short (by decide)

theorem spelled_flatMap (s : List Char) : Spelled (s.flatMap escapedChar) s := by
  induction s with
  | nil => exact .nil
  | cons c s ih => exact .cons (letter_escapedChar c) ih

theorem written_printString (s : String) :
    Written (.value (.string s)) (printString s.toList) := by
  have h := Written.string (spelled_flatMap s.toList)
  rwa [String.ofList_toList] at h

/-! ## Objects -/

theorem blanks_nil : Blanks [] := fun _ h => absurd h List.not_mem_nil

/-- A value needs no blanks around it. -/
theorem Written.bare {v : Value} {t : List Char} (h : Written (.value v) t) :
    Written (.padded v) t := by
  simpa using Written.padded blanks_nil h blanks_nil

theorem written_printMember (key : String) {v : Value} {t : List Char}
    (h : Written (.value v) t) : Written (.member key v) (printMember key t) := by
  have hkeyed := Written.keyed blanks_nil (spelled_flatMap key.toList) blanks_nil h.bare
  simpa [printMember, printString] using hkeyed

theorem written_intercalate {α : Type} {print : α → List Char} {value : α → Value}
    (hprint : ∀ a, Written (.value (value a)) (print a)) (field : String × α) (fields : Fields α) :
    Written (.members ((field :: fields).map fun f => (f.1, value f.2)))
      ([','].intercalate ((field :: fields).map fun f => printMember f.1 (print f.2))) := by
  induction fields generalizing field with
  | nil => simpa using Written.lastMember (written_printMember field.1 (hprint field.2))
  | cons next fields ih =>
    have hmembers := Written.furtherMember (written_printMember field.1 (hprint field.2)) (ih next)
    simpa using hmembers

/-- The object of the fields. -/
def printFields {α : Type} (print : α → List Char) (fields : Fields α) : List Char :=
  printObject (fields.map fun field => printMember field.1 (print field.2))

theorem written_printFields {α : Type} {print : α → List Char} {value : α → Value}
    (hprint : ∀ a, Written (.value (value a)) (print a)) (fields : Fields α) :
    Written (.value (.object (fields.map fun f => (f.1, value f.2))))
      (printFields print fields) := by
  cases fields with
  | nil => exact .emptyObject blanks_nil
  | cons field fields => exact .object (written_intercalate hprint field fields)

/-! ## Fields -/

theorem not_mem_names_of_nodup {α : Type} {found fields : Fields α} {field : String × α}
    (h : ((found ++ field :: fields).map (·.1)).Nodup) : field.1 ∉ found.map (·.1) := by
  intro hm
  rw [List.map_append, List.nodup_append] at h
  exact h.2.2 _ hm _ List.mem_cons_self rfl

namespace Shape

variable {α : Type} {shape : Shape α} {meaning : Value → Option α} {value : α → Value}

/-- Fields of the shape that all differ in their names are taken in as they come. -/
theorem foldlM_enter (hvalue : ∀ a, meaning (value a) = some a) {found fields : Fields α}
    (hfields : ∀ f ∈ fields, f.1 ∈ shape.fields) (hnodup : ((found ++ fields).map (·.1)).Nodup) :
    (fields.map fun f => (f.1, value f.2)).foldlM (shape.enter meaning) found =
      some (found ++ fields) := by
  induction fields generalizing found with
  | nil => simp
  | cons field fields ih =>
    obtain ⟨hfield, hfields⟩ := List.forall_mem_cons.1 hfields
    have henter : shape.enter meaning found (field.1, value field.2) = some (found ++ [field]) := by
      rw [enter, if_pos hfield, if_neg (not_mem_names_of_nodup hnodup), hvalue]
      rfl
    have hsplit : found ++ field :: fields = found ++ [field] ++ fields := by simp
    rw [List.map_cons, List.foldlM_cons, henter, hsplit]
    exact ih hfields (hsplit ▸ hnodup)

/-- Fields that are written as an object are read back. -/
theorem readWhole_printFields {print : α → List Char} (hm : Interprets shape.value meaning)
    (hpartial : shape.complete = false) (hprint : ∀ a, Written (.value (value a)) (print a))
    (hvalue : ∀ a, meaning (value a) = some a) {fields : Fields α}
    (hfields : ∀ f ∈ fields, f.1 ∈ shape.fields) (hnodup : (fields.map (·.1)).Nodup) :
    readWhole shape.read (printFields print fields) = .ok fields := by
  have hread := toOption_readWhole hm hpartial (written_printFields hprint fields).bare []
  have henter : (fields.map fun f => (f.1, value f.2)).foldlM (shape.enter meaning) [] =
      some ([] ++ fields) := foldlM_enter hvalue hfields hnodup
  rw [List.append_nil, if_pos blanks_nil, henter] at hread
  exact eq_ok_of_toOption hread

end Shape
end ThemeSwitch.Json
