import ThemeSwitch.Action
import ThemeSwitch.Proofs.ClassListUpdates

/-! # A class list is an ordered set that its text keeps

The text of a class list is read back as the same list, since a class has no blank in it and stands
there once. A class that is set is there or not as asked, the others stay in their order, and an
added one comes last. What is no class is refused, and then nothing has changed. -/
namespace ThemeSwitch.ClassList
open Text

/-! ## The text -/

theorem eraseDups_of_nodup {names : List String} (h : names.Nodup) : names.eraseDups = names := by
  induction names with
  | nil => rfl
  | cons name names ih =>
    obtain ⟨hn, hnames⟩ := List.nodup_cons.1 h
    have hfilter : names.filter (fun other => !other == name) = names := by
      refine List.filter_eq_self.2 fun other ho => ?_
      have hne : other ≠ name := fun e => hn (e ▸ ho)
      simpa using hne
    rw [List.eraseDups_cons, hfilter, ih hnames]

theorem words_text (list : ClassList) :
    words list.text.toList = list.classes.map String.toList := by
  rw [text, String.toList_intercalate]
  refine words_intercalate fun w hw => ?_
  obtain ⟨name, hn, rfl⟩ := List.mem_map.1 hw
  obtain ⟨hne, hblank⟩ := list.isToken name hn
  exact ⟨by simpa using hne, hblank⟩

theorem ofString_text (list : ClassList) : ofString list.text = list := by
  refine eq_of_classes ?_
  calc (ofString list.text).classes
    _ = ((words list.text.toList).map String.ofList).eraseDups := rfl
    _ = ((list.classes.map String.toList).map String.ofList).eraseDups := by rw [words_text]
    _ = list.classes.eraseDups := by simp
    _ = list.classes := eraseDups_of_nodup list.nodup

/-! ## Setting a class -/

variable {list next : ClassList} {name : String} {present : Bool}

theorem not_isToken_iff : ¬ IsToken name ↔ name = "" ∨ ∃ c ∈ name.toList, isBlank c = true := by
  rw [IsToken, Decidable.not_and_iff_not_or_not]
  simp

/-- The answer to a call that sets a class, and the list after it. -/
def asked (list : ClassList) (name : String) (present : Bool) : Except Failure Unit × ClassList :=
  let outcome := Action.setClass name present { classes := list }
  (outcome.result, outcome.document.classes)

/-- The list after classes were set one after the other. -/
def after (list : ClassList) (settings : List (String × Bool)) : ClassList :=
  settings.foldl (fun list s => (list.asked s.1 s.2).2) list

theorem asked_of_set (h : list.set name present = .ok next) :
    list.asked name present = (.ok (), next) := by
  simp [asked, Action.setClass, Action.call, h]

theorem asked_of_not_isToken (h : ¬ IsToken name) :
    list.asked name present =
      (.error ⟨.classList, "invalid class token " ++ quoted name⟩, list) := by
  simp [asked, Action.setClass, Action.call, set, h]

theorem filter_of_set (h : list.set name present = .ok next) :
    next.classes.filter (· != name) = list.classes.filter (· != name) := by
  rw [← next.nodup.erase_eq_filter, ← list.nodup.erase_eq_filter]
  exact congrArg classes (erase_of_set h)

theorem contains_of_set_of_ne (h : list.set name present = .ok next) {other : String}
    (hne : other ≠ name) : next.contains other = list.contains other := by
  have hf (l : ClassList) : l.contains other = (l.classes.filter (· != name)).contains other := by
    simp [contains, hne]
  rw [hf next, hf list, filter_of_set h]

theorem classes_of_set_new (h : list.set name true = .ok next) (hc : list.contains name = false) :
    next.classes = list.classes ++ [name] := by
  obtain ⟨ht, rfl⟩ := isToken_of_set h
  exact classes_insert_of_not_contains ht hc

/-- Whatever a list was filled from and whatever classes were set in it, granted or refused: its
classes are distinct, none is empty or has a blank in it, and its text read back gives the list
again. To set one more class is refused just if it is empty or has a blank in it, and leaves the
list as it is then. Otherwise the class is there or not as asked, everything else is there or not as
before and in the same order, and a class that is new comes last. -/
theorem ordered_set_kept_by_text (seed : Option String) (settings : List (String × Bool)) :
    let list := (seed.elim empty ofString).after settings
    (list.classes.Nodup ∧
      ∀ name ∈ list.classes, name ≠ "" ∧ ∀ c ∈ name.toList, isBlank c = false) ∧
    ofString list.text = list ∧
    ∀ name present,
      let (result, next) := list.asked name present
      ((∃ failure, result = .error failure) ↔
        name = "" ∨ ∃ c ∈ name.toList, isBlank c = true) ∧
      ((∃ failure, result = .error failure) → next = list) ∧
      (result = .ok () →
        next.contains name = present ∧
        (∀ other ≠ name, next.contains other = list.contains other) ∧
        next.classes.filter (· != name) = list.classes.filter (· != name) ∧
        (present = true → list.contains name = false → next.classes = list.classes ++ [name])) := by
  intro list
  refine ⟨⟨list.nodup, list.isToken⟩, list.ofString_text, fun name present => ?_⟩
  rw [← not_isToken_iff]
  by_cases ht : IsToken name
  · have hs : list.set name present = .ok (list.put ht present) := set_of_isToken ht list present
    rw [asked_of_set hs]
    refine ⟨?_, ?_, fun _ => ⟨contains_of_set hs, fun other => contains_of_set_of_ne hs,
      filter_of_set hs, ?_⟩⟩
    · simp [ht]
    · rintro ⟨failure, hf⟩
      cases hf
    · rintro rfl hc
      exact classes_of_set_new hs hc
  · rw [asked_of_not_isToken ht]
    exact ⟨⟨fun _ => ht, fun _ => ⟨_, rfl⟩⟩, fun _ => rfl, fun hr => by cases hr⟩

end ThemeSwitch.ClassList
