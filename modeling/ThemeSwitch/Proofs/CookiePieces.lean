import ThemeSwitch.Cookie.Jar

/-! # Cookie texts piece by piece

A cookie text is a row of pieces with `;` between them. `Spells` says which pair a piece holds.
The first piece that spells a pair of a name answers for the name when the text is read, the last
one when a jar is filled from it, and the text of a jar spells exactly the pairs in it. -/
namespace ThemeSwitch.Cookie
open Text

/-- Name and value stand around the first `=` of the piece, and only blanks beside them. -/
def Spells (piece : List Char) (name value : String) : Prop :=
  name ≠ "" ∧ ∃ l r, piece = l ++ '=' :: r ∧ '=' ∉ l ∧ trim l = name.toList ∧ trim r = value.toList

theorem Spells.unique {piece : List Char} {name value name' value' : String}
    (h : Spells piece name value) (h' : Spells piece name' value') :
    name = name' ∧ value = value' := by
  obtain ⟨-, l, r, e, hl, hn, hv⟩ := h
  obtain ⟨-, l', r', e', hl', hn', hv'⟩ := h'
  have hc := cut_eq_some_iff.2 ⟨e, hl⟩
  rw [cut_eq_some_iff.2 ⟨e', hl'⟩] at hc
  cases hc
  exact ⟨String.toList_inj.1 (hn.symm.trans hn'), String.toList_inj.1 (hv.symm.trans hv')⟩

theorem trim_cons_of_isBlank {c : Char} (hc : isBlank c = true) (cs : List Char) :
    trim (c :: cs) = trim cs := by
  simp [trim, trimStart, List.dropWhile_cons_of_pos hc]

theorem Spells.cons_blank {piece : List Char} {name value : String} (h : Spells piece name value)
    {c : Char} (hc : isBlank c = true) : Spells (c :: piece) name value := by
  obtain ⟨hn, l, r, rfl, hl, hln, hrv⟩ := h
  have hce : '=' ≠ c := by
    rintro rfl
    exact absurd hc (by decide)
  exact ⟨hn, c :: l, r, rfl, by simp [hl, hce], by rw [trim_cons_of_isBlank hc, hln], hrv⟩

theorem not_mem_of_mem_splitOn {sep : Char} {cs piece : List Char} (h : piece ∈ cs.splitOn sep) :
    sep ∉ piece := by
  intro hm
  rw [List.splitOn_eq_splitOnP] at h
  have hs := eq_false_of_mem_splitOnP h sep hm
  simp at hs

namespace Pair

theorem eq_of_name_value {p q : Pair} (hn : p.name = q.name) (hv : p.value = q.value) : p = q := by
  cases p
  cases q
  cases hn
  cases hv
  rfl

theorem spells_of_parse {text : List Char} {p : Pair} (h : parse text = .ok p) :
    Spells (before ';' text) p.name p.value := by
  rw [parse] at h
  split at h
  · cases h
  · next l r hc =>
    obtain ⟨e, hl⟩ := cut_eq_some_iff.1 hc
    split at h
    · cases h
    · next hn =>
      cases h
      exact ⟨by simpa [String.ext_iff] using hn, l, r, e, hl, by simp, by simp⟩

theorem not_spells_of_parse_error {text : List Char} {reason : Malformed}
    (h : parse text = .error reason) (name value : String) :
    ¬ Spells (before ';' text) name value := by
  rintro ⟨hne, l, r, e, hl, hn, -⟩
  have hc := cut_eq_some_iff.2 ⟨e, hl⟩
  rw [parse] at h
  split at h
  · next hnone =>
    rw [hnone] at hc
    cases hc
  · next l' r' hc' =>
    rw [hc'] at hc
    cases hc
    split at h
    · next he =>
      rw [he] at hn
      exact hne (String.toList_eq_nil_iff.1 hn.symm)
    · cases h

theorem parse_eq_ok_iff {text : List Char} {p : Pair} :
    parse text = .ok p ↔ Spells (before ';' text) p.name p.value := by
  constructor
  · exact spells_of_parse
  · intro h
    cases hp : parse text with
    | error reason => exact absurd h (not_spells_of_parse_error hp _ _)
    | ok q =>
      obtain ⟨hn, hv⟩ := (spells_of_parse hp).unique h
      rw [eq_of_name_value hn hv]

/-- Whatever a text spells in front of its first `;` is a pair. -/
theorem exists_parse_eq_ok {text : List Char} {name value : String}
    (h : Spells (before ';' text) name value) :
    ∃ p : Pair, parse text = .ok p ∧ p.name = name ∧ p.value = value := by
  cases hp : parse text with
  | error reason => exact absurd h (not_spells_of_parse_error hp _ _)
  | ok q => exact ⟨q, rfl, (spells_of_parse hp).unique h⟩

theorem spells_text (p : Pair) : Spells p.text.toList p.name p.value := by
  refine ⟨p.carriable.1, p.name.toList, p.value.toList, ?_, p.carriable.2.2.2, ?_, ?_⟩
  · simp [text]
  · exact p.carriable.2.1
  · exact p.holdable.1

theorem not_mem_text (p : Pair) : ';' ∉ p.text.toList := by
  simp [text, p.carriable.2.2.1, p.holdable.2]

theorem parse_text (p : Pair) : parse p.text.toList = .ok p := by
  rw [parse_eq_ok_iff, before_eq_self p.not_mem_text]
  exact p.spells_text

theorem parse_blank_text (p : Pair) : parse (' ' :: p.text.toList) = .ok p := by
  rw [parse_eq_ok_iff, before_eq_self (by simp [p.not_mem_text])]
  exact p.spells_text.cons_blank rfl

end Pair

/-! ## Reading a text and filling a jar from it -/

/-- The value that a piece gives for a name. -/
def pieceValue? (name : String) (piece : List Char) : Option String :=
  ((Pair.parse piece).toOption.filter (·.name == name)).map (·.value)

theorem pieceValue?_eq_some_iff {name value : String} {piece : List Char} (h : ';' ∉ piece) :
    pieceValue? name piece = some value ↔ Spells piece name value := by
  have hb := before_eq_self h
  constructor
  · intro hp
    cases hq : Pair.parse piece with
    | error reason => simp [pieceValue?, hq, Except.toOption] at hp
    | ok q =>
      have hs := Pair.spells_of_parse hq
      simp only [pieceValue?, hq, Except.toOption, Option.map_eq_some_iff,
        Option.filter_eq_some_iff, Option.some.injEq, beq_iff_eq] at hp
      obtain ⟨p, ⟨rfl, rfl⟩, rfl⟩ := hp
      rwa [hb] at hs
  · intro hs
    rw [← hb] at hs
    obtain ⟨p, hp, hn, hv⟩ := Pair.exists_parse_eq_ok hs
    simp [pieceValue?, hp, Except.toOption, Option.filter, hn, hv]

theorem map_find?_filterMap {α β γ : Type} (f : α → Option β) (p : β → Bool) (g : β → γ)
    (l : List α) :
    ((l.filterMap f).find? p).map g = l.findSome? fun a => ((f a).filter p).map g := by
  induction l with
  | nil => rfl
  | cons a l ih =>
    cases hf : f a with
    | none =>
      rw [List.filterMap_cons_none hf, List.findSome?_cons, hf]
      exact ih
    | some b =>
      rw [List.filterMap_cons_some hf, List.find?_cons, List.findSome?_cons, hf]
      cases hp : p b with
      | true => simp [Option.filter, hp]
      | false =>
        rw [Option.filter_some, hp]
        exact ih

theorem value?_eq_findSome? (raw name : String) :
    value? raw name = (raw.toList.splitOn ';').findSome? (pieceValue? name) :=
  map_find?_filterMap _ _ _ _

/-! ## Names that are never found -/

/-- The condition on a name in terms of its characters. -/
theorem carriable_iff {name : String} : Carriable name ↔
    name ≠ "" ∧ (∀ c ∈ name.toList.head?, isBlank c = false) ∧
      (∀ c ∈ name.toList.getLast?, isBlank c = false) ∧ ';' ∉ name.toList ∧ '=' ∉ name.toList := by
  rw [Carriable, trimmed_iff, and_assoc]

/-- Whatever a cookie text is like, no cookie of another name is found in it. -/
theorem value?_of_not_carriable {name : String} (h : ¬ Carriable name) (raw : String) :
    value? raw name = none := by
  rw [value?, Option.map_eq_none_iff, List.find?_eq_none]
  intro p _ hp
  exact h (eq_of_beq hp ▸ p.carriable)

end ThemeSwitch.Cookie
