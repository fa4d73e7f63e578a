import ThemeSwitch.Proofs.CookiePieces

/-! # A jar and its text are one map

A jar is a finite map from names to values: `insert` and `erase` change it at one name. Its text,
read back, is the same map, and the text of a jar filled from a text gives for each name what the
last piece that spells a pair of this name says. -/
namespace ThemeSwitch.Cookie
open Text

namespace Jar

private theorem find?_place (p : Pair) (qs : List Pair) (name : String) :
    (place p qs).find? (·.name == name) =
      if p.name = name then some p else qs.find? (·.name == name) := by
  induction qs with
  | nil => by_cases h : p.name = name <;> simp [place, h]
  | cons q qs ih =>
    rw [place]
    split
    · by_cases h : p.name = name <;> simp [h]
    · split
      · next lt =>
        rw [List.find?_cons, ih, List.find?_cons]
        by_cases h : p.name = name
        · have hq : (q.name == name) = false := by
            rw [beq_eq_false_iff_ne]
            rintro rfl
            exact String.lt_irrefl q.name (h ▸ lt)
          simp [h, hq]
        · simp [h]
      · next nlt ngt =>
        have e : p.name = q.name := String.le_antisymm (String.not_lt.1 ngt) (String.not_lt.1 nlt)
        by_cases h : p.name = name
        · simp [h]
        · simp [h, ← e]

@[simp] theorem get?_insert (jar : Jar) (p : Pair) (name : String) :
    (jar.insert p).get? name = if p.name = name then some p.value else jar.get? name := by
  rw [get?, insert, find?_place]
  split <;> rfl

@[simp] theorem get?_erase (jar : Jar) (gone name : String) :
    (jar.erase gone).get? name = if gone = name then none else jar.get? name := by
  rw [get?, erase, List.find?_filter]
  split
  · next h =>
    rw [Option.map_eq_none_iff, List.find?_eq_none]
    intro p _
    simp [← h]
  · next h =>
    rw [get?]
    congr 2
    funext p
    by_cases hp : p.name = name
    · simp [hp, Ne.symm h]
    · simp [hp]

@[simp] theorem get?_empty (name : String) : empty.get? name = none := rfl

theorem eq_of_pairs {jar jar' : Jar} (h : jar.pairs = jar'.pairs) : jar = jar' := by
  cases jar
  cases jar'
  cases h
  rfl

private theorem filter_place (p : Pair) (qs : List Pair) :
    (place p qs).filter (·.name != p.name) = qs.filter (·.name != p.name) := by
  induction qs with
  | nil => simp [place]
  | cons q qs ih =>
    rw [place]
    split
    · simp
    · split
      · rw [List.filter_cons, ih, List.filter_cons]
      · next nlt ngt =>
        have e : p.name = q.name := String.le_antisymm (String.not_lt.1 ngt) (String.not_lt.1 nlt)
        simp [e]

/-- With its name an added pair goes, and the pair that it has replaced as well. -/
theorem erase_insert (jar : Jar) (p : Pair) : (jar.insert p).erase p.name = jar.erase p.name :=
  eq_of_pairs (filter_place p jar.pairs)

theorem erase_erase (jar : Jar) (name : String) : (jar.erase name).erase name = jar.erase name :=
  eq_of_pairs (by simp [erase])

/-- A directive decides about its own name and leaves all others alone. -/
theorem get?_obey (jar : Jar) (now : Int) (d : Directive) (name : String) :
    (jar.obey now d).get? name =
      if d.pair.name = name then
        if d.lifetime.isOver now then none else some d.pair.value
      else jar.get? name := by
  rw [obey]
  split <;> simp

/-- With `; ` between them, the later texts begin with a blank once cut at the semicolons. -/
private theorem intercalate_blank (t : List Char) (ts : List (List Char)) :
    [';', ' '].intercalate (t :: ts) = [';'].intercalate (t :: ts.map (' ' :: ·)) := by
  induction ts generalizing t with
  | nil => simp
  | cons u ts ih => simp [ih u]

/-- A jar's text spells the pairs of the jar. -/
theorem list_text (jar : Jar) : Pair.list jar.text = jar.pairs := by
  rw [Pair.list, text, String.toList_intercalate, List.map_map]
  cases h : jar.pairs with
  | nil => rfl
  | cons p ps =>
    have hsep : "; ".toList = [';', ' '] := rfl
    rw [hsep, List.map_cons, intercalate_blank, List.splitOn_intercalate ';' ?_ (by simp)]
    · rw [List.filterMap_cons, List.map_map, List.filterMap_map]
      have hps : ps.filterMap (fun q => (Pair.parse (' ' :: q.text.toList)).toOption) = ps := by
        simp [Pair.parse_blank_text, Except.toOption]
      simp only [Function.comp_def, Pair.parse_text]
      exact congrArg (p :: ·) hps
    · simp only [List.mem_cons, List.mem_map, Function.comp_apply]
      rintro l (rfl | ⟨_, ⟨q, _, rfl⟩, rfl⟩)
      · exact p.not_mem_text
      · simp [q.not_mem_text]

theorem value?_text (jar : Jar) (name : String) : value? jar.text name = jar.get? name := by
  rw [value?, list_text, get?]

theorem text_eq_empty_iff (jar : Jar) : jar.text = "" ↔ jar.isEmpty = true := by
  constructor
  · intro h
    have hl := jar.list_text
    rw [h] at hl
    rw [isEmpty, ← hl]
    rfl
  · intro h
    rw [text, List.isEmpty_iff.1 h]
    rfl

theorem mem_names_iff {jar : Jar} {name : String} :
    name ∈ jar.pairs.map Pair.name ↔ (jar.get? name).isSome = true := by
  simp [get?, List.find?_isSome]

theorem nodup_names (jar : Jar) : (jar.pairs.map Pair.name).Nodup :=
  List.pairwise_map.2 (jar.ascending.imp String.ne_of_lt)

/-- Every name that a jar knows is written once, and no other is. -/
theorem count_names (jar : Jar) (name : String) :
    (jar.pairs.map Pair.name).count name = if (jar.get? name).isSome then 1 else 0 := by
  rw [jar.nodup_names.count]
  simp only [mem_names_iff]

theorem get?_foldl_insert (ps : List Pair) (jar : Jar) (name : String) :
    (ps.foldl insert jar).get? name =
      ((ps.reverse.find? (·.name == name)).map (·.value)).or (jar.get? name) := by
  induction ps generalizing jar with
  | nil => rfl
  | cons p ps ih =>
    rw [List.foldl_cons, ih, List.reverse_cons, List.find?_append, get?_insert]
    by_cases h : p.name = name
    · cases ps.reverse.find? (·.name == name) <;> simp [h]
    · cases ps.reverse.find? (·.name == name) <;> simp [h]

theorem get?_ofString (raw name : String) :
    (ofString raw).get? name = (raw.toList.splitOn ';').reverse.findSome? (pieceValue? name) := by
  rw [ofString, get?_foldl_insert, get?_empty, Option.or_none, Pair.list, ← List.filterMap_reverse]
  exact map_find?_filterMap _ _ _ _

end Jar

/-- The last piece of the text that spells a pair of the name gives it the value. -/
def LastSpelled (raw name value : String) : Prop :=
  ∃ front piece back, raw.toList.splitOn ';' = front ++ piece :: back ∧
    Spells piece name value ∧ ∀ other ∈ back, ∀ v, ¬ Spells other name v

/-- A jar filled from a text keeps for every name what was spelled last. -/
theorem Jar.get?_ofString_eq_some_iff {raw name value : String} :
    (ofString raw).get? name = some value ↔ LastSpelled raw name value := by
  have hfree (piece) (h : piece ∈ raw.toList.splitOn ';') := not_mem_of_mem_splitOn h
  rw [get?_ofString, List.findSome?_eq_some_iff]
  constructor
  · rintro ⟨back, piece, front, e, hp, hback⟩
    have e' := congrArg List.reverse e
    simp only [List.reverse_reverse, List.reverse_append, List.reverse_cons, List.append_assoc,
      List.singleton_append] at e'
    rw [e'] at hfree
    refine ⟨front.reverse, piece, back.reverse, e', ?_, ?_⟩
    · exact (pieceValue?_eq_some_iff (hfree piece (by simp))).1 hp
    · intro other ho v hs
      have hv := (pieceValue?_eq_some_iff (hfree other (by simp_all))).2 hs
      rw [hback other (List.mem_reverse.1 ho)] at hv
      cases hv
  · rintro ⟨front, piece, back, e, hs, hback⟩
    rw [e] at hfree
    refine ⟨back.reverse, piece, front.reverse, by simp [e], ?_, ?_⟩
    · exact (pieceValue?_eq_some_iff (hfree piece (by simp))).2 hs
    · intro other ho
      rw [List.mem_reverse] at ho
      cases hv : pieceValue? name other with
      | none => rfl
      | some v =>
        have hs := (pieceValue?_eq_some_iff (hfree other (by simp [ho]))).1 hv
        exact absurd hs (hback other ho v)

end ThemeSwitch.Cookie
