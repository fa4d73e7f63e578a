import Mathlib.Data.List.Nodup
import ThemeSwitch.Proofs.CookieJarText

/-! # Filling a jar from a text and writing it out

A jar is determined by the values that it keeps. A text fills it with the last value of each name,
which for a name that stands there once is also the first, and so the one that is read. The text of
a jar repeats no name and is in order, so it fills the very same jar; a text whose names are all
different fills the same jar in whatever order its pieces stand. -/
namespace ThemeSwitch.Cookie
open Text

/-- The names of the pairs of a cookie text, as often as they stand there. -/
def Pair.names (raw : String) : List String := (Pair.list raw).map Pair.name

/-- Where at most one element is looked for, any order of the elements will do. -/
theorem find?_eq_of_perm {α : Type} {p : α → Bool} {l l' : List α} (h : l.Perm l')
    (hl : (l.filter p).length ≤ 1) : l.find? p = l'.find? p := by
  have hp : (l.filter p).Perm (l'.filter p) := h.filter p
  -- A list of one element at most has no other order.
  have he : l.filter p = l'.filter p := by
    cases hf : l.filter p with
    | nil =>
      rw [hf] at hp
      exact (List.nil_perm.1 hp).symm
    | cons a rest =>
      have hr : rest = [] := by
        rw [hf, List.length_cons] at hl
        exact List.length_eq_zero_iff.1 (by omega)
      rw [hf, hr] at hp
      rw [hr, List.singleton_perm.1 hp]
  rw [← List.head?_filter, he, List.head?_filter]

theorem Pair.length_filter_name (raw name : String) :
    ((Pair.list raw).filter (·.name == name)).length = (Pair.names raw).count name := by
  rw [names, List.count, List.countP_map, List.countP_eq_length_filter]
  rfl

namespace Jar

theorem mem_pairs_iff {jar : Jar} {p : Pair} : p ∈ jar.pairs ↔ jar.get? p.name = some p.value := by
  constructor
  · intro hp
    have hinj := List.inj_on_of_nodup_map jar.nodup_names
    cases hf : jar.pairs.find? (·.name == p.name) with
    | none =>
      have hno := List.find?_eq_none.1 hf p hp
      simp at hno
    | some q =>
      have hq : q = p := by
        apply hinj (List.mem_of_find?_eq_some hf) hp
        simpa using List.find?_some hf
      rw [get?, hf, hq]
      rfl
  · intro h
    obtain ⟨q, hf, hv⟩ := Option.map_eq_some_iff.1 h
    have hn : q.name = p.name := by simpa using List.find?_some hf
    rw [← Pair.eq_of_name_value hn hv]
    exact List.mem_of_find?_eq_some hf

/-- Jars that keep the same values are the same. -/
theorem ext_get? {jar jar' : Jar} (h : ∀ name, jar.get? name = jar'.get? name) : jar = jar' := by
  have hmem (p : Pair) : p ∈ jar.pairs ↔ p ∈ jar'.pairs := by
    rw [mem_pairs_iff, mem_pairs_iff, h]
  -- Both lists are ascending, so that one order is left for the pairs that they share.
  have hperm : jar.pairs.Perm jar'.pairs :=
    (List.perm_ext_iff_of_nodup jar.nodup_names.of_map jar'.nodup_names.of_map).2 hmem
  apply eq_of_pairs
  apply hperm.eq_of_pairwise _ jar.ascending jar'.ascending
  intro p q _ _ hpq hqp
  exact absurd hqp (String.lt_asymm hpq)

/-- For a name that a text does not repeat, the jar keeps what is read from the text. -/
theorem get?_ofString_of_count {raw name : String} (h : (Pair.names raw).count name ≤ 1) :
    (ofString raw).get? name = value? raw name := by
  have hl : ((Pair.list raw).filter (·.name == name)).length ≤ 1 := by
    rwa [Pair.length_filter_name]
  rw [ofString, get?_foldl_insert, get?_empty, Option.or_none, value?,
    find?_eq_of_perm (Pair.list raw).reverse_perm.symm hl]

theorem get?_ofString_eq_none_iff {raw name : String} :
    (ofString raw).get? name = none ↔
      ∀ piece ∈ raw.toList.splitOn ';', ∀ value, ¬ Spells piece name value := by
  rw [get?_ofString, List.findSome?_eq_none_iff]
  constructor
  · intro h piece hp value hs
    have hv := (pieceValue?_eq_some_iff (not_mem_of_mem_splitOn hp)).2 hs
    rw [h piece (List.mem_reverse.2 hp)] at hv
    cases hv
  · intro h piece hp
    have hp := List.mem_reverse.1 hp
    cases hv : pieceValue? name piece with
    | none => rfl
    | some value =>
      have hs := (pieceValue?_eq_some_iff (not_mem_of_mem_splitOn hp)).1 hv
      exact absurd hs (h piece hp value)

theorem ofString_text (jar : Jar) : ofString jar.text = jar := by
  apply ext_get?
  intro name
  have hone : (Pair.names jar.text).count name ≤ 1 := by
    rw [Pair.names, list_text]
    exact List.nodup_iff_count_le_one.1 jar.nodup_names name
  rw [get?_ofString_of_count hone, value?_text]

/-- Where no name is repeated, the order of the pieces does not matter. -/
theorem ofString_eq_of_perm {raw raw' : String}
    (h : (raw.toList.splitOn ';').Perm (raw'.toList.splitOn ';')) (hn : (Pair.names raw).Nodup) :
    ofString raw = ofString raw' := by
  have hlist : (Pair.list raw).Perm (Pair.list raw') := h.filterMap _
  have hn' : (Pair.names raw').Nodup := (hlist.map Pair.name).nodup_iff.1 hn
  apply ext_get?
  intro name
  have hone := List.nodup_iff_count_le_one.1 hn name
  have hone' := List.nodup_iff_count_le_one.1 hn' name
  rw [get?_ofString_of_count hone, get?_ofString_of_count hone', value?, value?]
  rw [← Pair.length_filter_name] at hone
  rw [find?_eq_of_perm hlist hone]

/-- A jar that is filled from a text gives for each name what the last piece that spells the name
says, and nothing where no piece does: for a name that the text does not repeat, what is read from
the text itself. The text of a jar fills this jar again, so that to fill and write out a second time
changes nothing. Where the names of a text are all different, the order of its pieces does not
matter. -/
theorem text_fills_again (raw : String) (jar : Jar) :
    (∀ name,
      (∀ value, value? (ofString raw).text name = some value ↔ LastSpelled raw name value) ∧
      (value? (ofString raw).text name = none ↔
        ∀ piece ∈ raw.toList.splitOn ';', ∀ value, ¬ Spells piece name value) ∧
      ((Pair.names raw).count name ≤ 1 → value? (ofString raw).text name = value? raw name)) ∧
    (ofString jar.text = jar ∧ (ofString jar.text).text = jar.text) ∧
    (ofString (ofString raw).text).text = (ofString raw).text ∧
    ((Pair.names raw).Nodup → ∀ raw' : String,
      (raw.toList.splitOn ';').Perm (raw'.toList.splitOn ';') →
        (ofString raw).text = (ofString raw').text) := by
  refine ⟨fun name => ⟨fun value => ?_, ?_, fun hone => ?_⟩, ⟨ofString_text jar, ?_⟩, ?_, ?_⟩
  · rw [value?_text, get?_ofString_eq_some_iff]
  · rw [value?_text, get?_ofString_eq_none_iff]
  · rw [value?_text, get?_ofString_of_count hone]
  · rw [ofString_text]
  · rw [ofString_text]
  · intro hn raw' hp
    rw [ofString_eq_of_perm hp hn]

example : (ofString "dark=; other=1; x; dark = true").text = "dark=true; other=1" := by
  decide +kernel

end Jar
end ThemeSwitch.Cookie
