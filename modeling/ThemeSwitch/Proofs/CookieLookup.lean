import ThemeSwitch.Proofs.CookieJarUpdates

/-! # Looking a name up in a cookie text

A name is looked up piece by piece. The first piece that spells a pair of the name gives the value,
and every other piece may come, go or change without a trace. Names that no piece can spell are
never found. -/
namespace ThemeSwitch.Cookie
open Text

/-- The first piece of the text that spells a pair of the name gives it the value. -/
def FirstSpelled (raw name value : String) : Prop :=
  ∃ front piece back, raw.toList.splitOn ';' = front ++ piece :: back ∧
    Spells piece name value ∧ ∀ other ∈ front, ∀ v, ¬ Spells other name v

/-- The piece holds no pair, or one of another name. -/
def Foreign (name : String) (piece : List Char) : Prop :=
  Pairless piece ∨ trim (before '=' piece) ≠ name.toList

instance (name : String) (piece : List Char) : Decidable (Foreign name piece) :=
  inferInstanceAs (Decidable (_ ∨ _))

theorem Spells.trim_before {piece : List Char} {name value : String} (h : Spells piece name value) :
    trim (before '=' piece) = name.toList := by
  obtain ⟨-, l, r, rfl, hl, hn, -⟩ := h
  rw [before_append_cons hl, hn]

theorem foreign_iff {name : String} {piece : List Char} :
    Foreign name piece ↔ ∀ value, ¬ Spells piece name value := by
  constructor
  · rintro (hp | hne) value hs
    · exact hs.not_pairless hp
    · exact hne hs.trim_before
  · intro h
    by_cases hp : Pairless piece
    · exact .inl hp
    · obtain ⟨other, value, hs⟩ := exists_spells hp
      refine .inr fun he => ?_
      have hsame : other = name := String.toList_inj.1 (hs.trim_before.symm.trans he)
      exact h value (hsame ▸ hs)

theorem pieceValue?_eq_none_iff {name : String} {piece : List Char} (h : ';' ∉ piece) :
    pieceValue? name piece = none ↔ Foreign name piece := by
  rw [foreign_iff, Option.eq_none_iff_forall_ne_some]
  exact forall_congr' fun value => not_congr (pieceValue?_eq_some_iff h)

/-- The text of the pieces. -/
def joined (pieces : List (List Char)) : String := String.ofList ([';'].intercalate pieces)

theorem splitOn_joined {pieces : List (List Char)} (h : ∀ piece ∈ pieces, ';' ∉ piece)
    (hne : pieces ≠ []) : (joined pieces).toList.splitOn ';' = pieces := by
  rw [joined, String.toList_ofList, List.splitOn_intercalate ';' h hne]

theorem value?_joined {pieces : List (List Char)} (h : ∀ piece ∈ pieces, ';' ∉ piece)
    (name : String) : value? (joined pieces) name = pieces.findSome? (pieceValue? name) := by
  rw [value?_eq_findSome?]
  cases pieces with
  | nil => rfl
  | cons piece pieces => rw [splitOn_joined h (List.cons_ne_nil _ _)]

theorem forall_mem_middle {α : Type} {P : α → Prop} {front old new back : List α}
    (h : ∀ a ∈ front ++ old ++ back, P a) (hnew : ∀ a ∈ new, P a) :
    ∀ a ∈ front ++ new ++ back, P a := by
  simp only [List.forall_mem_append] at h ⊢
  exact ⟨⟨h.1.1, hnew⟩, h.2⟩

theorem value?_eq_some_iff {raw name value : String} :
    value? raw name = some value ↔ FirstSpelled raw name value := by
  have hfree (piece) (h : piece ∈ raw.toList.splitOn ';') := not_mem_of_mem_splitOn h
  rw [value?_eq_findSome?, List.findSome?_eq_some_iff]
  constructor
  · rintro ⟨front, piece, back, e, hp, hfront⟩
    rw [e] at hfree
    refine ⟨front, piece, back, e, (pieceValue?_eq_some_iff (hfree piece (by simp))).1 hp, ?_⟩
    intro other ho
    exact foreign_iff.1 ((pieceValue?_eq_none_iff (hfree other (by simp [ho]))).1 (hfront other ho))
  · rintro ⟨front, piece, back, e, hs, hfront⟩
    rw [e] at hfree
    refine ⟨front, piece, back, e, (pieceValue?_eq_some_iff (hfree piece (by simp))).2 hs, ?_⟩
    intro other ho
    exact (pieceValue?_eq_none_iff (hfree other (by simp [ho]))).2 (foreign_iff.2 (hfront other ho))

theorem value?_eq_none_iff {raw name : String} :
    value? raw name = none ↔ ∀ piece ∈ raw.toList.splitOn ';', Foreign name piece := by
  rw [value?_eq_findSome?, List.findSome?_eq_none_iff]
  exact forall₂_congr fun piece h => pieceValue?_eq_none_iff (not_mem_of_mem_splitOn h)

theorem findSome?_of_foreign {name : String} {pieces : List (List Char)}
    (hfree : ∀ piece ∈ pieces, ';' ∉ piece) (h : ∀ piece ∈ pieces, Foreign name piece) :
    pieces.findSome? (pieceValue? name) = none :=
  List.findSome?_eq_none_iff.2 fun piece hp =>
    (pieceValue?_eq_none_iff (hfree piece hp)).2 (h piece hp)

/-- Pieces that are foreign to a name may be put in, left out or exchanged for others. -/
theorem value?_of_foreign {raw name : String} {front old new back : List (List Char)}
    (hraw : raw.toList.splitOn ';' = front ++ old ++ back) (hnew : ∀ piece ∈ new, ';' ∉ piece)
    (h : ∀ piece ∈ old ++ new, Foreign name piece) :
    value? (joined (front ++ new ++ back)) name = value? raw name := by
  have hfree (piece) (hp : piece ∈ front ++ old ++ back) : ';' ∉ piece :=
    not_mem_of_mem_splitOn (hraw ▸ hp)
  have hold : old.findSome? (pieceValue? name) = none :=
    findSome?_of_foreign (fun piece hp => hfree piece (by simp [hp]))
      fun piece hp => h piece (by simp [hp])
  have hnone : new.findSome? (pieceValue? name) = none :=
    findSome?_of_foreign hnew fun piece hp => h piece (by simp [hp])
  calc value? (joined (front ++ new ++ back)) name
    _ = (front ++ new ++ back).findSome? (pieceValue? name) :=
      value?_joined (forall_mem_middle hfree hnew) name
    _ = (front ++ old ++ back).findSome? (pieceValue? name) := by
      simp only [List.findSome?_append, hold, hnone]
    _ = value? raw name := by rw [value?_eq_findSome?, hraw]

/-- The value of a name in a cookie text is what the first piece that spells a pair of the name
says: the piece has an `=`, the text in front of the first one is the name up to blanks beside it,
and the value is the text behind it, without the blanks beside it. If no piece does this, there is
no value. Pieces without an `=`, with a blank name or another one do not matter, wherever they
stand. A name that is empty, begins or ends with a blank, or holds a `;` or a `=` has no value in any
text. -/
theorem value?_reads_pieces (raw name : String) :
    (∀ value, value? raw name = some value ↔ FirstSpelled raw name value) ∧
    (value? raw name = none ↔
      ∀ piece ∈ raw.toList.splitOn ';', ∀ value, ¬ Spells piece name value) ∧
    (∀ front old new back, raw.toList.splitOn ';' = front ++ old ++ back →
      (∀ piece ∈ new, ';' ∉ piece) → (∀ piece ∈ old ++ new, Foreign name piece) →
      value? (joined (front ++ new ++ back)) name = value? raw name) ∧
    (name = "" ∨ (∃ c ∈ name.toList.head?, isBlank c = true) ∨
      (∃ c ∈ name.toList.getLast?, isBlank c = true) ∨ ';' ∈ name.toList ∨ '=' ∈ name.toList →
      value? raw name = none) := by
  refine ⟨fun value => value?_eq_some_iff, ?_, ?_, ?_⟩
  · rw [value?_eq_none_iff]
    exact forall₂_congr fun piece _ => foreign_iff
  · intro front old new back hraw hnew h
    exact value?_of_foreign hraw hnew h
  · intro h
    refine value?_of_not_carriable (fun hc => ?_) raw
    obtain ⟨hne, hfirst, hlast, hsemicolon, hequals⟩ := carriable_iff.1 hc
    rcases h with h | ⟨c, hm, hb⟩ | ⟨c, hm, hb⟩ | h | h
    · exact hne h
    · exact Bool.eq_false_iff.1 (hfirst c hm) hb
    · exact Bool.eq_false_iff.1 (hlast c hm) hb
    · exact hsemicolon h
    · exact hequals h

example : value? "darkness=1;; =0; Dark=2; dark = a=\"b\" ;dark=3" "dark" = some "a=\"b\"" := by
  decide

end ThemeSwitch.Cookie
