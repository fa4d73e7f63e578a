import ThemeSwitch.Json.Record
import ThemeSwitch.Proofs.JsonPassing

/-! # Records read from texts of objects

What a reader of records finds in a text of an object depends on the members alone, and not on how
they are written. It takes them in one after the other: members that are no fields leave no trace,
and the reading fails at a field that comes again or has a value of another kind. -/
namespace ThemeSwitch.Json

theorem toOption_map {α β : Type} (x : Except Stop α) (f : α → β) :
    (x.map f).toOption = x.toOption.map f := by
  cases x <;> rfl

theorem eq_ok_of_toOption {α : Type} {x : Except Stop α} {a : α} (h : x.toOption = some a) :
    x = .ok a := by
  cases x with
  | error stop => cases h
  | ok b =>
    cases h
    rfl

/-! ## Values -/

/-- The reader finds in every text of a value what the value means to it, and takes no more than the
text. -/
def Interprets {α : Type} (reader : ValueReader α) (meaning : Value → Option α) : Prop :=
  ∀ {v : Value} {t b : List Char}, Written (.value v) t → Blanks b → ∀ rest,
    (reader.read (b ++ (t ++ rest))).toOption = (meaning v).map fun a => (a, rest)

/-- The characters of a string. -/
def Value.text? : Value → Option String
  | string s => some s
  | _ => none

theorem readText_quote (cs : List Char) :
    readText ('"' :: cs) = (readString cs).map fun p => (String.ofList p.1, p.2) := rfl

theorem readText_of_ne {c : Char} (hb : isBlank c = false) (hq : c ≠ '"') (cs : List Char) :
    readText (c :: cs) = .error (mismatch "a string" (c :: cs)) := by
  rw [readText, skipBlanks_cons hb]
  split
  · next e =>
    cases e
    exact absurd rfl hq
  · rfl

theorem readText_append {b : List Char} (h : Blanks b) (cs : List Char) :
    readText (b ++ cs) = readText cs := by
  rw [readText, skipBlanks_append h, ← readText]

theorem interprets_text : Interprets .text Value.text? := by
  intro v t b h hb rest
  have hskip : ValueReader.text.read (b ++ (t ++ rest)) = readText (t ++ rest) :=
    readText_append hb _
  obtain ⟨c, cs, hhead, hblank, -, hquote⟩ := exists_head_of_value h
  rw [hskip]
  cases h with
  | string h =>
    rw [List.cons_append, List.append_assoc, readText_quote]
    exact congrArg (fun r => Except.toOption (Except.map _ r)) (readString_spelled h rest)
  | null | true | false | number | emptyList | list | emptyObject | object =>
    have hne : c ≠ '"' := fun hc => by
      obtain ⟨s, hs⟩ := hquote hc
      cases hs
    rw [hhead, List.cons_append, readText_of_ne hblank hne]
    rfl

/-! ## Members -/

namespace Shape

variable {α : Type} (shape : Shape α) (meaning : Value → Option α)

/-- The fields after another member, if it is no field or a new one with a value of the right
kind. -/
def enter (found : Fields α) (member : String × Value) : Option (Fields α) :=
  if member.1 ∈ shape.fields then
    if member.1 ∈ found.map (·.1) then none
    else (meaning member.2).map fun a => found ++ [(member.1, a)]
  else some found

variable {shape meaning}

theorem enter_of_twice {found : Fields α} {key : String} (hf : key ∈ shape.fields)
    (hk : key ∈ found.map (·.1)) (v : Value) : shape.enter meaning found (key, v) = none := by
  rw [enter, if_pos hf, if_pos hk]

theorem toOption_readMember (hm : Interprets shape.value meaning) {found : Fields α} {key : String}
    (hnew : ¬ (key ∈ shape.fields ∧ key ∈ found.map (·.1))) {v : Value} {b t rest : List Char}
    (hb : Blanks b) (h : Written (.value v) t) (hrest : Ends rest) :
    (shape.readMember found key (b ++ (t ++ rest))).toOption =
      (shape.enter meaning found (key, v)).map fun fields => (fields, rest) := by
  by_cases hf : key ∈ shape.fields
  · have hk : key ∉ found.map (·.1) := fun hk => hnew ⟨hf, hk⟩
    rw [readMember, if_pos hf, toOption_map, hm h hb rest, enter, if_pos hf, if_neg hk]
    cases meaning v <;> rfl
  · have hpass : passValue [] (b ++ (t ++ rest)) = .ok rest := by
      rw [passValue_append hb, passValue_written h hrest]
    rw [readMember, if_neg hf, hpass, enter, if_neg hf]
    rfl

theorem toOption_readMembers_twice {found : Fields α} {k key rest : List Char} (hk : Spelled k key)
    (h : String.ofList key ∈ shape.fields ∧ String.ofList key ∈ found.map (·.1)) :
    (shape.readMembers found (k ++ '"' :: rest)).toOption = none := by
  rw [readMembers, readString_spelled hk]
  dsimp only
  rw [if_pos h]
  rfl

theorem toOption_readMembers_step {found : Fields α} {cs key rest rest' : List Char}
    (hk : readString cs = .ok (key, rest))
    (hnew : ¬ (String.ofList key ∈ shape.fields ∧ String.ofList key ∈ found.map (·.1)))
    (hc : readColon rest = .ok rest') :
    (shape.readMembers found cs).toOption =
      (shape.readMember found (String.ofList key) rest').toOption.bind fun p =>
        (readComma p.2).toOption.bind fun q =>
          if q.1 then (shape.readMembers p.1 q.2).toOption else some (p.1, q.2) := by
  rw [readMembers, hk]
  dsimp only
  rw [if_neg hnew, hc]
  dsimp only
  split
  · next hm =>
    rw [hm]
    rfl
  · next hm =>
    rw [hm]
    change _ = (readComma _).toOption.bind _
    split
    · next hn =>
      rw [hn]
      rfl
    · next hn =>
      rw [hn]
      rfl
    · next hn =>
      rw [hn]
      rfl

theorem readComma_brace (cs : List Char) : readComma ('}' :: cs) = .ok (false, cs) := rfl

theorem readComma_append {b : List Char} (h : Blanks b) (cs : List Char) :
    readComma (b ++ cs) = readComma cs := by
  rw [readComma, skipBlanks_append h, ← readComma]

theorem readComma_comma {rest cs : List Char} (h : skipBlanks rest = '"' :: cs) :
    readComma (',' :: rest) = .ok (true, cs) := by
  rw [readComma, skipBlanks_cons rfl]
  simp only [h]

/-- A member is taken in, and the reading goes on after it as the sign says that comes next. -/
theorem toOption_readMembers_keyed (hm : Interprets shape.value meaning) {k key b t : List Char}
    {v : Value} (hk : Spelled k key) (hb : Blanks b) (h : Written (.padded v) t)
    {cs rest : List Char} {more : Bool} (hcs : Ends cs) (hcomma : readComma cs = .ok (more, rest))
    (found : Fields α) :
    (shape.readMembers found (k ++ '"' :: (b ++ ':' :: (t ++ cs)))).toOption =
      (shape.enter meaning found (String.ofList key, v)).bind fun fields =>
        if more then (shape.readMembers fields rest).toOption else some (fields, rest) := by
  by_cases hnew : String.ofList key ∈ shape.fields ∧ String.ofList key ∈ found.map (·.1)
  · rw [toOption_readMembers_twice hk hnew, enter_of_twice hnew.1 hnew.2]
    rfl
  · cases h with
    | @padded _ b₁ t b₂ hb₁ h hb₂ =>
      have hmember := toOption_readMember hm hnew hb₁ h (hcs.append hb₂)
      have htext : b₁ ++ (t ++ b₂) ++ cs = b₁ ++ (t ++ (b₂ ++ cs)) := by simp
      rw [htext, toOption_readMembers_step (readString_spelled hk _) hnew (readColon_append hb _),
        hmember]
      cases shape.enter meaning found (String.ofList key, v) with
      | none => rfl
      | some fields =>
        change (readComma (b₂ ++ cs)).toOption.bind _ = _
        rw [readComma_append hb₂, hcomma]
        rfl

/-- The members of an object are taken in one after the other. -/
theorem toOption_readMembers (hm : Interprets shape.value meaning) {ms : List (String × Value)}
    {t : List Char} (h : Written (.members ms) t) (rest : List Char) :
    ∃ cs, skipBlanks (t ++ '}' :: rest) = '"' :: cs ∧ ∀ found,
      (shape.readMembers found cs).toOption =
        (ms.foldlM (shape.enter meaning) found).map fun fields => (fields, rest) := by
  induction ms generalizing t with
  | nil => cases h
  | cons m ms ih =>
    cases h with
    | @lastMember _ v _ h =>
      cases h with
      | @keyed key b k b' t _ hb hk hb' h =>
        refine ⟨k ++ '"' :: (b' ++ ':' :: (t ++ '}' :: rest)), ?_, fun found => ?_⟩
        · simp only [List.append_assoc, List.cons_append]
          rw [skipBlanks_append hb, skipBlanks_cons rfl]
        · rw [toOption_readMembers_keyed hm hk hb' h (.of_cons (by simp)) (readComma_brace rest)]
          simp only [List.foldlM_cons, List.foldlM_nil]
          cases shape.enter meaning found (String.ofList key, v) <;> rfl
    | @furtherMember _ v _ t ts h hs =>
      obtain ⟨cs, hcs, hmembers⟩ := ih hs
      cases h with
      | @keyed key b k b' t _ hb hk hb' h =>
        have hcomma := readComma_comma hcs
        refine ⟨k ++ '"' :: (b' ++ ':' :: (t ++ ',' :: (ts ++ '}' :: rest))), ?_, fun found => ?_⟩
        · simp only [List.append_assoc, List.cons_append]
          rw [skipBlanks_append hb, skipBlanks_cons rfl]
        · rw [toOption_readMembers_keyed hm hk hb' h (.of_cons (by simp)) hcomma]
          simp only [List.foldlM_cons]
          cases shape.enter meaning found (String.ofList key, v) with
          | none => rfl
          | some fields => exact hmembers fields

/-! ## Objects -/

/-- A reader that can do without any field finds in an object what it finds between the braces. -/
theorem read_object (hpartial : shape.complete = false) {b : List Char} (hb : Blanks b)
    (cs : List Char) : shape.read (b ++ '{' :: cs) = shape.readObject cs := by
  have hfind (found : Fields α) : (shape.fields.find? fun field =>
      shape.complete && !(found.map (·.1)).contains field) = none := by simp [hpartial]
  rw [read, skipBlanks_append hb, skipBlanks_cons rfl]
  simp only [hfind]
  cases shape.readObject cs <;> rfl

theorem readObject_close {b : List Char} (hb : Blanks b) (rest : List Char) :
    shape.readObject (b ++ '}' :: rest) = .ok ([], rest) := by
  rw [readObject, skipBlanks_append hb]
  rfl

theorem readObject_of_quote {cs cs' : List Char} (h : skipBlanks cs = '"' :: cs') :
    shape.readObject cs = shape.readMembers [] cs' := by
  rw [readObject]
  simp only [h]

theorem toOption_read (hm : Interprets shape.value meaning) (hpartial : shape.complete = false)
    {ms : List (String × Value)} {b t : List Char} (hb : Blanks b)
    (h : Written (.value (.object ms)) t) (rest : List Char) :
    (shape.read (b ++ (t ++ rest))).toOption =
      (ms.foldlM (shape.enter meaning) []).map fun fields => (fields, rest) := by
  cases h with
  | @emptyObject b' hb' =>
    rw [List.cons_append, List.append_assoc, read_object hpartial hb]
    exact congrArg Except.toOption (readObject_close hb' rest)
  | @object _ t h =>
    obtain ⟨cs, hcs, hmembers⟩ := toOption_readMembers hm h rest
    rw [List.cons_append, List.append_assoc, read_object hpartial hb]
    exact (congrArg Except.toOption (readObject_of_quote hcs)).trans (hmembers [])

/-- A text of an object gives the fields among its members, and only blanks may come after it. -/
theorem toOption_readWhole (hm : Interprets shape.value meaning) (hpartial : shape.complete = false)
    {ms : List (String × Value)} {t : List Char} (h : Written (.padded (.object ms)) t)
    (tail : List Char) :
    (readWhole shape.read (t ++ tail)).toOption =
      if Blanks tail then ms.foldlM (shape.enter meaning) [] else none := by
  cases h with
  | @padded _ b t b' hb h hb' =>
    have hread := toOption_read hm hpartial hb h (b' ++ tail)
    have htext : b ++ (t ++ b') ++ tail = b ++ (t ++ (b' ++ tail)) := by simp
    rw [htext, readWhole]
    cases hfound : ms.foldlM (shape.enter meaning) [] with
    | none =>
      cases hr : shape.read (b ++ (t ++ (b' ++ tail))) with
      | error stop => simp [Except.toOption]
      | ok p => simp [hr, hfound, Except.toOption] at hread
    | some fields =>
      rw [hfound] at hread
      rw [eq_ok_of_toOption hread]
      dsimp only
      rw [skipBlanks_append hb']
      by_cases htail : Blanks tail
      · rw [if_pos htail, ← List.append_nil tail, skipBlanks_append htail]
        rfl
      · rw [if_neg htail]
        split
        · next hnil => exact absurd (List.dropWhile_eq_nil_iff.1 hnil) htail
        · rfl

end Shape

/-! ## Fields

What the fields come to is settled for each key alone. -/

/-- The values that the members give to a key. -/
def valuesOf (ms : List (String × Value)) (key : String) : List Value :=
  (ms.filter (·.1 == key)).map (·.2)

theorem valuesOf_cons (m : String × Value) (ms : List (String × Value)) (key : String) :
    valuesOf (m :: ms) key = if m.1 = key then m.2 :: valuesOf ms key else valuesOf ms key := by
  by_cases h : m.1 = key <;> simp [valuesOf, h]

/-- The meaning of the only value, if there is one, where there may be no second one. -/
def only? {α : Type} (meaning : Value → Option α) : Option α → List Value → Option (Option α)
  | earlier, [] => some earlier
  | none, v :: vs => (meaning v).bind fun a => only? meaning (some a) vs
  | some _, _ :: _ => none

theorem only?_eq_some_iff {α : Type} {meaning : Value → Option α} {vs : List Value}
    {a? : Option α} : only? meaning none vs = some a? ↔
      vs = [] ∧ a? = none ∨ ∃ v a, vs = [v] ∧ meaning v = some a ∧ a? = some a := by
  match vs with
  | [] => simp [only?, eq_comm]
  | [v] => cases h : meaning v <;> simp [only?, h, eq_comm]
  | v :: w :: vs => cases h : meaning v <;> simp [only?, h]

theorem lookup_append_singleton {α : Type} {found : Fields α} {key : String}
    (h : found.lookup key = none) (a : α) (field : String) :
    (found ++ [(key, a)]).lookup field = if field = key then some a else found.lookup field := by
  by_cases hf : field = key
  · simp [hf, List.lookup_append, h]
  · simp [hf, List.lookup_append, List.lookup_cons, beq_eq_false_iff_ne.2 hf]

theorem lookup_eq_none {α : Type} {found : Fields α} {key : String} :
    found.lookup key = none ↔ key ∉ found.map (·.1) := by
  rw [List.lookup_eq_none_iff, List.mem_map]
  constructor
  · rintro h ⟨field, hm, rfl⟩
    simpa using h field hm
  · intro h field hm
    exact bne_iff_ne.2 fun e => h ⟨field, hm, e.symm⟩

namespace Shape

variable {α : Type} {shape : Shape α} {meaning : Value → Option α}

/-- A member that is not taken in is a second value of a field, or one of the wrong kind. -/
theorem only?_of_enter_none {found : Fields α} {key : String} {v : Value}
    (h : shape.enter meaning found (key, v) = none) :
    key ∈ shape.fields ∧ ∀ vs, only? meaning (found.lookup key) (v :: vs) = none := by
  rw [enter] at h
  split at h
  · next hf =>
    refine ⟨hf, fun vs => ?_⟩
    split at h
    · next hk =>
      obtain ⟨a, ha⟩ := Option.ne_none_iff_exists'.1 (mt lookup_eq_none.1 (not_not.2 hk))
      rw [ha, only?]
    · next hk =>
      rw [lookup_eq_none.2 hk, only?, Option.map_eq_none_iff.1 h]
      rfl
  · cases h

/-- A member that is taken in counts for its key and for no other field. -/
theorem only?_of_enter {found found' : Fields α} {m : String × Value}
    (h : shape.enter meaning found m = some found') {field : String} (hfield : field ∈ shape.fields)
    (ms : List (String × Value)) :
    only? meaning (found.lookup field) (valuesOf (m :: ms) field) =
      only? meaning (found'.lookup field) (valuesOf ms field) := by
  rw [valuesOf_cons]
  rw [enter] at h
  split at h
  · split at h
    · cases h
    · next hk =>
      obtain ⟨a, ha, rfl⟩ := Option.map_eq_some_iff.1 h
      rw [lookup_append_singleton (lookup_eq_none.2 hk)]
      by_cases he : m.1 = field
      · subst he
        rw [if_pos rfl, if_pos rfl, lookup_eq_none.2 hk, only?, ha]
        rfl
      · rw [if_neg he, if_neg fun e => he e.symm]
  · next hf =>
    cases h
    have hne : m.1 ≠ field := fun e => hf (e ▸ hfield)
    rw [if_neg hne]

/-- The members make up fields in which each key has its value if and only if each key that is a
field is given this value once, or not at all where it has none. -/
theorem exists_fields_iff {ms : List (String × Value)} {found : Fields α}
    {value? : String → Option α} :
    (∃ fields, ms.foldlM (shape.enter meaning) found = some fields ∧
        ∀ field ∈ shape.fields, fields.lookup field = value? field) ↔
      ∀ field ∈ shape.fields,
        only? meaning (found.lookup field) (valuesOf ms field) = some (value? field) := by
  induction ms generalizing found with
  | nil => simp [valuesOf, only?]
  | cons m ms ih =>
    rw [List.foldlM_cons]
    cases h : shape.enter meaning found m with
    | none =>
      obtain ⟨hf, hnone⟩ := only?_of_enter_none h
      constructor
      · rintro ⟨fields, hfields, -⟩
        cases hfields
      · intro hall
        have := hall m.1 hf
        rw [valuesOf_cons, if_pos rfl, hnone] at this
        cases this
    | some found' =>
      rw [Option.bind_eq_bind, Option.bind_some, ih]
      exact forall₂_congr fun field hf => by rw [only?_of_enter h hf]

end Shape

end ThemeSwitch.Json
