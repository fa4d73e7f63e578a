import ThemeSwitch.Proofs.CookieLookup

/-! # When a directive removes its cookie

Among the attributes of a directive the last lifetime in digits decides, however long it is, and for
want of one the last moment that can be read. Whatever cannot be read, and every other attribute, is
as good as absent. -/
namespace ThemeSwitch.Cookie
open Text Calendar

/-- The attribute has the key, whatever the case of its letters, and the value. -/
def Gives (key : String) (part value : List Char) : Prop :=
  ∃ l r, part = l ++ '=' :: r ∧ '=' ∉ l ∧ (trim l).map Char.toLower = key.toList ∧ trim r = value

theorem attributeValue?_eq_some_iff {key : String} {part value : List Char} :
    attributeValue? key part = some value ↔ Gives key part value := by
  rw [attributeValue?]
  constructor
  · intro h
    split at h
    · next l r hc =>
      obtain ⟨e, hl⟩ := cut_eq_some_iff.1 hc
      split at h
      · next hk => exact ⟨l, r, e, hl, by rw [← hk, String.toList_ofList], Option.some.inj h⟩
      · cases h
    · cases h
  · rintro ⟨l, r, e, hl, hk, hv⟩
    rw [cut_eq_some_iff.2 ⟨e, hl⟩]
    dsimp only
    rw [hk, String.ofList_toList, if_pos rfl, hv]

instance (key : String) (part value : List Char) : Decidable (Gives key part value) :=
  decidable_of_iff _ attributeValue?_eq_some_iff

/-! ## Lifetimes in digits -/

/-- A lifetime without its sign. -/
def magnitude : List Char → List Char
  | '-' :: rest => rest
  | value => value

/-- A lifetime in digits, of which there is one at least. -/
def Numeric (value : List Char) : Prop :=
  magnitude value ≠ [] ∧ ∀ c ∈ magnitude value, c.isDigit = true

/-- Something else than digits is in the lifetime. -/
def Garbled (value : List Char) : Prop := ∃ c ∈ magnitude value, c.isDigit = false

instance (value : List Char) : Decidable (Numeric value) :=
  decidable_of_iff (magnitude value ≠ [] ∧ (magnitude value).all Char.isDigit = true)
    (and_congr_right' List.all_eq_true)

instance (value : List Char) : Decidable (Garbled value) :=
  decidable_of_iff ((magnitude value).any (!·.isDigit) = true) (by simp [Garbled])

/-- A lifetime that is negative or zero. -/
def Spent (value : List Char) : Prop := value.head? = some '-' ∨ ∀ c ∈ value, c = '0'

theorem eq_zero_of_digitValue {c : Char} (h : c.isDigit = true) (h0 : digitValue c = 0) :
    c = '0' := by
  change (decide (48 ≤ c.val) && decide (c.val ≤ 57)) = true at h
  simp only [Bool.and_eq_true, decide_eq_true_eq, UInt32.le_iff_toNat_le] at h
  change 48 ≤ c.toNat ∧ c.toNat ≤ 57 at h
  change c.toNat - 48 = 0 at h0
  refine Char.toNat_inj.1 ?_
  change c.toNat = 48
  omega

/-- Only zeros write zero. -/
theorem decimal_eq_zero_iff {digits : List Char} (h : ∀ c ∈ digits, c.isDigit = true) :
    decimal digits = 0 ↔ ∀ c ∈ digits, c = '0' := by
  have fold (n : Nat) :
      digits.foldl (fun n d => 10 * n + digitValue d) n = 0 ↔ n = 0 ∧ ∀ c ∈ digits, c = '0' := by
    induction digits generalizing n with
    | nil => simp
    | cons d digits ih =>
      obtain ⟨hd, hrest⟩ := List.forall_mem_cons.1 h
      have hzero : digitValue d = 0 ↔ d = '0' := ⟨eq_zero_of_digitValue hd, fun e => e ▸ rfl⟩
      have hsum : 10 * n + digitValue d = 0 ↔ n = 0 ∧ digitValue d = 0 := by omega
      rw [List.foldl_cons, ih hrest, hsum, hzero, List.forall_mem_cons, and_assoc]
  simpa [decimal] using fold 0

/-- A lifetime in digits is read. It comes to nothing just if it is negative or zero: one that is
too long is cut, but not to zero. -/
theorem ageOf?_of_numeric {value : List Char} (h : Numeric value) :
    ∃ age, ageOf? value = some age ∧ (age = 0 ↔ Spent value) := by
  obtain ⟨hne, hdigits⟩ := h
  unfold ageOf?
  split
  · next digits =>
    have hall : digits.all Char.isDigit = true := List.all_eq_true.2 hdigits
    exact ⟨0, if_pos hall, by simp [Spent]⟩
  · exact absurd rfl hne
  · next hminus hnil =>
    have hm : magnitude value = value := by
      unfold magnitude
      split
      · exact absurd rfl (hminus _)
      · rfl
    rw [hm] at hdigits
    have hhead : value.head? ≠ some '-' := by
      intro he
      obtain ⟨rest, rfl⟩ := List.head?_eq_some_iff.1 he
      exact hminus rest rfl
    rw [if_pos (List.all_eq_true.2 hdigits)]
    refine ⟨_, rfl, ?_⟩
    rw [Spent, or_iff_right hhead, ← decimal_eq_zero_iff hdigits, longestAge]
    omega

theorem ageOf?_of_garbled {value : List Char} (h : Garbled value) : ageOf? value = none := by
  obtain ⟨c, hm, hc⟩ := h
  have hall {digits : List Char} (hd : c ∈ digits) : ¬ digits.all Char.isDigit = true :=
    fun ha => Bool.eq_false_iff.1 hc (List.all_eq_true.1 ha c hd)
  unfold ageOf?
  split
  · exact if_neg (hall hm)
  · cases hm
  · next hminus hnil =>
    refine if_neg (hall ?_)
    unfold magnitude at hm
    split at hm
    · exact absurd rfl (hminus _)
    · exact hm

/-! ## The last attribute that can be read -/

/-- The attribute is a lifetime in digits. -/
def Timed (part value : List Char) : Prop := Gives "max-age" part value ∧ Numeric value

/-- The attribute is a moment. -/
def Dated (part : List Char) (t : Moment) : Prop :=
  ∃ value, Gives "expires" part value ∧ parseMoment? value = some t

/-- What the last of the attributes says that says anything of the kind. -/
def Last {α : Type} (Says : List Char → α → Prop) (parts : List (List Char)) (a : α) : Prop :=
  ∃ front part back, parts = front ++ part :: back ∧ Says part a ∧
    ∀ other ∈ back, ∀ b, ¬ Says other b

/-- The attributes leave no time: the last lifetime in digits is negative or zero, or there is none
and the last moment is past. -/
def Evicted (parts : List (List Char)) (now : Int) : Prop :=
  (∃ value, Last Timed parts value ∧ Spent value) ∨
    (∀ part ∈ parts, ∀ value, ¬ Timed part value) ∧ ∃ t, Last Dated parts t ∧ t.unixSeconds ≤ now

/-- The seconds that an attribute gives. -/
def age? (part : List Char) : Option Nat := (attributeValue? "max-age" part).bind ageOf?

/-- The moment that an attribute gives. -/
def expiry? (part : List Char) : Option Moment := (attributeValue? "expires" part).bind parseMoment?

theorem expiry?_eq_some_iff {part : List Char} {t : Moment} :
    expiry? part = some t ↔ Dated part t := by
  simp only [expiry?, Option.bind_eq_some_iff, attributeValue?_eq_some_iff, Dated]

theorem expiry?_eq_none_iff {part : List Char} : expiry? part = none ↔ ∀ t, ¬ Dated part t := by
  simp only [Option.eq_none_iff_forall_ne_some, ne_eq, expiry?_eq_some_iff]

theorem age?_of_timed {part value : List Char} (h : Timed part value) :
    ∃ age, age? part = some age ∧ (age = 0 ↔ Spent value) := by
  obtain ⟨age, ha, hz⟩ := ageOf?_of_numeric h.2
  exact ⟨age, by rw [age?, attributeValue?_eq_some_iff.2 h.1, Option.bind_some, ha], hz⟩

/-- The lifetime of the attribute, where it has one, is in digits or garbled: it is not empty. -/
def Legible (part : List Char) : Prop :=
  ∀ value, Gives "max-age" part value → Numeric value ∨ Garbled value

instance (part : List Char) : Decidable (Legible part) :=
  decidable_of_iff (∀ value ∈ attributeValue? "max-age" part, Numeric value ∨ Garbled value)
    (forall_congr' fun _ => imp_congr_left attributeValue?_eq_some_iff)

theorem age?_eq_none_iff {part : List Char} (h : Legible part) :
    age? part = none ↔ ∀ value, ¬ Timed part value := by
  constructor
  · intro hn value ht
    obtain ⟨age, ha, -⟩ := age?_of_timed ht
    rw [ha] at hn
    cases hn
  · intro hnot
    cases hv : attributeValue? "max-age" part with
    | none => rw [age?, hv, Option.bind_none]
    | some value =>
      have hg := attributeValue?_eq_some_iff.1 hv
      rcases h value hg with hnum | hgar
      · exact absurd ⟨hg, hnum⟩ (hnot value)
      · rw [age?, hv, Option.bind_some, ageOf?_of_garbled hgar]

theorem findSome?_reverse_eq_some_iff {α β : Type} {f : α → Option β} {l : List α} {b : β} :
    l.reverse.findSome? f = some b ↔
      ∃ front a back, l = front ++ a :: back ∧ f a = some b ∧ ∀ other ∈ back, f other = none := by
  rw [List.findSome?_eq_some_iff]
  constructor
  · rintro ⟨back, a, front, e, ha, hback⟩
    refine ⟨front.reverse, a, back.reverse, ?_, ha, by simpa using hback⟩
    simpa using congrArg List.reverse e
  · rintro ⟨front, a, back, rfl, ha, hback⟩
    exact ⟨back.reverse, a, front.reverse, by simp, ha, by simpa using hback⟩

theorem lastExpiry?_eq_some_iff {parts : List (List Char)} {t : Moment} :
    lastExpiry? parts = some t ↔ Last Dated parts t := by
  have h : lastExpiry? parts = some t ↔ _ := findSome?_reverse_eq_some_iff (f := expiry?)
  rw [h, Last]
  simp only [expiry?_eq_some_iff, expiry?_eq_none_iff]

theorem lastAge?_eq_none_iff {parts : List (List Char)} (h : ∀ part ∈ parts, Legible part) :
    lastAge? parts = none ↔ ∀ part ∈ parts, ∀ value, ¬ Timed part value := by
  have hnone : lastAge? parts = none ↔ ∀ part ∈ parts.reverse, age? part = none :=
    List.findSome?_eq_none_iff
  rw [hnone]
  simp only [List.mem_reverse]
  exact forall₂_congr fun part hp => age?_eq_none_iff (h part hp)

theorem lastAge?_eq_zero_iff {parts : List (List Char)} (h : ∀ part ∈ parts, Legible part) :
    lastAge? parts = some 0 ↔ ∃ value, Last Timed parts value ∧ Spent value := by
  have hlast : lastAge? parts = some 0 ↔ _ := findSome?_reverse_eq_some_iff (f := age?)
  rw [hlast]
  constructor
  · rintro ⟨front, part, back, rfl, hp, hback⟩
    have hsome : ¬ ∀ value, ¬ Timed part value := by
      rw [← age?_eq_none_iff (h part (by simp)), hp]
      simp
    obtain ⟨value, ht⟩ := Classical.not_forall_not.1 hsome
    obtain ⟨age, ha, hz⟩ := age?_of_timed ht
    have h0 : age = 0 := Option.some.inj (ha.symm.trans hp)
    refine ⟨value, ⟨front, part, back, rfl, ht, fun other ho => ?_⟩, hz.1 h0⟩
    exact (age?_eq_none_iff (h other (by simp [ho]))).1 (hback other ho)
  · rintro ⟨value, ⟨front, part, back, rfl, ht, hback⟩, hs⟩
    obtain ⟨age, ha, hz⟩ := age?_of_timed ht
    refine ⟨front, part, back, rfl, by rw [ha, hz.2 hs], fun other ho => ?_⟩
    exact (age?_eq_none_iff (h other (by simp [ho]))).2 (hback other ho)

/-! ## Directives of a pair and attributes -/

theorem before_joined {head : List Char} (h : ';' ∉ head) (parts : List (List Char)) :
    before ';' (joined (head :: parts)).toList = head := by
  rw [joined, String.toList_ofList]
  cases parts with
  | nil => simpa using before_eq_self h
  | cons part parts => simpa using before_append_cons h _

theorem expired_joined_iff {head : List Char} {parts : List (List Char)} (hhead : ';' ∉ head)
    (hparts : ∀ part ∈ parts, ';' ∉ part) (now : Int) :
    Expired (joined (head :: parts)) now ↔ lastAge? parts = some 0 ∨
      lastAge? parts = none ∧ ∃ t ∈ lastExpiry? parts, t.unixSeconds ≤ now := by
  rw [Expired, splitOn_joined (List.forall_mem_cons.2 ⟨hhead, hparts⟩) (List.cons_ne_nil _ _)]
  rfl

theorem expired_iff_evicted {head : List Char} {parts : List (List Char)} (hhead : ';' ∉ head)
    (hparts : ∀ part ∈ parts, ';' ∉ part) (h : ∀ part ∈ parts, Legible part) (now : Int) :
    Expired (joined (head :: parts)) now ↔ Evicted parts now := by
  rw [expired_joined_iff hhead hparts, lastAge?_eq_zero_iff h, lastAge?_eq_none_iff h, Evicted]
  simp only [Option.mem_def, lastExpiry?_eq_some_iff]

/-! ## What does not matter -/

theorem Gives.key_eq {key key' : String} {part value value' : List Char} (h : Gives key part value)
    (h' : Gives key' part value') : key = key' := by
  obtain ⟨l, r, e, hl, hk, -⟩ := h
  obtain ⟨l', r', e', hl', hk', -⟩ := h'
  have hc := cut_eq_some_iff.2 ⟨e, hl⟩
  rw [cut_eq_some_iff.2 ⟨e', hl'⟩] at hc
  cases hc
  exact String.toList_inj.1 (hk.symm.trans hk')

/-- The attribute gives neither a lifetime in digits nor a moment: what it has in place of one
cannot be read, or it is about something else. -/
def Idle (part : List Char) : Prop :=
  (∀ value, Gives "max-age" part value → Garbled value) ∧
    ∀ value, Gives "expires" part value → parseMoment? value = none

theorem age?_of_garbled {part : List Char}
    (h : ∀ value, Gives "max-age" part value → Garbled value) : age? part = none := by
  cases hv : attributeValue? "max-age" part with
  | none => rw [age?, hv, Option.bind_none]
  | some value =>
    rw [age?, hv, Option.bind_some, ageOf?_of_garbled (h value (attributeValue?_eq_some_iff.1 hv))]

theorem Idle.age?_eq {part : List Char} (h : Idle part) : age? part = none := age?_of_garbled h.1

theorem Idle.expiry?_eq {part : List Char} (h : Idle part) : expiry? part = none := by
  rw [expiry?_eq_none_iff]
  rintro t ⟨value, hg, hp⟩
  rw [h.2 value hg] at hp
  cases hp

theorem age?_of_expires {part value : List Char} (h : Gives "expires" part value) :
    age? part = none :=
  age?_of_garbled fun _ hg => absurd (hg.key_eq h) (by decide)

theorem findSome?_reverse_middle {α β : Type} {f : α → Option β} {old new : List α}
    (h : ∀ a ∈ old ++ new, f a = none) (front back : List α) :
    (front ++ new ++ back).reverse.findSome? f = (front ++ old ++ back).reverse.findSome? f := by
  have hold : old.reverse.findSome? f = none :=
    List.findSome?_eq_none_iff.2 fun a ha => h a (by simp_all)
  have hnew : new.reverse.findSome? f = none :=
    List.findSome?_eq_none_iff.2 fun a ha => h a (by simp_all)
  simp only [List.reverse_append, List.findSome?_append, hold, hnew]

/-! ## What a directive does to a jar -/

namespace Jar

variable {head : List Char} {name value : String} {parts parts' : List (List Char)}

/-- Which attributes come after a pair matters only for whether they leave it any time. -/
theorem set_joined_congr (hs : Spells head name value) (hhead : ';' ∉ head) {now : Int}
    (h : Expired (joined (head :: parts)) now ↔ Expired (joined (head :: parts')) now) (jar : Jar) :
    jar.set now (joined (head :: parts)) = jar.set now (joined (head :: parts')) := by
  have hspells (parts : List (List Char)) :
      Spells (before ';' (joined (head :: parts)).toList) name value := by
    rwa [before_joined hhead]
  obtain ⟨p, -, rfl, rfl⟩ := Pair.exists_parse_eq_ok (hspells parts)
  rw [jar.set_of_pair (hspells parts), jar.set_of_pair (hspells parts')]
  simp only [h]

theorem set_joined_of_idle (hs : Spells head name value) (hhead : ';' ∉ head)
    {front old new back : List (List Char)} (hparts : ∀ part ∈ front ++ old ++ back, ';' ∉ part)
    (hnew : ∀ part ∈ new, ';' ∉ part) (h : ∀ part ∈ old ++ new, Idle part) (jar : Jar) (now : Int) :
    jar.set now (joined (head :: (front ++ new ++ back))) =
      jar.set now (joined (head :: (front ++ old ++ back))) := by
  have hage : lastAge? (front ++ new ++ back) = lastAge? (front ++ old ++ back) :=
    findSome?_reverse_middle (fun part hp => (h part hp).age?_eq) front back
  have hexpiry : lastExpiry? (front ++ new ++ back) = lastExpiry? (front ++ old ++ back) :=
    findSome?_reverse_middle (fun part hp => (h part hp).expiry?_eq) front back
  refine set_joined_congr hs hhead ?_ jar
  rw [expired_joined_iff hhead (forall_mem_middle hparts hnew), expired_joined_iff hhead hparts,
    hage, hexpiry]

theorem set_joined_of_timed (hs : Spells head name value) (hhead : ';' ∉ head)
    {front old new back : List (List Char)} (hparts : ∀ part ∈ front ++ old ++ back, ';' ∉ part)
    (hnew : ∀ part ∈ new, ';' ∉ part) (htimed : ∃ part ∈ front ++ back, ∃ value, Timed part value)
    (h : ∀ part ∈ old ++ new, ∃ value, Gives "expires" part value) (jar : Jar) (now : Int) :
    jar.set now (joined (head :: (front ++ new ++ back))) =
      jar.set now (joined (head :: (front ++ old ++ back))) := by
  have hage : lastAge? (front ++ new ++ back) = lastAge? (front ++ old ++ back) :=
    findSome?_reverse_middle (fun part hp => (h part hp).elim fun _ => age?_of_expires) front back
  have hsome : lastAge? (front ++ old ++ back) ≠ none := by
    obtain ⟨part, hp, value, ht⟩ := htimed
    obtain ⟨age, ha, -⟩ := age?_of_timed ht
    have hm : part ∈ (front ++ old ++ back).reverse := by
      simp only [List.mem_reverse, List.mem_append] at hp ⊢
      exact hp.imp_left .inl
    intro hn
    have hnone : age? part = none := List.findSome?_eq_none_iff.1 hn part hm
    rw [ha] at hnone
    cases hnone
  refine set_joined_congr hs hhead ?_ jar
  rw [expired_joined_iff hhead (forall_mem_middle hparts hnew), expired_joined_iff hhead hparts,
    hage]
  simp only [hsome, false_and]

/-- A directive of a pair and attributes removes the name of the pair just if the last lifetime in
digits is negative or zero, however many digits there are, or if there is none and the last moment
is not later than the clock. Otherwise the name has the value of the pair afterwards. All other
names keep their values. Attributes that give neither a lifetime in digits nor a moment may be put
in, left out or exchanged without any effect, and next to a lifetime in digits so may moments. -/
theorem removes_iff_evicted (jar : Jar) (now : Int) (hs : Spells head name value)
    (hhead : ';' ∉ head) (hparts : ∀ part ∈ parts, ';' ∉ part)
    (hages : ∀ part ∈ parts, Legible part) :
    let after := jar.set now (joined (head :: parts))
    after.2 = none ∧
    (value? after.1.text name = none ↔ Evicted parts now) ∧
    (¬ Evicted parts now → value? after.1.text name = some value) ∧
    (∀ other ≠ name, value? after.1.text other = value? jar.text other) ∧
    (∀ front old new back, parts = front ++ old ++ back → (∀ part ∈ new, ';' ∉ part) →
      (∀ part ∈ old ++ new, Idle part) →
      jar.set now (joined (head :: (front ++ new ++ back))) = after) ∧
    ∀ front old new back, parts = front ++ old ++ back → (∀ part ∈ new, ';' ∉ part) →
      (∃ part ∈ front ++ back, ∃ age, Timed part age) →
      (∀ part ∈ old ++ new, ∃ date, Gives "expires" part date) →
      jar.set now (joined (head :: (front ++ new ++ back))) = after := by
  intro after
  have hspells : Spells (before ';' (joined (head :: parts)).toList) name value := by
    rwa [before_joined hhead]
  obtain ⟨next, hset, hget⟩ := jar.set_of_spells hspells now
  have hafter : after = (next, none) := hset
  have hevicted := expired_iff_evicted hhead hparts hages now
  refine ⟨by rw [hafter], ?_, ?_, ?_, ?_, ?_⟩
  · rw [hafter, value?_text, hget, if_pos rfl, ← hevicted]
    simp
  · intro h
    rw [hafter, value?_text, hget, if_pos rfl, if_neg (mt hevicted.1 h)]
  · intro other hne
    rw [hafter, value?_text, hget, if_neg hne, value?_text]
  · rintro front old new back rfl hnew h
    exact set_joined_of_idle hs hhead hparts hnew h jar now
  · rintro front old new back rfl hnew htimed h
    exact set_joined_of_timed hs hhead hparts hnew htimed h jar now

/-- A lifetime that is too long to count, a negative one after it, one that is none, and a moment
that is still to come. -/
theorem removed_by_negative_age :
    let head := "dark=true".toList
    let parts := [" Max-Age=99999999999999999999".toList, " MAX-AGE = -7".toList,
      " max-age=soon".toList, " Expires=Fri, 01 Jan 2100 00:00:00 GMT".toList]
    Spells head "dark" "true" ∧ ';' ∉ head ∧ (∀ part ∈ parts, ';' ∉ part) ∧
      (∀ part ∈ parts, Legible part) ∧
      value? ((ofString "dark=1; lang=en").set 0 (joined (head :: parts))).1.text "dark" =
        none := by
  intro head parts
  have hs : Spells head "dark" "true" := ⟨by decide, "dark".toList, "true".toList, rfl, by decide⟩
  have hhead : ';' ∉ head := by decide
  have hparts : ∀ part ∈ parts, ';' ∉ part := by decide
  have hages : ∀ part ∈ parts, Legible part := by decide
  have hlast : Last Timed parts "-7".toList := by
    refine ⟨parts.take 1, parts[1], parts.drop 2, rfl, ⟨by decide, by decide⟩, ?_⟩
    have hback : ∀ other ∈ parts.drop 2, age? other = none := by decide
    intro other ho
    have hm : other ∈ parts := List.mem_of_mem_drop ho
    exact (age?_eq_none_iff (hages other hm)).1 (hback other ho)
  have h := (ofString "dark=1; lang=en").removes_iff_evicted 0 hs hhead hparts hages
  exact ⟨hs, hhead, hparts, hages, h.2.1.2 (.inl ⟨_, hlast, .inl rfl⟩)⟩

end Jar
end ThemeSwitch.Cookie
