import ThemeSwitch.Proofs.CalendarStamps

/-! # The four forms are read back

A moment may be written in four forms. In front of each there may be a day of the week, right or
wrong, or none. From such a text the moment is read (`parseMoment?_of_written`), as the forms that
are tried before its own do not fit. The two digits of the year in the second form stand for a year
from 1970 to 2069 (`fullYear_emod`). -/
namespace ThemeSwitch.Calendar
open Text

/-! ## Years in full and in two digits -/

/-- Only years below 100 are taken for years of two digits. -/
theorem fullYear_of_le {year : Int} (h : 100 ≤ year) : fullYear year = year := by
  rw [fullYear, if_neg (by omega), if_neg (by omega)]

/-- The years from 1970 to 2069 are told by their last two digits. -/
theorem fullYear_emod {year : Int} (h : 1970 ≤ year) (h' : year < 2070) :
    fullYear (year % 100) = year := by
  unfold fullYear
  split
  · omega
  · split
    · omega
    · omega

/-! ## What a form begins with -/

/-- What may stand in front of a date: one of the words with the mark after it, or nothing. -/
inductive Front (words : List String) (mark : String) : List Char → Prop
  | missing : Front words mark []
  | written {word : String} (h : word ∈ words) : Front words mark (word.toList ++ mark.toList)

/-- The digits of a day of the month, before which a blank may stand for a zero. -/
inductive DayDigits (n : Nat) : List Char → Prop
  | zeros : DayDigits n (padded 2 n)
  | blank (h : n < 10) : DayDigits n [' ', Nat.digitChar n]

/-- What goes on in this way does not begin with one of the words and the mark after it. -/
def Skips (words : List String) (mark : String) (next : List Char) : Prop :=
  ∀ word ∈ words, Apart (word.toList ++ mark.toList) next

instance (words : List String) (mark : String) (next : List Char) :
    Decidable (Skips words mark next) :=
  inferInstanceAs (Decidable (∀ word ∈ words, _))

/-- What goes on in this way begins neither with a day of the week and a comma nor with a digit. -/
def NoDay (words : List String) (next : List Char) : Prop :=
  Skips words ", " next ∧ next.head?.map Char.isDigit = some false

instance (words : List String) (next : List Char) : Decidable (NoDay words next) :=
  inferInstanceAs (Decidable (_ ∧ _))

/-- What goes on in this way begins neither with a day of the week and a blank nor with a month. -/
def NoMonth (next : List Char) : Prop :=
  Skips shortDays " " next ∧ ∀ month ∈ shortMonths, Apart month.toList next

instance (next : List Char) : Decidable (NoMonth next) := inferInstanceAs (Decidable (_ ∧ _))

namespace Reader

variable {cs rest : List Char} {words : List String} {mark : String}

theorem perhaps_of_some {r : Reader Unit} (h : r cs = some ((), rest)) :
    perhaps r cs = some ((), rest) := by
  rw [perhaps, h, Option.getD_some]

theorem perhaps_of_none {r : Reader Unit} (h : r cs = none) : perhaps r cs = some ((), cs) := by
  rw [perhaps, h, Option.getD_none]

theorem literal_eq_none {word : String} (h : ¬ word.toList <+: cs) :
    literal word cs = none := by
  rw [literal, if_neg (mt List.isPrefixOf_iff_prefix.1 h)]

theorem exists_word_of_wordOf {i : Nat} (h : wordOf words cs = some (i, rest)) :
    ∃ word ∈ words, cs = word.toList ++ rest := by
  rw [wordOf] at h
  split at h
  · next j hfind =>
    obtain ⟨hj, hprefix, -⟩ := List.findIdx?_eq_some_iff_getElem.1 hfind
    obtain ⟨tail, rfl⟩ := List.isPrefixOf_iff_prefix.1 hprefix
    rw [List.getD_eq_getElem words "" hj, ← String.length_toList, List.drop_left] at h
    cases h
    exact ⟨_, List.getElem_mem hj, rfl⟩
  · cases h

theorem wordOf_of_apart {next : List Char} (h : ∀ word ∈ words, Apart word.toList next)
    (rest : List Char) : wordOf words (next ++ rest) = none := by
  cases hword : wordOf words (next ++ rest) with
  | none => rfl
  | some p =>
    obtain ⟨word, hmem, heq⟩ := exists_word_of_wordOf hword
    exact absurd (heq ▸ List.prefix_append _ _) ((h word hmem).not_prefix_append rest)

theorem front_of_skips {next : List Char} (h : Skips words mark next) (rest : List Char) :
    front words mark (next ++ rest) = some ((), next ++ rest) := by
  refine perhaps_of_none ?_
  cases hword : wordOf words (next ++ rest) with
  | none => exact bind_of_none hword _
  | some p =>
    obtain ⟨i, tail⟩ := p
    obtain ⟨word, hmem, heq⟩ := exists_word_of_wordOf hword
    rw [bind_of_some hword]
    refine literal_eq_none fun hmark => (h word hmem).not_prefix_append rest ?_
    rw [heq]
    exact (List.prefix_append_right_inj _).2 hmark

theorem front_passed {lead next : List Char}
    (hwords : words.Pairwise fun v w => Apart v.toList w.toList) (hlead : Front words mark lead)
    (h : Skips words mark next) (rest : List Char) :
    front words mark (lead ++ (next ++ rest)) = some ((), next ++ rest) := by
  cases hlead with
  | missing => exact front_of_skips h rest
  | written hmem =>
    obtain ⟨i, hi, rfl⟩ := List.getElem_of_mem hmem
    refine perhaps_of_some ?_
    rw [List.append_assoc, ← List.getD_eq_getElem words "" hi,
      bind_of_some (wordOf_append hwords hi _)]
    exact literal_append mark _

theorem paddedDigits_append {n : Nat} {digits : List Char} (hdigits : DayDigits n digits)
    (h : n < 100) (rest : List Char) : paddedDigits (digits ++ rest) = some (n, rest) := by
  cases hdigits with
  | zeros =>
    have htwo := twoDigits_append h rest
    unfold paddedDigits
    split
    · next heq =>
      have hhead : Nat.digitChar (n / 10 % 10) = ' ' := (List.cons.inj heq).1
      have hdigit := isDigit_digitChar (Nat.mod_lt (n / 10) (by decide : 10 > 0))
      rw [hhead] at hdigit
      cases hdigit
    · exact htwo
  | blank hn => exact digit_cons hn rest

theorem twoDigits_of_letter {next : List Char} (h : next.head?.map Char.isDigit = some false)
    (rest : List Char) : twoDigits (next ++ rest) = none := by
  cases next with
  | nil => cases h
  | cons c next =>
    refine bind_of_none ?_ _
    exact if_neg (by simpa using h)

end Reader

open Reader

namespace Moment

variable {t : Moment}

/-! ## Forms that do not fit -/

/-- After the day another mark was expected. -/
theorem dayFirst_of_mark {words : List String} {mark mark' : String} {cs digits : List Char}
    (hfront : front words ", " cs = some ((), t.dayStamp mark' digits))
    (hmark : Apart mark.toList mark'.toList) (year : Reader Int) :
    dayFirst words mark year cs = none := by
  rw [dayFirst, ← front, bind_of_some hfront]
  simp only [dayStamp, List.append_assoc]
  rw [bind_of_some (twoDigits_append t.date.day_lt _)]
  exact bind_of_none (literal_eq_none (hmark.not_prefix_append _)) _

theorem dayFirst_of_noDay {words : List String} {next : List Char} (h : NoDay words next)
    (mark : String) (year : Reader Int) (rest : List Char) :
    dayFirst words mark year (next ++ rest) = none := by
  rw [dayFirst, ← front, bind_of_some (front_of_skips h.1 rest)]
  exact bind_of_none (twoDigits_of_letter h.2 rest) _

/-- After two digits of the year a blank was expected. -/
theorem dayFirst_of_longYear {words : List String} {mark : String} {cs : List Char}
    {year : Nat} {reader : Reader Int} {century : Int}
    (hfront : front words ", " cs = some ((), t.dayStamp mark (padded 4 year)))
    (hyear : ∀ rest, reader (padded 2 (year / 100) ++ rest) = some (century, rest)) :
    dayFirst words mark reader cs = none := by
  have hblank : ∀ d < 10, Apart " ".toList [Nat.digitChar d] := by decide
  have hdigit := (hblank (year / 10 % 10) (Nat.mod_lt _ (by decide))).not_prefix_append
  rw [dayFirst, ← front, bind_of_some hfront]
  simp only [dayStamp, padded_four, List.append_assoc]
  rw [bind_of_some (twoDigits_append t.date.day_lt _), bind_of_some (literal_append mark _),
    bind_of_some (monthName_append t.date _), bind_of_some (literal_append mark _),
    bind_of_some (hyear _)]
  exact bind_of_none (literal_eq_none (hdigit _)) _

theorem monthFirst_of_noMonth {next : List Char} (h : NoMonth next) (rest : List Char) :
    monthFirst (next ++ rest) = none := by
  have hname : monthName (next ++ rest) = none := map_of_none (wordOf_of_apart h.2 rest) _
  rw [monthFirst, ← front, bind_of_some (front_of_skips h.1 rest)]
  exact bind_of_none hname _

/-! ## The forms -/

/-- The moment from its month to its year, with the given digits of the day. -/
def monthStamp (t : Moment) (day : List Char) : List Char :=
  t.date.monthWord ++ " ".toList ++ day ++ " ".toList ++ t.timeStamp ++ " ".toList ++
    padded 4 t.date.year.toNat

/-- The texts in which the moment may be written. -/
inductive Written (t : Moment) : List Char → Prop
  -- Sun, 06 Nov 1994 08:49:37 GMT
  | spaced {lead : List Char} (hlead : Front shortDays ", " lead) (h : 100 ≤ t.date.year)
      (h' : t.date.year ≤ 9999) : Written t (lead ++ t.dayStamp " " (padded 4 t.date.year.toNat))
  -- Sunday, 06-Nov-94 08:49:37 GMT
  | shortYear {lead : List Char} (hlead : Front longDays ", " lead) (h : 1970 ≤ t.date.year)
      (h' : t.date.year < 2070) :
      Written t (lead ++ t.dayStamp "-" (padded 2 (t.date.year.toNat % 100)))
  -- Sun Nov  6 08:49:37 1994
  | yearLast {lead day : List Char} (hlead : Front shortDays " " lead)
      (hday : DayDigits t.date.day day) (h : 100 ≤ t.date.year) (h' : t.date.year ≤ 9999) :
      Written t (lead ++ t.monthStamp day)
  -- Sun, 06-Nov-1994 08:49:37 GMT
  | dashed {lead : List Char} (hlead : Front shortDays ", " lead) (h : 100 ≤ t.date.year)
      (h' : t.date.year ≤ 9999) : Written t (lead ++ t.dayStamp "-" (padded 4 t.date.year.toNat))

theorem shortYear_append {year : Nat} (h : year < 100) (rest : List Char) :
    ((↑·) <$> twoDigits : Reader Int) (padded 2 year ++ rest) = some ((year : Int), rest) :=
  map_of_some (bind_of_some (twoDigits_append h rest) _) _

theorem exists_digit_dayStamp (t : Moment) (mark : String) (digits : List Char) :
    ∃ d < 10, ∃ rest, t.dayStamp mark digits = [Nat.digitChar d] ++ rest := by
  refine ⟨t.date.day / 10 % 10, Nat.mod_lt _ (by decide), ?_⟩
  simp only [dayStamp, List.append_assoc]
  exact ⟨_, rfl⟩

theorem front_dayStamp {words : List String} (hwords : words ∈ [shortDays, longDays])
    {lead : List Char} (hlead : Front words ", " lead) (mark : String) (digits : List Char) :
    front words ", " (lead ++ t.dayStamp mark digits) = some ((), t.dayStamp mark digits) := by
  have hapart : ∀ words ∈ [shortDays, longDays],
      words.Pairwise fun v w => Apart v.toList w.toList := by decide
  have hskips : ∀ words ∈ [shortDays, longDays], ∀ d < 10,
      Skips words ", " [Nat.digitChar d] := by decide
  obtain ⟨d, hd, rest, hday⟩ := t.exists_digit_dayStamp mark digits
  rw [hday]
  exact front_passed (hapart words hwords) hlead (hskips words hwords d hd) rest

theorem monthFirst_monthStamp {lead day : List Char} (hlead : Front shortDays " " lead)
    (hday : DayDigits t.date.day day) (h : 0 ≤ t.date.year) (h' : t.date.year ≤ 9999) :
    monthFirst (lead ++ t.monthStamp day) = some (t.fields, []) := by
  have hskips : ∀ month ∈ shortMonths, Skips shortDays " " month.toList := by decide
  have hmonth : Skips shortDays " " t.date.monthWord :=
    getD_of_forall (P := fun month => Skips shortDays " " month.toList) hskips
      t.date.month_sub_one_lt
  have hyear := signedYear_append h h' []
  rw [List.append_nil] at hyear
  rw [monthFirst, ← front]
  simp only [monthStamp, List.append_assoc]
  rw [bind_of_some (front_passed (by decide) hlead hmonth _),
    bind_of_some (monthName_append t.date _), bind_of_some (literal_append " " _),
    bind_of_some (paddedDigits_append hday t.date.day_lt _), bind_of_some (literal_append " " _),
    bind_of_some (timeOfDay_append t _)]
  dsimp only
  rw [bind_of_some (literal_append " " _), bind_of_some hyear]
  rfl

/-! ## Each form is read -/

theorem momentBy_of_none {form : Reader Fields} {cs : List Char} (h : form cs = none) :
    momentBy form cs = none := by
  rw [momentBy, h]

theorem parseMoment?_spaced {lead : List Char} (hlead : Front shortDays ", " lead)
    (h : 100 ≤ t.date.year) (h' : t.date.year ≤ 9999) :
    parseMoment? (lead ++ t.dayStamp " " (padded 4 t.date.year.toNat)) = some t := by
  have hread := momentBy_dayStamp (front_dayStamp (by simp) hlead " " _)
    (signedYear_append (by omega) h') (fullYear_of_le h)
  rw [parseMoment?, hread]
  rfl

theorem parseMoment?_shortYear {lead : List Char} (hlead : Front longDays ", " lead)
    (h : 1970 ≤ t.date.year) (h' : t.date.year < 2070) :
    parseMoment? (lead ++ t.dayStamp "-" (padded 2 (t.date.year.toNat % 100))) = some t := by
  have hspaced : dayFirst shortDays " " signedYear
      (lead ++ t.dayStamp "-" (padded 2 (t.date.year.toNat % 100))) = none := by
    cases hlead with
    | missing => exact dayFirst_of_mark (front_dayStamp (by simp) .missing "-" _) (by decide) _
    | written hword =>
      have hday : ∀ word ∈ longDays, NoDay shortDays word.toList := by decide
      rw [List.append_assoc]
      exact dayFirst_of_noDay (hday _ hword) _ _ _
  have hyear : fullYear ((t.date.year.toNat % 100 : Nat) : Int) = t.date.year := by
    have hdigits : ((t.date.year.toNat % 100 : Nat) : Int) = t.date.year % 100 := by omega
    rw [hdigits, fullYear_emod h h']
  have hread := momentBy_dayStamp (front_dayStamp (by simp) hlead "-" _)
    (shortYear_append (Nat.mod_lt _ (by decide))) hyear
  rw [parseMoment?, momentBy_of_none hspaced, hread]
  rfl

theorem parseMoment?_yearLast {lead day : List Char} (hlead : Front shortDays " " lead)
    (hday : DayDigits t.date.day day) (h : 100 ≤ t.date.year) (h' : t.date.year ≤ 9999) :
    parseMoment? (lead ++ t.monthStamp day) = some t := by
  have hdays : ∀ words ∈ [shortDays, longDays], ∀ (mark : String) (year : Reader Int),
      dayFirst words mark year (lead ++ t.monthStamp day) = none := by
    intro words hwords mark year
    cases hlead with
    | missing =>
      have hmonths : ∀ words ∈ [shortDays, longDays], ∀ month ∈ shortMonths,
        NoDay words month.toList := by decide
      have hmonth : NoDay words t.date.monthWord :=
        getD_of_forall (P := fun month => NoDay words month.toList) (hmonths words hwords)
          t.date.month_sub_one_lt
      simp only [List.nil_append, monthStamp, List.append_assoc]
      exact dayFirst_of_noDay hmonth _ _ _
    | written hword =>
      have hday : ∀ words ∈ [shortDays, longDays], ∀ word ∈ shortDays,
        NoDay words (word.toList ++ " ".toList) := by decide
      exact dayFirst_of_noDay (hday words hwords _ hword) _ _ _
  have hread : momentBy monthFirst (lead ++ t.monthStamp day) = some t := by
    rw [momentBy, monthFirst_monthStamp hlead hday (by omega) h']
    exact moment?_fields (fullYear_of_le h)
  rw [parseMoment?, momentBy_of_none (hdays _ (by simp) _ _),
    momentBy_of_none (hdays _ (by simp) _ _), hread]
  rfl

theorem parseMoment?_dashed {lead : List Char} (hlead : Front shortDays ", " lead)
    (h : 100 ≤ t.date.year) (h' : t.date.year ≤ 9999) :
    parseMoment? (lead ++ t.dayStamp "-" (padded 4 t.date.year.toNat)) = some t := by
  have hspaced : dayFirst shortDays " " signedYear
      (lead ++ t.dayStamp "-" (padded 4 t.date.year.toNat)) = none :=
    dayFirst_of_mark (front_dayStamp (by simp) hlead "-" _) (by decide) _
  have hshort : dayFirst longDays "-" ((↑·) <$> twoDigits)
      (lead ++ t.dayStamp "-" (padded 4 t.date.year.toNat)) = none := by
    cases hlead with
    | missing =>
      exact dayFirst_of_longYear (front_dayStamp (by simp) .missing "-" _)
        (shortYear_append (by omega))
    | written hword =>
      have hday : ∀ word ∈ shortDays, NoDay longDays (word.toList ++ ", ".toList) := by decide
      exact dayFirst_of_noDay (hday _ hword) _ _ _
  have hmonth : monthFirst (lead ++ t.dayStamp "-" (padded 4 t.date.year.toNat)) = none := by
    cases hlead with
    | missing =>
      have hdigit : ∀ d < 10, NoMonth [Nat.digitChar d] := by decide
      obtain ⟨d, hd, rest, hday⟩ := t.exists_digit_dayStamp "-" (padded 4 t.date.year.toNat)
      rw [List.nil_append, hday]
      exact monthFirst_of_noMonth (hdigit d hd) rest
    | written hword =>
      have hday : ∀ word ∈ shortDays, NoMonth (word.toList ++ ", ".toList) := by decide
      exact monthFirst_of_noMonth (hday _ hword) _
  have hread := momentBy_dayStamp (front_dayStamp (by simp) hlead "-" _)
    (signedYear_append (by omega) h') (fullYear_of_le h)
  rw [parseMoment?, momentBy_of_none hspaced, momentBy_of_none hshort, momentBy_of_none hmonth,
    hread]
  rfl

/-- From a text in one of the forms its moment is read. -/
theorem parseMoment?_of_written {cs : List Char} (h : t.Written cs) :
    parseMoment? cs = some t := by
  cases h with
  | spaced hlead h h' => exact parseMoment?_spaced hlead h h'
  | shortYear hlead h h' => exact parseMoment?_shortYear hlead h h'
  | yearLast hlead hday h h' => exact parseMoment?_yearLast hlead hday h h'
  | dashed hlead h h' => exact parseMoment?_dashed hlead h h'

example :
    (parseMoment? "Monday, 06-Nov-69 08:49:37 GMT".toList).map (·.date.year) = some 2069 := by
  decide

example : (parseMoment? "06-Nov-70 08:49:37 GMT".toList).map (·.date.year) = some 1970 := by decide

/-- A stamp is written in the first form. -/
theorem written_stamp (h : 100 ≤ t.date.year) (h' : t.date.year ≤ 9999) : t.Written t.stamp := by
  have hweekday : Front shortDays ", " (t.date.weekdayWord ++ ", ".toList) :=
    .written (getD_of_forall (P := (· ∈ shortDays)) (fun _ hword => hword) t.date.weekday_lt)
  rw [stamp_eq, ← List.append_assoc]
  exact .spaced hweekday h h'

/-- No text is written for two moments. -/
theorem Written.unique {t' : Moment} {cs : List Char} (h : t.Written cs) (h' : t'.Written cs) :
    t = t' :=
  Option.some.inj ((parseMoment?_of_written h).symm.trans (parseMoment?_of_written h'))

/-! ## Forms among other texts -/

theorem semicolon_not_mem_padded (width n : Nat) : ';' ∉ padded width n := fun hm =>
  absurd (isDigit_of_mem_padded hm) (by decide)

theorem semicolon_not_mem_monthWord (d : Date) : ';' ∉ d.monthWord :=
  getD_of_forall (P := fun word => ';' ∉ word.toList) (by decide) d.month_sub_one_lt

theorem semicolon_not_mem_lead {words : List String} {mark : String} {lead : List Char}
    (hlead : Front words mark lead) (hwords : ∀ word ∈ words, ';' ∉ word.toList)
    (hmark : ';' ∉ mark.toList) : ';' ∉ lead := by
  cases hlead with
  | missing => exact List.not_mem_nil
  | written hword => exact List.not_mem_append (hwords _ hword) hmark

theorem semicolon_not_mem_dayDigits {n : Nat} {day : List Char} (hday : DayDigits n day) :
    ';' ∉ day := by
  cases hday with
  | zeros => exact semicolon_not_mem_padded 2 n
  | blank hn => simp

theorem semicolon_not_mem_dayStamp (t : Moment) {mark : String} (hmark : ';' ∉ mark.toList)
    (width year : Nat) : ';' ∉ t.dayStamp mark (padded width year) := by
  simp [dayStamp, timeStamp, hmark, semicolon_not_mem_padded, semicolon_not_mem_monthWord]

theorem semicolon_not_mem_monthStamp (t : Moment) {n : Nat} {day : List Char}
    (hday : DayDigits n day) : ';' ∉ t.monthStamp day := by
  simp [monthStamp, timeStamp, semicolon_not_mem_padded, semicolon_not_mem_monthWord,
    semicolon_not_mem_dayDigits hday]

theorem Written.semicolon_not_mem {cs : List Char} (h : t.Written cs) : ';' ∉ cs := by
  cases h with
  | spaced hlead =>
    exact List.not_mem_append (semicolon_not_mem_lead hlead (by decide) (by decide))
      (t.semicolon_not_mem_dayStamp (by decide) _ _)
  | shortYear hlead =>
    exact List.not_mem_append (semicolon_not_mem_lead hlead (by decide) (by decide))
      (t.semicolon_not_mem_dayStamp (by decide) _ _)
  | yearLast hlead hday =>
    exact List.not_mem_append (semicolon_not_mem_lead hlead (by decide) (by decide))
      (t.semicolon_not_mem_monthStamp hday)
  | dashed hlead =>
    exact List.not_mem_append (semicolon_not_mem_lead hlead (by decide) (by decide))
      (t.semicolon_not_mem_dayStamp (by decide) _ _)

/-- The text has a letter or a digit at either end. -/
def Edged (cs : List Char) : Prop :=
  cs.head?.map Char.isAlphanum = some true ∧ cs.getLast?.map Char.isAlphanum = some true

theorem isAlphanum_digitChar {d : Nat} (h : d < 10) : (Nat.digitChar d).isAlphanum = true := by
  rw [Char.isAlphanum, isDigit_digitChar h, Bool.or_true]

theorem edged_dayStamp (t : Moment) (mark : String) (year : List Char) :
    Edged (t.dayStamp mark year) := by
  obtain ⟨d, hd, rest, hday⟩ := t.exists_digit_dayStamp mark year
  have hlast : (t.dayStamp mark year).getLast? = some 'T' := by
    rw [dayStamp, List.getLast?_append]
    rfl
  constructor
  · rw [hday]
    exact congrArg some (isAlphanum_digitChar hd)
  · rw [hlast]
    rfl

theorem edged_monthStamp (t : Moment) (day : List Char) : Edged (t.monthStamp day) := by
  have hmonth : t.date.monthWord.head?.map Char.isAlphanum = some true :=
    getD_of_forall (P := fun word => word.toList.head?.map Char.isAlphanum = some true) (by decide)
      t.date.month_sub_one_lt
  obtain ⟨c, hc, halpha⟩ := Option.map_eq_some_iff.1 hmonth
  constructor
  · simp only [monthStamp, List.append_assoc]
    rw [List.head?_append, hc]
    exact congrArg some halpha
  · rw [monthStamp, List.getLast?_append, padded, List.getLast?_append]
    exact congrArg some (isAlphanum_digitChar (Nat.mod_lt _ (by decide)))

theorem trimmed_lead_append {words : List String} {mark : String} {lead next : List Char}
    (hlead : Front words mark lead)
    (hwords : ∀ word ∈ words, word.toList.head?.map Char.isAlphanum = some true)
    (hnext : Edged next) : Trimmed (lead ++ next) := by
  have hhead : (lead ++ next).head?.map Char.isAlphanum = some true := by
    cases hlead with
    | missing => exact hnext.1
    | written hword =>
      obtain ⟨c, hc, halpha⟩ := Option.map_eq_some_iff.1 (hwords _ hword)
      rw [List.append_assoc, List.head?_append, hc]
      exact congrArg some halpha
  obtain ⟨first, hfirst, halpha⟩ := Option.map_eq_some_iff.1 hhead
  obtain ⟨last, hlast, halpha'⟩ := Option.map_eq_some_iff.1 hnext.2
  refine trimmed_iff.2 ⟨fun c hc => ?_, fun c hc => ?_⟩
  · rw [hfirst] at hc
    cases hc
    exact isBlank_of_isAlphanum halpha
  · rw [List.getLast?_append, hlast] at hc
    cases hc
    exact isBlank_of_isAlphanum halpha'

theorem Written.trimmed {cs : List Char} (h : t.Written cs) : Trimmed cs := by
  cases h with
  | spaced hlead => exact trimmed_lead_append hlead (by decide) (t.edged_dayStamp _ _)
  | shortYear hlead => exact trimmed_lead_append hlead (by decide) (t.edged_dayStamp _ _)
  | yearLast hlead hday => exact trimmed_lead_append hlead (by decide) (t.edged_monthStamp _)
  | dashed hlead => exact trimmed_lead_append hlead (by decide) (t.edged_dayStamp _ _)

end Moment
end ThemeSwitch.Calendar
