import ThemeSwitch.Calendar.Stamp
import ThemeSwitch.Text.Blank
import ThemeSwitch.Proofs.CalendarSeconds
import Mathlib.Algebra.Group.Nat.Defs
import Mathlib.Data.List.GetD
import Mathlib.Data.List.TakeWhile

/-! # Written moments

The first of the forms in which a moment is written, `Sun, 06 Nov 1994 08:49:37 GMT`, as a text of
the moment, with the day of the week that its date has. The readers that the forms are made of take
the parts of such a text one after the other and find in them what was written
(`dayFirst_dayStamp`). -/
namespace ThemeSwitch.Calendar
open Text

/-! ## Digits of a fixed number -/

/-- The last digits of a number, as many as asked for; zeros are put in front of it. -/
def padded : Nat → Nat → List Char
  | 0, _ => []
  | width + 1, n => padded width (n / 10) ++ [Nat.digitChar (n % 10)]

theorem isDigit_digitChar {d : Nat} (h : d < 10) : (Nat.digitChar d).isDigit = true := by
  revert d
  decide

theorem digitValue_digitChar {d : Nat} (h : d < 10) : digitValue (Nat.digitChar d) = d := by
  revert d
  decide

@[simp] theorem length_padded (width n : Nat) : (padded width n).length = width := by
  induction width generalizing n with
  | zero => rfl
  | succ width ih => simp [padded, ih]

theorem isDigit_of_mem_padded {width n : Nat} {c : Char} (h : c ∈ padded width n) :
    c.isDigit = true := by
  induction width generalizing n with
  | zero => cases h
  | succ width ih =>
    rcases List.mem_append.1 h with h | h
    · exact ih h
    · rw [List.mem_singleton.1 h]
      exact isDigit_digitChar (Nat.mod_lt n (by decide))

theorem padded_four (n : Nat) : padded 4 n = padded 2 (n / 100) ++ padded 2 n := by
  simp [padded, Nat.div_div_eq_div_mul]

theorem decimal_padded (width n : Nat) : decimal (padded width n) = n % 10 ^ width := by
  induction width generalizing n with
  | zero => simp [padded, decimal, Nat.mod_one]
  | succ width ih =>
    have hlast := digitValue_digitChar (Nat.mod_lt n (by decide : 10 > 0))
    calc decimal (padded (width + 1) n)
      _ = 10 * decimal (padded width (n / 10)) + digitValue (Nat.digitChar (n % 10)) := by
        simp [padded, decimal]
      _ = n % 10 + 10 * (n / 10 % 10 ^ width) := by rw [ih, hlast, Nat.add_comm]
      _ = n % 10 ^ (width + 1) := by rw [Nat.pow_succ', Nat.mod_mul]

/-! ## Readers at the beginning of a text -/

/-- None of the two begins the other. -/
def Apart (v w : List Char) : Prop := ¬ v <+: w ∧ ¬ w <+: v

instance (v w : List Char) : Decidable (Apart v w) := inferInstanceAs (Decidable (_ ∧ _))

theorem Apart.not_prefix_append {v w : List Char} (h : Apart v w) (rest : List Char) :
    ¬ v <+: w ++ rest := fun hv =>
  (List.prefix_or_prefix_of_prefix hv (List.prefix_append w rest)).elim h.1 h.2

namespace Reader

variable {α β : Type} {cs rest : List Char}

theorem bind_of_some {r : Reader α} {a : α} (h : r cs = some (a, rest)) (f : α → Reader β) :
    (r >>= f) cs = f a rest := by
  change (r cs).bind (fun p => f p.1 p.2) = f a rest
  rw [h, Option.bind_some]

theorem map_of_some {r : Reader α} {a : α} (h : r cs = some (a, rest)) (f : α → β) :
    (f <$> r) cs = some (f a, rest) := by
  change (r cs).bind (fun p => some (f p.1, p.2)) = some (f a, rest)
  rw [h, Option.bind_some]

theorem bind_of_none {r : Reader α} (h : r cs = none) (f : α → Reader β) :
    (r >>= f) cs = none := by
  change (r cs).bind (fun p => f p.1 p.2) = none
  rw [h, Option.bind_none]

theorem map_of_none {r : Reader α} (h : r cs = none) (f : α → β) : (f <$> r) cs = none := by
  change (r cs).bind (fun p => some (f p.1, p.2)) = none
  rw [h, Option.bind_none]

theorem literal_append (word : String) (rest : List Char) :
    literal word (word.toList ++ rest) = some ((), rest) := by
  have hp : word.toList.isPrefixOf (word.toList ++ rest) = true :=
    List.isPrefixOf_iff_prefix.2 (List.prefix_append _ _)
  rw [literal, if_pos hp, ← String.length_toList, List.drop_left]

/-- Words that do not begin each other are each found at their own places. -/
theorem wordOf_append {words : List String}
    (hwords : words.Pairwise fun v w => Apart v.toList w.toList) {i : Nat} (hi : i < words.length)
    (rest : List Char) : wordOf words ((words.getD i "").toList ++ rest) = some (i, rest) := by
  have hget : words.getD i "" = words[i] := List.getD_eq_getElem words "" hi
  have hfind : words.findIdx? (·.toList.isPrefixOf (words[i].toList ++ rest)) = some i := by
    rw [List.findIdx?_eq_some_iff_getElem]
    refine ⟨hi, List.isPrefixOf_iff_prefix.2 (List.prefix_append _ _), fun j hj hp => ?_⟩
    have hapart := List.pairwise_iff_getElem.1 hwords j i (hj.trans hi) hi hj
    exact hapart.not_prefix_append rest (List.isPrefixOf_iff_prefix.1 hp)
  rw [hget, wordOf, hfind]
  dsimp only
  rw [hget, ← String.length_toList, List.drop_left]

/-- The day of the week and the mark after it, where they are written. -/
def front (words : List String) (mark : String) : Reader Unit :=
  perhaps (do let _ ← wordOf words; literal mark)

theorem digit_cons {d : Nat} (h : d < 10) (rest : List Char) :
    digit (Nat.digitChar d :: rest) = some (d, rest) := by
  rw [digit, if_pos (isDigit_digitChar h), digitValue_digitChar h]

theorem twoDigits_append {n : Nat} (h : n < 100) (rest : List Char) :
    twoDigits (padded 2 n ++ rest) = some (n, rest) := by
  have hpadded : padded 2 n ++ rest =
      Nat.digitChar (n / 10 % 10) :: Nat.digitChar (n % 10) :: rest := rfl
  have htens := digit_cons (Nat.mod_lt (n / 10) (by decide : 10 > 0))
    (Nat.digitChar (n % 10) :: rest)
  have hones := digit_cons (Nat.mod_lt n (by decide : 10 > 0)) rest
  rw [hpadded, twoDigits, bind_of_some htens, bind_of_some hones]
  change some (10 * (n / 10 % 10) + n % 10, rest) = some (n, rest)
  congr 2
  omega

theorem digitsUpTo_append {width n : Nat} (hw : width ≠ 0) (h : n < 10 ^ width)
    (rest : List Char) : digitsUpTo width (padded width n ++ rest) = some (n, rest) := by
  have htake : ((padded width n ++ rest).take width).takeWhile Char.isDigit = padded width n := by
    rw [List.take_left' (length_padded width n), List.takeWhile_eq_self_iff]
    exact fun c hc => isDigit_of_mem_padded hc
  rw [digitsUpTo, htake]
  split
  · next hnil =>
    have hlength := length_padded width n
    rw [hnil] at hlength
    exact absurd hlength.symm hw
  · rw [decimal_padded, Nat.mod_eq_of_lt h, List.drop_left]

theorem signedYear_append {year : Int} (h : 0 ≤ year) (h' : year ≤ 9999) (rest : List Char) :
    signedYear (padded 4 year.toNat ++ rest) = some (year, rest) := by
  have hunsigned (sign : Char) (hs : sign.isDigit = false) (digits : List Char) :
      padded 4 year.toNat ++ rest ≠ sign :: digits := by
    intro he
    have hhead : Nat.digitChar (year.toNat / 10 / 10 / 10 % 10) = sign := (List.cons.inj he).1
    rw [← hhead, isDigit_digitChar (Nat.mod_lt _ (by decide))] at hs
    cases hs
  unfold signedYear
  split
  · next he => exact absurd he (hunsigned '+' (by decide) _)
  · next he => exact absurd he (hunsigned '-' (by decide) _)
  · rw [digitsUpTo_append (by decide) (by omega), Option.map_some, Int.toNat_of_nonneg h]

end Reader

/-! ## Stamps -/

theorem getD_of_forall {P : String → Prop} {words : List String} (h : ∀ word ∈ words, P word)
    {i : Nat} (hi : i < words.length) : P (words.getD i "") := by
  rw [List.getD_eq_getElem words "" hi]
  exact h _ (List.getElem_mem hi)

namespace Date

def weekdayWord (d : Date) : List Char := (shortDays.getD d.weekday "").toList

def monthWord (d : Date) : List Char := (shortMonths.getD (d.month - 1) "").toList

theorem day_lt (d : Date) : d.day < 100 := by
  have := d.day_le.trans (monthLength_le _ _)
  omega

theorem month_sub_one_lt (d : Date) : d.month - 1 < shortMonths.length := by
  have hmonth := d.month_bounds.2
  change d.month - 1 < 12
  omega

end Date

namespace Moment

/-- The time of day with its colons. -/
def timeStamp (t : Moment) : List Char :=
  padded 2 t.hour ++ ":".toList ++ padded 2 t.minute ++ ":".toList ++ padded 2 t.second

/-- The moment from its day to its time, with the given mark between the parts of the date and the
given digits of the year. -/
def dayStamp (t : Moment) (mark : String) (year : List Char) : List Char :=
  padded 2 t.date.day ++ mark.toList ++ t.date.monthWord ++ mark.toList ++ year ++ " ".toList ++
    t.timeStamp ++ " GMT".toList

/-- The moment written with day of the week, day, month, year and time, for years up to 9999. -/
def stamp (t : Moment) : List Char :=
  t.date.weekdayWord ++ ", ".toList ++ padded 2 t.date.day ++ " ".toList ++ t.date.monthWord ++
    " ".toList ++ padded 4 t.date.year.toNat ++ " ".toList ++ t.timeStamp ++ " GMT".toList

theorem stamp_eq (t : Moment) : t.stamp =
    t.date.weekdayWord ++ (", ".toList ++ t.dayStamp " " (padded 4 t.date.year.toNat)) := by
  simp only [stamp, dayStamp, List.append_assoc]

example : (Moment.stamp ⟨⟨1994, 11, 6, by decide, by decide⟩, 8, 49, 37, by decide, by decide,
    by decide⟩) = "Sun, 06 Nov 1994 08:49:37 GMT".toList := by decide

/-- What stands in a stamp. -/
def fields (t : Moment) : Fields :=
  ⟨t.date.year, t.date.month, t.date.day, t.hour, t.minute, t.second⟩

/-- The moment is found from its fields if the year can be told from what is written of it. -/
theorem moment?_fields {t : Moment} {year : Int} (h : fullYear year = t.date.year) :
    Fields.moment? { t.fields with year } = some t := by
  have hdate : Date.of? t.date.year t.date.month t.date.day = some t.date :=
    dif_pos ⟨t.date.one_le_day, t.date.day_le⟩
  have htime : Moment.of? t.date t.hour t.minute t.second = some t :=
    dif_pos ⟨t.hour_lt, t.minute_lt, t.second_lt⟩
  simp only [Fields.moment?, fields, h, hdate]
  exact htime

open Reader

theorem timeOfDay_append (t : Moment) (rest : List Char) :
    timeOfDay (t.timeStamp ++ rest) = some ((t.hour, t.minute, t.second), rest) := by
  simp only [timeStamp, List.append_assoc]
  rw [timeOfDay, bind_of_some (twoDigits_append (t.hour_lt.trans (by decide)) _),
    bind_of_some (literal_append ":" _),
    bind_of_some (twoDigits_append (t.minute_lt.trans (by decide)) _),
    bind_of_some (literal_append ":" _),
    bind_of_some (twoDigits_append (t.second_lt.trans (by decide)) _)]
  rfl

theorem monthName_append (d : Date) (rest : List Char) :
    monthName (d.monthWord ++ rest) = some (d.month, rest) := by
  have hword : wordOf shortMonths (d.monthWord ++ rest) = some (d.month - 1, rest) :=
    wordOf_append (by decide) d.month_sub_one_lt rest
  rw [monthName, map_of_some hword, Nat.sub_add_cancel d.month_bounds.1]

/-- Where the day of the week has been passed, the reader takes the rest of the text and finds what
stands in it. -/
theorem dayFirst_dayStamp {t : Moment} {words : List String} {mark : String}
    {cs digits : List Char} {reader : Reader Int} {year : Int}
    (hfront : front words ", " cs = some ((), t.dayStamp mark digits))
    (hyear : ∀ rest, reader (digits ++ rest) = some (year, rest)) :
    dayFirst words mark reader cs = some ({ t.fields with year }, []) := by
  have hend : literal " GMT" " GMT".toList = some ((), []) := literal_append " GMT" []
  rw [dayFirst, ← front, bind_of_some hfront]
  simp only [dayStamp, List.append_assoc]
  rw [bind_of_some (twoDigits_append t.date.day_lt _), bind_of_some (literal_append mark _),
    bind_of_some (monthName_append t.date _), bind_of_some (literal_append mark _),
    bind_of_some (hyear _), bind_of_some (literal_append " " _),
    bind_of_some (timeOfDay_append t _)]
  dsimp only
  rw [bind_of_some hend]
  rfl

theorem momentBy_dayStamp {t : Moment} {words : List String} {mark : String}
    {cs digits : List Char} {reader : Reader Int} {year : Int}
    (hfront : front words ", " cs = some ((), t.dayStamp mark digits))
    (hyear : ∀ rest, reader (digits ++ rest) = some (year, rest))
    (h : fullYear year = t.date.year) : momentBy (dayFirst words mark reader) cs = some t := by
  rw [momentBy, dayFirst_dayStamp hfront hyear]
  exact moment?_fields h

end Moment
end ThemeSwitch.Calendar
