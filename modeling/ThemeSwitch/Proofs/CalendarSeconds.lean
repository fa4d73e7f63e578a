import ThemeSwitch.Calendar.Moment
import Mathlib.Logic.Function.Iterate
import Mathlib.Order.Monotone.Basic

/-! # Counting days and seconds

The day after a date and the second after a moment go by the lengths of the months alone. The
numbers of days and of seconds, which are calculated, go up by one with each (`dayNumber_next`,
`unixSeconds_next`) and order dates and moments as their fields do (`dayNumber_lt_iff`,
`unixSeconds_lt_iff`). So the seconds from one moment to another, counted one by one, are the
difference of their numbers (`elapsed_iff`). The day of the week, which is calculated as well, goes
on from day to day (`weekday_next`). -/
namespace ThemeSwitch.Calendar

/-! ## Years and months -/

theorem one_le_monthLength_iff {year : Int} {month : Nat} :
    1 ≤ monthLength year month ↔ 1 ≤ month ∧ month ≤ 12 := by
  unfold monthLength
  split
  case h_12 => split <;> decide
  case h_13 => grind
  all_goals decide

theorem monthLength_le (year : Int) (month : Nat) : monthLength year month ≤ 31 := by
  unfold monthLength
  split
  case h_12 => split <;> decide
  all_goals decide

/-- The months fill the year, leap years included: a thirteenth would begin with the next year. -/
theorem daysBeforeYear_succ (year : Int) :
    daysBeforeYear (year + 1) = daysBeforeYear year + daysBeforeMonth year 13 := by
  have hmonths : daysBeforeMonth year 13 = if isLeap year then 366 else 365 := by
    cases h : isLeap year <;> simp [daysBeforeMonth, monthLength, h]
  have hleap : isLeap year = true ↔ year % 4 = 0 ∧ (year % 100 ≠ 0 ∨ year % 400 = 0) := by
    simp [isLeap]
  rw [hmonths, daysBeforeYear, daysBeforeYear]
  split
  · next h =>
    have hyear := hleap.1 h
    omega
  · next h =>
    have hyear := mt hleap.2 h
    omega

theorem daysBeforeYear_le {year year' : Int} (h : year ≤ year') :
    daysBeforeYear year ≤ daysBeforeYear year' := by
  simp only [daysBeforeYear]
  omega

theorem daysBeforeMonth_le (year : Int) {month month' : Nat} (h : month ≤ month') :
    daysBeforeMonth year month ≤ daysBeforeMonth year month' :=
  monotone_nat_of_le_succ (fun _ => Nat.le_add_right _ _) h

/-! ## Dates -/

namespace Date

theorem month_bounds (d : Date) : 1 ≤ d.month ∧ d.month ≤ 12 :=
  one_le_monthLength_iff.1 (d.one_le_day.trans d.day_le)

/-- The day after. -/
def next (d : Date) : Date :=
  if h : d.day < monthLength d.year d.month then
    ⟨d.year, d.month, d.day + 1, by omega, h⟩
  else if h : d.month < 12 then
    ⟨d.year, d.month + 1, 1, le_rfl, one_le_monthLength_iff.2 ⟨by omega, h⟩⟩
  else
    ⟨d.year + 1, 1, 1, le_rfl, one_le_monthLength_iff.2 (by decide)⟩

theorem dayNumber_next (d : Date) : d.next.dayNumber = d.dayNumber + 1 := by
  have hday := d.day_le
  have hmonth : daysBeforeMonth d.year (d.month + 1) =
      daysBeforeMonth d.year d.month + monthLength d.year d.month := rfl
  unfold next
  split
  · simp only [dayNumber]
    omega
  · next hend =>
    split
    · simp only [dayNumber]
      omega
    · next hlast =>
      have hyear := daysBeforeYear_succ d.year
      have hfirst : daysBeforeMonth (d.year + 1) 1 = 0 := rfl
      have h12 : d.month = 12 := by have := d.month_bounds; omega
      simp only [h12, Nat.reduceAdd] at hmonth hday hend
      simp only [dayNumber, h12]
      omega

/-- The one date is earlier than the other, by year, then month, then day. -/
def Before (d d' : Date) : Prop :=
  d.year < d'.year ∨
    d.year = d'.year ∧ (d.month < d'.month ∨ d.month = d'.month ∧ d.day < d'.day)

theorem before_trichotomy (d d' : Date) : d.Before d' ∨ d = d' ∨ d'.Before d := by
  obtain ⟨year, month, day, _, _⟩ := d
  obtain ⟨year', month', day', _, _⟩ := d'
  simp only [Before, mk.injEq]
  omega

theorem dayNumber_lt_of_before {d d' : Date} (h : d.Before d') : d.dayNumber < d'.dayNumber := by
  have hday : daysBeforeMonth d.year d.month + d.day ≤ daysBeforeMonth d.year (d.month + 1) :=
    Nat.add_le_add_left d.day_le _
  have hday' := d'.one_le_day
  simp only [dayNumber]
  -- the earlier date is not past the end of its year, or of its month, where the later one begins
  rcases h with hyear | ⟨hyear, hmonth | ⟨hmonth, hlt⟩⟩
  · have hmonths : daysBeforeMonth d.year (d.month + 1) ≤ daysBeforeMonth d.year 13 :=
      daysBeforeMonth_le d.year (Nat.add_le_add_right d.month_bounds.2 1)
    have hyears := daysBeforeYear_le (Int.add_one_le_of_lt hyear)
    rw [daysBeforeYear_succ] at hyears
    omega
  · have hmonths := daysBeforeMonth_le d.year (Nat.add_one_le_of_lt hmonth)
    rw [← hyear]
    omega
  · rw [← hyear, ← hmonth]
    omega

/-- Of two dates the earlier one has the smaller number. -/
theorem dayNumber_lt_iff {d d' : Date} : d.dayNumber < d'.dayNumber ↔ d.Before d' := by
  refine ⟨fun h => ?_, dayNumber_lt_of_before⟩
  rcases before_trichotomy d d' with hb | rfl | hb
  · exact hb
  · exact absurd h (lt_irrefl _)
  · exact absurd h (dayNumber_lt_of_before hb).asymm

theorem dayNumber_injective : Function.Injective dayNumber := by
  intro d d' h
  rcases before_trichotomy d d' with hb | rfl | hb
  · exact absurd h (dayNumber_lt_of_before hb).ne
  · rfl
  · exact absurd h (dayNumber_lt_of_before hb).ne'

/-- The day of the week; Sunday is 0, and 1970 began on a Thursday. -/
def weekday (d : Date) : Nat := ((d.dayNumber + 4) % 7).toNat

theorem weekday_lt (d : Date) : d.weekday < 7 := by
  unfold weekday
  omega

/-- The days of the week follow each other. -/
theorem weekday_next (d : Date) : d.next.weekday = (d.weekday + 1) % 7 := by
  unfold weekday
  rw [dayNumber_next]
  omega

end Date

/-! ## Moments -/

namespace Moment

/-- The second after. -/
def next (t : Moment) : Moment :=
  if h : t.second + 1 < 60 then
    ⟨t.date, t.hour, t.minute, t.second + 1, t.hour_lt, t.minute_lt, h⟩
  else if h : t.minute + 1 < 60 then
    ⟨t.date, t.hour, t.minute + 1, 0, t.hour_lt, h, by decide⟩
  else if h : t.hour + 1 < 24 then
    ⟨t.date, t.hour + 1, 0, 0, h, by decide, by decide⟩
  else
    ⟨t.date.next, 0, 0, 0, by decide, by decide, by decide⟩

theorem unixSeconds_next (t : Moment) : t.next.unixSeconds = t.unixSeconds + 1 := by
  have hhour := t.hour_lt
  have hminute := t.minute_lt
  have hsecond := t.second_lt
  have hday := t.date.dayNumber_next
  unfold next
  split
  · simp only [unixSeconds]
    omega
  · split
    · simp only [unixSeconds]
      omega
    · split
      · simp only [unixSeconds]
        omega
      · simp only [unixSeconds]
        omega

theorem unixSeconds_iterate_next (n : Nat) (t : Moment) :
    (next^[n] t).unixSeconds = t.unixSeconds + n := by
  induction n with
  | zero => simp
  | succ n ih =>
    rw [Function.iterate_succ_apply', unixSeconds_next, ih]
    omega

/-- The one moment is earlier than the other, by date, then hour, then minute, then second. -/
def Before (s t : Moment) : Prop :=
  s.date.Before t.date ∨ s.date = t.date ∧ (s.hour < t.hour ∨ s.hour = t.hour ∧
    (s.minute < t.minute ∨ s.minute = t.minute ∧ s.second < t.second))

theorem Before.year_le {s t : Moment} (h : s.Before t) : s.date.year ≤ t.date.year := by
  rcases h with hdate | ⟨hdate, -⟩
  · rw [Date.Before] at hdate
    omega
  · rw [hdate]

theorem before_trichotomy (s t : Moment) : s.Before t ∨ s = t ∨ t.Before s := by
  rcases Date.before_trichotomy s.date t.date with hdate | hdate | hdate
  · exact .inl (.inl hdate)
  · obtain ⟨date, hour, minute, second, _, _, _⟩ := s
    obtain ⟨date', hour', minute', second', _, _, _⟩ := t
    obtain rfl : date = date' := hdate
    simp only [Before, mk.injEq, true_and]
    omega
  · exact .inr (.inr (.inl hdate))

/-- Of two moments the earlier one has the smaller number. -/
theorem unixSeconds_lt_iff {s t : Moment} : s.unixSeconds < t.unixSeconds ↔ s.Before t := by
  have hhours := And.intro s.hour_lt t.hour_lt
  have hminutes := And.intro s.minute_lt t.minute_lt
  have hseconds := And.intro s.second_lt t.second_lt
  rw [Before, ← Date.dayNumber_lt_iff, ← Date.dayNumber_injective.eq_iff]
  simp only [unixSeconds]
  omega

theorem unixSeconds_injective : Function.Injective unixSeconds := by
  intro s t h
  rcases before_trichotomy s t with hb | rfl | hb
  · exact absurd h (unixSeconds_lt_iff.2 hb).ne
  · rfl
  · exact absurd h (unixSeconds_lt_iff.2 hb).ne'

/-- It takes `n` seconds to get from `s` to `t`, one after the other, or, where `n` is negative, so
many without the sign to get from `t` to `s`. -/
def Elapsed (s t : Moment) (n : Int) : Prop := next^[n.toNat] s = next^[(-n).toNat] t

/-- The number of seconds between two moments is the difference of their own numbers. -/
theorem elapsed_iff {s t : Moment} {n : Int} :
    Elapsed s t n ↔ t.unixSeconds - s.unixSeconds = n := by
  rw [Elapsed, ← unixSeconds_injective.eq_iff, unixSeconds_iterate_next, unixSeconds_iterate_next]
  omega

/-- The beginning of 1970. -/
def unixEpoch : Moment :=
  ⟨⟨1970, 1, 1, by decide, by decide⟩, 0, 0, 0, by decide, by decide, by decide⟩

theorem unixSeconds_unixEpoch : unixEpoch.unixSeconds = 0 := by decide

theorem elapsed_unixEpoch_iff {t : Moment} {n : Int} :
    Elapsed unixEpoch t n ↔ t.unixSeconds = n := by
  rw [elapsed_iff, unixSeconds_unixEpoch, Int.sub_zero]

end Moment
end ThemeSwitch.Calendar
