import ThemeSwitch.Proofs.CookieEviction
import ThemeSwitch.Proofs.CalendarForms

/-! # Cookies that expire at a written moment

A directive that gives a moment, in whichever form (`Jar.set_expiring`), removes its cookie when the
clock has come to that moment, not earlier by a second, and stores it before. Moments are compared
as the seconds that have to pass between them. -/
namespace ThemeSwitch.Cookie
open Text Calendar Calendar.Moment

/-- Keeps a value up to the given moment. -/
def datedDirective (name value : String) (t : Moment) : String :=
  sessionDirective name value ++ "; Expires=" ++ String.ofList t.stamp

/-- A removal is the directive for no value and the beginning of 1970. -/
theorem datedDirective_unixEpoch (name : String) :
    datedDirective name "" unixEpoch = expiredDirective name := by
  have hstamp : "; Expires=" ++ String.ofList unixEpoch.stamp =
      "; Expires=Thu, 01 Jan 1970 00:00:00 GMT" := by decide
  rw [datedDirective, sessionDirective, String.append_assoc, hstamp, expiredDirective]
  simp [String.append_assoc]

/-- Keeps a value up to the moment that the text gives. -/
def expiringDirective (name value : String) (text : List Char) : String :=
  sessionDirective name value ++ "; Expires=" ++ String.ofList text

/-- The attribute of such a directive. -/
def expiryPart (text : List Char) : List Char := (" Expires=" ++ String.ofList text).toList

theorem expiryPart_eq (text : List Char) : expiryPart text = " Expires".toList ++ '=' :: text := by
  simp [expiryPart]

theorem expiringDirective_eq_joined (name value : String) (text : List Char) :
    expiringDirective name value text =
      joined [name.toList ++ '=' :: value.toList, expiryPart text] := by
  refine String.toList_inj.1 ?_
  rw [expiryPart_eq]
  simp [expiringDirective, sessionDirective, joined]

variable {name value : String} {text : List Char} {t : Moment}

theorem gives_expiryPart (h : t.Written text) : Gives "expires" (expiryPart text) text :=
  ⟨" Expires".toList, text, expiryPart_eq text, by decide, by decide, h.trimmed⟩

theorem semicolon_not_mem_expiryPart (h : t.Written text) : ';' ∉ expiryPart text := by
  simp [expiryPart_eq, h.semicolon_not_mem]

theorem semicolon_not_mem_pairText (hn : Carriable name) (hv : Holdable value) :
    ';' ∉ name.toList ++ '=' :: value.toList := by
  simp [hn.2.2.1, hv.2]

theorem expired_expiring_iff (hn : Carriable name) (hv : Holdable value) (h : t.Written text)
    (now : Int) : Expired (expiringDirective name value text) now ↔ t.unixSeconds ≤ now := by
  have hgives := gives_expiryPart h
  have hparts : ∀ part ∈ [expiryPart text], ';' ∉ part :=
    List.forall_mem_singleton.2 (semicolon_not_mem_expiryPart h)
  have hage : lastAge? [expiryPart text] = none :=
    List.findSome?_eq_none_iff.2 (List.forall_mem_singleton.2 (age?_of_expires hgives))
  have hexpiry : lastExpiry? [expiryPart text] = some t :=
    lastExpiry?_eq_some_iff.2
      ⟨[], _, [], rfl, ⟨text, hgives, parseMoment?_of_written h⟩, by simp⟩
  rw [expiringDirective_eq_joined, expired_joined_iff (semicolon_not_mem_pairText hn hv) hparts,
    hage, hexpiry]
  simp

theorem spells_expiring (hn : Carriable name) (hv : Holdable value) (text : List Char) :
    Spells (before ';' (expiringDirective name value text).toList) name value := by
  rw [expiringDirective_eq_joined, before_joined (semicolon_not_mem_pairText hn hv)]
  exact ⟨hn.1, name.toList, value.toList, rfl, hn.2.2.2, hn.2.1, hv.1⟩

namespace Jar

/-- In whichever form a directive gives a moment, it changes the text of a jar at its own name only:
there it leaves the value, or nothing once the moment has come. -/
theorem set_expiring (jar : Jar) (hn : Carriable name) (hv : Holdable value) (h : t.Written text)
    (now : Int) :
    ∃ next, jar.set now (expiringDirective name value text) = (next, none) ∧
      ∀ other, value? next.text other =
        if other = name then if t.unixSeconds ≤ now then none else some value
        else value? jar.text other := by
  obtain ⟨next, hset, hget⟩ := jar.set_of_spells (spells_expiring hn hv text) now
  refine ⟨next, hset, fun other => ?_⟩
  simp only [value?_text, hget, expired_expiring_iff hn hv h]

theorem set_dated (jar : Jar) (hn : Carriable name) (hv : Holdable value) (h : 100 ≤ t.date.year)
    (h' : t.date.year ≤ 9999) (now : Int) :
    ∃ next, jar.set now (datedDirective name value t) = (next, none) ∧
      ∀ other, value? next.text other =
        if other = name then if t.unixSeconds ≤ now then none else some value
        else value? jar.text other :=
  jar.set_expiring hn hv (written_stamp h h') now

theorem removed_dated_iff (jar : Jar) (hn : Carriable name) (hv : Holdable value)
    (h : 100 ≤ t.date.year) (h' : t.date.year ≤ 9999) (now : Int) :
    value? (jar.set now (datedDirective name value t)).1.text name = none ↔
      t.unixSeconds ≤ now := by
  obtain ⟨next, hset, hvalue⟩ := jar.set_dated hn hv h h' now
  rw [hset, hvalue, if_pos rfl]
  simp

/-- A directive with a written moment removes its cookie from that moment on and stores it before:
what decides are the seconds that pass, one after the other through the calendar, from the beginning
of 1970 to the moment, or back to it with the number negative. All other cookies stay as they are.
With a moment every earlier one is over, and a removal is from 1970 on. -/
theorem expires_when_moment_comes (jar : Jar) (hn : Carriable name) (hv : Holdable value)
    (h : 1601 ≤ t.date.year) (h' : t.date.year ≤ 9999) :
    ∃ seconds : Int, (∀ n, Elapsed unixEpoch t n ↔ n = seconds) ∧
      (∀ now, let after := jar.set now (datedDirective name value t)
        after.2 = none ∧ (value? after.1.text name = none ↔ seconds ≤ now) ∧
        (now < seconds → value? after.1.text name = some value) ∧
        ∀ other ≠ name, value? after.1.text other = value? jar.text other) ∧
      (∀ earlier : Moment, 1601 ≤ earlier.date.year → earlier.Before t → ∀ now,
        value? (jar.set now (datedDirective name value t)).1.text name = none →
        value? (jar.set now (datedDirective name value earlier)).1.text name = none) ∧
      ∀ now, 0 ≤ now → value? (jar.set now (expiredDirective name)).1.text name = none := by
  have hyear : 100 ≤ t.date.year := by omega
  refine ⟨t.unixSeconds, fun n => ?_, fun now => ?_, fun earlier hfirst hbefore now hnone => ?_,
    fun now hnow => ?_⟩
  · rw [elapsed_unixEpoch_iff, eq_comm]
  · have hremoved := jar.removed_dated_iff hn hv hyear h' now
    obtain ⟨next, hset, hvalue⟩ := jar.set_dated hn hv hyear h' now
    rw [hset] at hremoved ⊢
    refine ⟨rfl, hremoved, fun hlt => ?_, fun other hne => ?_⟩
    · rw [hvalue, if_pos rfl, if_neg (not_le.2 hlt)]
    · rw [hvalue, if_neg hne]
  · rw [jar.removed_dated_iff hn hv hyear h'] at hnone
    rw [jar.removed_dated_iff hn hv (by omega) (hbefore.year_le.trans h')]
    exact (unixSeconds_lt_iff.2 hbefore).le.trans hnone
  · rw [← datedDirective_unixEpoch, jar.removed_dated_iff hn (by decide) (by decide) (by decide),
      unixSeconds_unixEpoch]
    exact hnow

/-- The last second of a leap day, in a full century that is a leap year, and the last second before
1970. -/
theorem expires_after_leap_day :
    let t : Moment :=
      ⟨⟨2000, 2, 29, by decide, by decide⟩, 23, 59, 59, by decide, by decide, by decide⟩
    let earlier : Moment :=
      ⟨⟨1969, 12, 31, by decide, by decide⟩, 23, 59, 59, by decide, by decide, by decide⟩
    let jar := ofString "dark=1; lang=en"
    Carriable "dark" ∧ Holdable "true" ∧ 1601 ≤ t.date.year ∧ t.date.year ≤ 9999 ∧
      earlier.Before t ∧
      datedDirective "dark" "true" t = "dark=true; Expires=Tue, 29 Feb 2000 23:59:59 GMT" ∧
      value? (jar.set 951868798 (datedDirective "dark" "true" t)).1.text "dark" = some "true" ∧
      value? (jar.set 951868799 (datedDirective "dark" "true" t)).1.text "dark" = none ∧
      value? (jar.set 951868799 (datedDirective "dark" "true" earlier)).1.text "dark" = none := by
  intro t earlier jar
  have hname : Carriable "dark" := by decide
  have hvalue : Holdable "true" := by decide
  have hbefore : earlier.Before t := .inl (.inl (by decide))
  obtain ⟨seconds, hunique, hset, hearlier, -⟩ :=
    jar.expires_when_moment_comes hname hvalue (t := t) (by decide) (by decide)
  have hseconds : 951868799 = seconds := (hunique _).1 (elapsed_unixEpoch_iff.2 (by decide))
  subst hseconds
  have hgone := (hset 951868799).2.1.2 (by decide)
  exact ⟨hname, hvalue, by decide, by decide, hbefore, by decide,
    (hset 951868798).2.2.1 (by decide), hgone, hearlier earlier (by decide) hbefore _ hgone⟩

end Jar
end ThemeSwitch.Cookie
