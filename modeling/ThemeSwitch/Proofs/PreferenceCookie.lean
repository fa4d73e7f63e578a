import ThemeSwitch.Proofs.CookieJarUpdates

/-! # The preference is read back as it was written

A name that a valid configuration gives to its cookie can be written and read back. The directive
for such a name sets or removes the value of this name alone, whatever else is in the jar, and the
preference that is read from the jar's text afterwards is the one that was written. -/
namespace ThemeSwitch
open Text Cookie

namespace Config

/-- What a cookie name may hold besides letters and digits. -/
def nameSigns : List Char :=
  ['!', '#', '$', '%', '&', '\'', '*', '+', '-', '.', '^', '_', '`', '|', '~']

theorem isNameChar_iff {c : Char} :
    isNameChar c = true ↔ c.isAlphanum = true ∨ c ∈ nameSigns := by
  simp [isNameChar, nameSigns]

theorem isBlank_of_isNameChar {c : Char} (h : isNameChar c = true) : isBlank c = false := by
  rcases isNameChar_iff.1 h with h | h
  · exact isBlank_of_isAlphanum h
  · have hall : nameSigns.all (!isBlank ·) = true := by decide
    simpa using List.all_eq_true.1 hall c h

theorem carriable_of_isNameChar {name : String} (hne : name ≠ "")
    (h : ∀ c ∈ name.toList, isNameChar c = true) : Carriable name := by
  refine ⟨hne, trimmed_iff.2 ⟨?_, ?_⟩, ?_, ?_⟩
  · intro c hc
    exact isBlank_of_isNameChar (h c (List.mem_of_head? hc))
  · intro c hc
    exact isBlank_of_isNameChar (h c (List.mem_of_getLast? hc))
  · intro hm
    have hs := isNameChar_iff.1 (h ';' hm)
    revert hs
    decide
  · intro hm
    have hs := isNameChar_iff.1 (h '=' hm)
    revert hs
    decide

theorem valid_iff {config : Config} :
    config.Valid ↔ (config.cookieName ≠ "" ∧ ∀ c ∈ config.cookieName.toList, isNameChar c = true) ∧
      IsToken config.darkClass := by
  have hany : (∀ c ∈ config.darkClass.toList, isBlank c = false) ↔
      config.darkClass.toList.any isBlank = false := by simp
  rw [Valid, defect?, IsToken, ← List.all_eq_true, hany]
  by_cases hn : config.cookieName = ""
  · simp [hn]
  · cases hc : config.cookieName.toList.all isNameChar with
    | false => simp [hn]
    | true =>
      by_cases hd : config.darkClass = ""
      · simp [hn, hd]
      · cases config.darkClass.toList.any isBlank <;> simp [hn, hd]

theorem Valid.carriable {config : Config} (h : config.Valid) : Carriable config.cookieName :=
  carriable_of_isNameChar (valid_iff.1 h).1.1 (valid_iff.1 h).1.2

theorem Valid.isToken {config : Config} (h : config.Valid) : IsToken config.darkClass :=
  (valid_iff.1 h).2

end Config

namespace Preference

private theorem toList_directive_true (name : String) :
    (directive name true).toList = name.toList ++ '=' :: "true".toList := by
  simp [directive, sessionDirective]

private theorem toList_directive_false (name : String) :
    (directive name false).toList =
      (name.toList ++ ['=']) ++ ';' :: " Expires=Thu, 01 Jan 1970 00:00:00 GMT".toList := by
  simp [directive, expiredDirective]

/-- The value that stands for a preference: none is left where the preference is off. -/
def writtenValue (dark : Bool) : String := if dark then "true" else ""

theorem spells_directive {name : String} (hn : Carriable name) (dark : Bool) :
    Spells (before ';' (directive name dark).toList) name (writtenValue dark) := by
  obtain ⟨hne, ht, hs, he⟩ := hn
  cases dark with
  | false =>
    rw [toList_directive_false, before_append_cons (by simp [hs])]
    exact ⟨hne, name.toList, [], rfl, he, ht, rfl⟩
  | true =>
    rw [toList_directive_true, before_eq_self (by simp [hs])]
    exact ⟨hne, name.toList, "true".toList, rfl, he, ht, rfl⟩

/-- Only the removal of a cookie is over, and that from the first second of 1970 on. -/
theorem expired_directive_iff {name : String} (hn : Carriable name) (dark : Bool) (now : Int) :
    Expired (directive name dark) now ↔ dark = false ∧ 0 ≤ now := by
  cases dark with
  | false =>
    have hage : lastAge? [" Expires=Thu, 01 Jan 1970 00:00:00 GMT".toList] = none := by decide
    have hmoment : (lastExpiry? [" Expires=Thu, 01 Jan 1970 00:00:00 GMT".toList]).map
        Calendar.Moment.unixSeconds = some 0 := by decide
    obtain ⟨t, ht, h0⟩ := Option.map_eq_some_iff.1 hmoment
    rw [Expired, toList_directive_false,
      List.splitOn_append_cons_self_of_not_mem (by simp [hn.2.2.1]) _,
      List.splitOn_eq_singleton (by decide), List.tail_cons, hage, ht]
    simp [h0]
  | true =>
    rw [Expired, toList_directive_true, List.splitOn_eq_singleton (by simp [hn.2.2.1])]
    simp [lastAge?, lastExpiry?]

/-- The pair that is written for a preference. -/
def pair {name : String} (hn : Carriable name) (dark : Bool) : Pair where
  name := name
  value := writtenValue dark
  carriable := hn
  holdable := by cases dark <;> decide

/-- To write a preference is to remove the cookie or to put in the pair for it. -/
theorem set_directive_eq {name : String} (hn : Carriable name) (jar : Jar) (now : Int)
    (dark : Bool) :
    jar.set now (directive name dark) =
      (if dark = false ∧ 0 ≤ now then jar.erase name else jar.insert (pair hn dark), none) := by
  have hs : Spells (before ';' (directive name dark).toList) (pair hn dark).name
      (pair hn dark).value := spells_directive hn dark
  simp only [jar.set_of_pair hs, expired_directive_iff hn]
  rfl

/-- What a jar's text says about the preference is what the jar keeps for the name. -/
theorem ofCookies_text (jar : Jar) (name : String) :
    ofCookies jar.text name = (jar.get? name).any fun value => value != "" && value != "false" := by
  rw [ofCookies, jar.value?_text]
  cases jar.get? name <;> rfl

/-- A preference that is written for a carriable name is read back from the jar's text. -/
theorem set_directive {name : String} (hn : Carriable name) (jar : Jar) (now : Int) (dark : Bool) :
    ∃ next, jar.set now (directive name dark) = (next, none) ∧ ofCookies next.text name = dark := by
  obtain ⟨next, hs, hget⟩ := jar.set_of_spells (spells_directive hn dark) now
  refine ⟨next, hs, ?_⟩
  rw [ofCookies_text, hget, if_pos rfl]
  cases dark with
  | false => split <;> rfl
  | true =>
    have he : ¬ Expired (directive name true) now := by simp [expired_directive_iff hn]
    rw [if_neg he]
    rfl

end Preference
end ThemeSwitch
