import ThemeSwitch.Proofs.ControllerOutcomes

/-! # The names that can carry a preference

A preference is written as a directive that begins with the name, and found again by the name alone.
Under a name that a cookie cannot have, the directive is malformed or speaks of another cookie, and
nothing is ever found. Under every other name what was written is found. -/
namespace ThemeSwitch
open Text Cookie

namespace Preference

theorem ofCookies_of_not_carriable {name : String} (h : ¬ Carriable name) (raw : String) :
    ofCookies raw name = false := by
  rw [ofCookies, value?_of_not_carriable h]

/-- What is read after a preference was written. -/
def reread (now : Int) (name : String) (dark : Bool) : Action Bool := do
  write now name dark
  read name

theorem reread_of_works {d : Document} (h : ∀ kind, d.fault kind = none) (now : Int)
    (name : String) (dark : Bool) :
    (reread now name dark d).result =
      .ok (ofCookies (d.written now (directive name dark)).jar.text name) := by
  rw [reread, Action.bind_of_ok (write_of_works (h _) ..),
    read_of_works (Document.works_written h now _ _)]

theorem reread_of_carriable {name : String} (hn : Carriable name) (jar : Jar) (now : Int)
    (dark : Bool) : (reread now name dark { jar }).result = .ok dark := by
  obtain ⟨next, hs, hr⟩ := set_directive hn jar now dark
  rw [reread_of_works fun _ => rfl, Document.written, if_neg Bool.false_ne_true, hs, hr]

theorem reread_of_not_carriable {name : String} (hn : ¬ Carriable name) (jar : Jar) (now : Int)
    (dark : Bool) : (reread now name dark { jar }).result = .ok false := by
  rw [reread_of_works fun _ => rfl, ofCookies_of_not_carriable hn]

/-- After a preference for the dark theme was written it is read just if the name can carry one: if
the name is not empty, has no blank at either end, and holds neither a semicolon nor an equals sign.
Under other names no jar ever has a preference, whatever was written to it. After one for the light
theme was written it is not read under any name. The cookie names of valid configurations can carry
a preference. -/
theorem reads_back_iff_carriable (name : String) (jar : Jar) (now : Int) :
    (Carriable name ↔ name ≠ "" ∧ (∀ c ∈ name.toList.head?, isBlank c = false) ∧
      (∀ c ∈ name.toList.getLast?, isBlank c = false) ∧
      ';' ∉ name.toList ∧ '=' ∉ name.toList) ∧
    (reread now name true { jar }).result = .ok (decide (Carriable name)) ∧
    (¬ Carriable name → (read name { jar }).result = .ok false) ∧
    (reread now name false { jar }).result = .ok false ∧
    ∀ config : Config, config.Valid → Carriable config.cookieName := by
  refine ⟨carriable_iff, ?_, fun hn => ?_, ?_, fun config hv => hv.carriable⟩
  · by_cases hn : Carriable name
    · rw [reread_of_carriable hn, decide_eq_true hn]
    · rw [reread_of_not_carriable hn, decide_eq_false hn]
  · rw [read_of_works rfl, ofCookies_of_not_carriable hn]
  · by_cases hn : Carriable name
    · exact reread_of_carriable hn jar now false
    · exact reread_of_not_carriable hn jar now false

end Preference
end ThemeSwitch
