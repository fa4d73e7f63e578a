import ThemeSwitch.Proofs.CookieJarText
import ThemeSwitch.Controller.Run

/-! # Directives update the map that a jar is

Of several attributes for a lifetime, the last one that can be read counts, and one for seconds
outweighs one for a moment. A directive that spells a pair sets or removes the value of its name;
any other directive leaves the text as it is and gives one warning. -/
namespace ThemeSwitch.Cookie
open Text Calendar Log Controller

/-- The value of the attribute, where it has the key; letter case and blanks do not matter. -/
def attributeValue? (key : String) (part : List Char) : Option (List Char) :=
  match cut '=' part with
  | some (k, v) => if String.ofList ((trim k).map Char.toLower) = key then some (trim v) else none
  | none => none

/-- The seconds of the last `Max-Age` that can be read. -/
def lastAge? (parts : List (List Char)) : Option Nat :=
  parts.reverse.findSome? fun part => (attributeValue? "max-age" part).bind ageOf?

/-- The moment of the last `Expires` that can be read. -/
def lastExpiry? (parts : List (List Char)) : Option Moment :=
  parts.reverse.findSome? fun part => (attributeValue? "expires" part).bind parseMoment?

/-- The directive gives no time to its cookie: no seconds, or for want of such a number a moment
that is over. -/
def Expired (directive : String) (now : Int) : Prop :=
  let parts := (directive.toList.splitOn ';').tail
  lastAge? parts = some 0 ∨
    lastAge? parts = none ∧ ∃ t ∈ lastExpiry? parts, t.unixSeconds ≤ now

instance (directive : String) (now : Int) : Decidable (Expired directive now) :=
  inferInstanceAs (Decidable (_ ∨ _ ∧ _))

namespace Lifetime

private theorem add_eq (life : Lifetime) (part : List Char) :
    life.add part =
      ⟨((attributeValue? "max-age" part).bind ageOf?).or life.maxAge,
        ((attributeValue? "expires" part).bind parseMoment?).or life.expires⟩ := by
  rw [add, attributeValue?, attributeValue?]
  cases cut '=' part with
  | none => rfl
  | some kv =>
    obtain ⟨k, v⟩ := kv
    dsimp only
    split
    · next h => simp [h]
    · next h => simp [h]
    · next hAge hExpiry =>
      rw [if_neg hAge, if_neg hExpiry]
      rfl

private theorem foldl_add (parts : List (List Char)) (life : Lifetime) :
    parts.foldl add life =
      ⟨(lastAge? parts).or life.maxAge, (lastExpiry? parts).or life.expires⟩ := by
  induction parts generalizing life with
  | nil => rfl
  | cons part parts ih =>
    rw [List.foldl_cons, ih, add_eq]
    simp [lastAge?, lastExpiry?, List.findSome?_append, Option.or_assoc]

theorem ofAttributes_eq (parts : List (List Char)) :
    ofAttributes parts = ⟨lastAge? parts, lastExpiry? parts⟩ := by
  rw [ofAttributes, foldl_add, Option.or_none, Option.or_none]

end Lifetime

/-- The head of a directive has no `=`, or nothing but blanks in front of the first one. -/
def Pairless (head : List Char) : Prop := '=' ∉ head ∨ trim (before '=' head) = []

instance (head : List Char) : Decidable (Pairless head) := inferInstanceAs (Decidable (_ ∨ _))

theorem before_append_cons {sep : Char} {l : List Char} (h : sep ∉ l) (r : List Char) :
    before sep (l ++ sep :: r) = l := by
  rw [before, List.takeWhile_append_of_pos]
  · simp
  · intro c hc
    rw [bne_iff_ne]
    rintro rfl
    exact h hc

theorem Spells.not_pairless {head : List Char} {name value : String} (h : Spells head name value) :
    ¬ Pairless head := by
  obtain ⟨hn, l, r, rfl, hl, hln, -⟩ := h
  rintro (hm | hb)
  · simp at hm
  · rw [before_append_cons hl, hln] at hb
    exact hn (String.toList_eq_nil_iff.1 hb)

theorem exists_spells {head : List Char} (h : ¬ Pairless head) :
    ∃ name value, Spells head name value := by
  obtain ⟨hm, hb⟩ := not_or.1 h
  cases hc : cut '=' head with
  | none => exact absurd (cut_eq_none_iff.1 hc) hm
  | some lr =>
    obtain ⟨e, hl⟩ := cut_eq_some_iff.1 hc
    rw [e, before_append_cons hl] at hb
    refine ⟨String.ofList (trim lr.1), String.ofList (trim lr.2), ?_, lr.1, lr.2, e, hl, ?_⟩
    · simpa [String.ext_iff] using hb
    · simp

namespace Directive

theorem parse_of_spells {text name value : String}
    (h : Spells (before ';' text.toList) name value) :
    ∃ d, parse text = .ok d ∧ d.pair.name = name ∧ d.pair.value = value ∧
      ∀ now, d.lifetime.isOver now = true ↔ Expired text now := by
  obtain ⟨p, hp, hn, hv⟩ := Pair.exists_parse_eq_ok h
  refine ⟨⟨p, .ofAttributes (text.toList.splitOn ';').tail⟩, ?_, hn, hv, ?_⟩
  · rw [parse, hp]
    rfl
  · intro now
    rw [Lifetime.ofAttributes_eq, Expired]
    cases lastAge? (text.toList.splitOn ';').tail with
    | some age => simp [Lifetime.isOver]
    | none => cases lastExpiry? (text.toList.splitOn ';').tail <;> simp [Lifetime.isOver]

theorem parse_of_pairless {text : String} (h : Pairless (before ';' text.toList)) :
    ∃ reason, parse text = .error reason := by
  cases hp : Pair.parse text.toList with
  | ok p => exact absurd h (Pair.spells_of_parse hp).not_pairless
  | error reason =>
    refine ⟨reason, ?_⟩
    rw [parse, hp]
    rfl

end Directive

namespace Jar

theorem set_of_pairless {directive : String} (h : Pairless (before ';' directive.toList))
    (jar : Jar) (now : Int) : ∃ reason, jar.set now directive = (jar, some reason) := by
  obtain ⟨reason, hp⟩ := Directive.parse_of_pairless h
  exact ⟨reason, by rw [set, hp]⟩

/-- A directive that spells a pair puts it into the jar, or removes its name. -/
theorem set_of_pair {directive : String} {p : Pair}
    (h : Spells (before ';' directive.toList) p.name p.value) (jar : Jar) (now : Int) :
    jar.set now directive =
      (if Expired directive now then jar.erase p.name else jar.insert p, none) := by
  obtain ⟨d, hp, hn, hv, ho⟩ := Directive.parse_of_spells h
  obtain rfl : d.pair = p := Pair.eq_of_name_value hn hv
  simp only [set, hp, obey, ho]

/-- A directive that spells a pair decides about its name and leaves all others alone. -/
theorem set_of_spells {directive name value : String}
    (h : Spells (before ';' directive.toList) name value) (jar : Jar) (now : Int) :
    ∃ next, jar.set now directive = (next, none) ∧ ∀ other, next.get? other =
      if other = name then if Expired directive now then none else some value
      else jar.get? other := by
  obtain ⟨d, hp, rfl, rfl, ho⟩ := Directive.parse_of_spells h
  refine ⟨jar.obey now d, by rw [set, hp], fun other => ?_⟩
  simp only [get?_obey, ho, eq_comm]

end Jar

theorem perform_putCookie (config : Config) (d : Document) (now : Int) (directive : String) :
    (Step.putCookie directive).perform config now d =
      ⟨.ok .nothing, { d with jar := (d.jar.set now directive).1 }, [],
        ((d.jar.set now directive).2.map (.directiveIgnored directive)).toList⟩ := rfl

/-- The text of a jar, read by name, is a map that a directive changes at one name: at the name of
the pair that its head spells, where it has one. In the text every name that the jar knows stands
exactly once, in ascending order. -/
theorem Jar.text_after_directive (config : Config) (d : Document) (now : Int)
    (directive : String) :
    let raw := d.jar.text
    let after := (Step.putCookie directive).perform config now d
    let head := before ';' directive.toList
    (if Pairless head then
      after.document.jar.text = raw ∧ ∃ event, after.events = [event] ∧ event.level = .warn
    else
      ∃ name value, Spells head name value ∧ after.events = [] ∧
        ∀ other, value? after.document.jar.text other =
          if other = name then if Expired directive now then none else some value
          else value? raw other) ∧
    raw = "; ".intercalate ((Pair.list raw).map Pair.text) ∧
    ((Pair.list raw).map Pair.name).Pairwise (· < ·) ∧
    (∀ name, ((Pair.list raw).map Pair.name).count name =
      if (d.jar.get? name).isSome then 1 else 0) ∧
    (d.jar.isEmpty = true ↔ raw = "") := by
  intro raw after head
  refine ⟨?_, ?_, ?_, ?_, d.jar.text_eq_empty_iff.symm⟩
  · split
    · next h =>
      obtain ⟨reason, hs⟩ := set_of_pairless h d.jar now
      simp only [after, perform_putCookie, hs]
      exact ⟨rfl, _, rfl, rfl⟩
    · next h =>
      obtain ⟨name, value, hv⟩ := exists_spells h
      obtain ⟨next, hs, hn⟩ := set_of_spells hv d.jar now
      simp only [after, perform_putCookie, hs]
      exact ⟨name, value, hv, rfl, fun other => by simp only [raw, value?_text, hn]⟩
  · rw [list_text]
    rfl
  · rw [list_text]
    exact List.pairwise_map.2 d.jar.ascending
  · intro name
    rw [list_text, count_names]

end ThemeSwitch.Cookie
