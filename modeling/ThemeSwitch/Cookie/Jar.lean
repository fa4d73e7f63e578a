import ThemeSwitch.Cookie.Directive

/-! # Cookie jars

A jar keeps one pair for a name, in the order of the names. It is written as the pairs with `; `
between them, and read back from such a text, where the last of several pairs for a name stays. -/
namespace ThemeSwitch.Cookie

/-- The pairs in ascending order of their names; names compare by their code points. -/
structure Jar where
  pairs : List Pair
  ascending : pairs.Pairwise fun p q => p.name < q.name
deriving DecidableEq

namespace Jar

def empty : Jar := ⟨[], .nil⟩

/-- Puts the pair at its place, instead of the pair of that name if there is one. -/
def place (p : Pair) : List Pair → List Pair
  | [] => [p]
  | q :: qs =>
    if p.name < q.name then p :: q :: qs
    else if q.name < p.name then q :: place p qs
    else p :: qs

theorem mem_place {p x : Pair} {qs : List Pair} (h : x ∈ place p qs) : x = p ∨ x ∈ qs := by
  induction qs with
  | nil => exact .inl (List.mem_singleton.1 h)
  | cons q qs ih =>
    rw [place] at h
    split at h
    · next lt => exact List.mem_cons.1 h
    · split at h
      · next nlt lt =>
        rcases List.mem_cons.1 h with rfl | hx
        · exact .inr List.mem_cons_self
        · exact (ih hx).imp_right (List.mem_cons_of_mem q)
      · next nlt ngt => exact (List.mem_cons.1 h).imp_right (List.mem_cons_of_mem q)

theorem pairwise_place (p : Pair) {qs : List Pair}
    (h : qs.Pairwise fun p q => p.name < q.name) :
    (place p qs).Pairwise fun p q => p.name < q.name := by
  induction qs with
  | nil => simp [place]
  | cons q qs ih =>
    obtain ⟨hq, hqs⟩ := List.pairwise_cons.1 h
    rw [place]
    split
    · next lt =>
      exact List.pairwise_cons.2 ⟨fun x hx => by
        rcases List.mem_cons.1 hx with rfl | hx
        · exact lt
        · exact String.lt_trans lt (hq x hx), h⟩
    · split
      · next lt =>
        exact List.pairwise_cons.2 ⟨fun x hx => by
          rcases mem_place hx with rfl | hx
          · exact lt
          · exact hq x hx, ih hqs⟩
      · next nlt ngt =>
        have e : p.name = q.name := String.le_antisymm (String.not_lt.1 ngt) (String.not_lt.1 nlt)
        exact List.pairwise_cons.2 ⟨fun x hx => e ▸ hq x hx, hqs⟩

/-- Adds the pair, or replaces the pair of its name. -/
def insert (jar : Jar) (p : Pair) : Jar := ⟨place p jar.pairs, pairwise_place p jar.ascending⟩

def erase (jar : Jar) (name : String) : Jar :=
  ⟨jar.pairs.filter (·.name != name), jar.ascending.filter _⟩

/-- The value kept for a name. -/
def get? (jar : Jar) (name : String) : Option String :=
  (jar.pairs.find? (·.name == name)).map (·.value)

def isEmpty (jar : Jar) : Bool := jar.pairs.isEmpty

/-- The jar that a cookie text describes; a repeated name keeps its last value. -/
def ofString (raw : String) : Jar := (Pair.list raw).foldl insert empty

/-- The cookie text: the pairs in order, with `; ` between them. -/
def text (jar : Jar) : String := "; ".intercalate (jar.pairs.map Pair.text)

/-- The jar after a directive has been carried out at the given second: the pair is kept while its
lifetime lasts, and otherwise its name goes. -/
def obey (jar : Jar) (now : Int) (d : Directive) : Jar :=
  if d.lifetime.isOver now then jar.erase d.pair.name else jar.insert d.pair

/-- The jar after the text of a directive has been carried out, with the reason if the text is
malformed; then the jar stays as it is. -/
def set (jar : Jar) (now : Int) (directive : String) : Jar × Option Malformed :=
  match Directive.parse directive with
  | .ok d => (jar.obey now d, none)
  | .error reason => (jar, some reason)

end Jar
end ThemeSwitch.Cookie
