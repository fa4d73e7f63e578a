import ThemeSwitch.Pattern.Basic

/-! # Finding patterns in texts

The places of a text are numbered from its end, and a set of places is a number whose bits tell
which of them it holds. A pattern leads from places to places that are not before them. What it
does in one text is a walk. A repetition without bound inside another one would be followed from
every place again and again; its walk has a table instead, which knows for every place where the
repetition leads from there. -/
namespace ThemeSwitch.Pattern

/-- A set of places of a text. -/
abbrev Places := Nat

/-- Puts answers behind the places, where `n` answers in `bits` have not been put there yet. They
are put there many at a time, as it takes long to change a large number. -/
def putPlaces (ps : Places) (n bits : Nat) : List Bool → Places
  | [] => ps <<< n ||| bits
  | b :: bs =>
    if n < 60 then putPlaces ps (n + 1) (2 * bits + b.toNat) bs
    else putPlaces (ps <<< n ||| bits) 1 b.toNat bs

/-- The places for which the answers are true; the answers go from the first place to the last. -/
def placesOf (answers : List Bool) : Places := putPlaces 0 0 0 answers

/-- The places of one set without those of another. -/
def without (ps qs : Places) : Places := ps ^^^ (ps &&& qs)

/-- Ways through one text. -/
inductive Walk
  /-- Stays where it is, at these places. -/
  | stay (places : Thunk Places)
  /-- Goes over the character after the place, at these places. -/
  | step (places : Thunk Places)
  | both (first second : Walk)
  | either (left right : Walk)
  | times (n : Nat) (body : Walk)
  | upTo (n : Nat) (body : Walk)
  /-- Goes from each place to those of its row. A row holds its own place, and the rows of all
  places that it holds. -/
  | table (rows : Thunk (Array Places))

namespace Walk

/-- Goes on `n` times, or until nothing changes any more. -/
def again (go : Places → Places) : Nat → Places → Places
  | 0, ps => ps
  | n + 1, ps =>
    let qs := go ps
    if qs = ps then ps else again go n qs

/-- The places of the rows of some places; there are fewer than `n` rows. A place in the row of an
earlier one adds nothing. -/
def gather (rows : Array Places) : Nat → Places → Places
  | 0, _ => 0
  | n + 1, ps =>
    if ps = 0 then 0
    else
      let row := rows.getD ps.log2 0
      row ||| gather rows n (without ps row)

/-- The places that are reached from the given ones. -/
def run : Walk → Places → Places
  | stay places, ps => if ps = 0 then 0 else ps &&& places.get
  | step places, ps => if ps = 0 then 0 else (ps &&& places.get) >>> 1
  | both v w, ps => w.run (v.run ps)
  | either v w, ps => v.run ps ||| w.run ps
  | times n w, ps => again w.run n ps
  | upTo n w, ps => again (fun qs => qs ||| w.run qs) n ps
  | table rows, ps => if ps = 0 then 0 else gather rows.get (rows.get.size + 1) ps

/-- The rows for any number of goes through a text with `n` places, from the last place on. -/
def rowsOf (n : Nat) (w : Walk) : Array Places :=
  (List.range n).foldl (fun rows i =>
    let here := 1 <<< i
    rows.push (here ||| gather rows (rows.size + 1) (without (w.run here) here))) #[]

end Walk

/-- All places of a text. -/
def allPlaces (text : List Char) : Places := placesOf (List.replicate (text.length + 1) true)

/-- A text, and the places before each of the characters that it has. -/
structure Ground where
  text : List Char
  before : List (Char × Thunk Places)

def Ground.ofText (text : List Char) : Ground where
  text := text
  before := text.eraseDups.map fun c =>
    (c, Thunk.mk fun _ => placesOf (text.map (· == c) ++ [false]))

/-- Goes over one character of a kind. -/
def Ground.stepOver (ground : Ground) (kind : Char → Bool) : Walk :=
  .step <| Thunk.mk fun _ =>
    ground.before.foldl (fun ps (c, qs) => if kind c then ps ||| qs.get else ps) 0

/-- Stays where a condition holds. -/
def Ground.stayWhere (ground : Ground) (condition : Look) : Walk :=
  .stay <| Thunk.mk fun _ =>
    let chars := ground.text.map some
    placesOf (List.zipWith condition.holds (none :: chars) (chars ++ [none]))

/-- Stays anywhere. -/
def Ground.stayAnywhere (ground : Ground) : Walk := .stay (Thunk.mk fun _ => allPlaces ground.text)

/-- What a pattern does in a text, where the pattern stands inside of a repetition or not. -/
def walk (ground : Ground) (inside : Bool) : Pattern → Walk
  | empty => ground.stayAnywhere
  | literal cs => (cs.map fun c => ground.stepOver (· == c)).foldr .both ground.stayAnywhere
  | oneOf set _ => ground.stepOver set.contains
  | look condition => ground.stayWhere condition
  | both p q => .both (walk ground inside p) (walk ground inside q)
  | either p q => .either (walk ground inside p) (walk ground inside q)
  | many p least most _ =>
    let body := walk ground true p
    .both (.times least body) <|
      match most with
      | some most => .upTo (most - least) body
      | none =>
        if inside then .table (Thunk.mk fun _ => body.rowsOf (ground.text.length + 1))
        else .upTo ground.text.length body
  | group _ p => walk ground inside p

/-- The pattern is found somewhere in the text. -/
def isFoundIn (p : Pattern) (text : List Char) : Bool :=
  (walk (Ground.ofText text) false p).run (allPlaces text) != 0

end ThemeSwitch.Pattern
