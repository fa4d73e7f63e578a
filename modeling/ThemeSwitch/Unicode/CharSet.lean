/-! # Sets of characters

A set is kept as its cuts, the code points in ascending order at which membership changes for one
who goes through all code points from zero upwards. Every combination of two sets is one merge of
their cuts, and sets with the same characters have the same cuts. -/
namespace ThemeSwitch.Unicode

/-- First and last code point. -/
abbrev Span := Nat × Nat

structure CharSet where
  cuts : List Nat
deriving DecidableEq

namespace CharSet

/-- Whether a code point is inside, where those before the first cut are `inside`. -/
def isInside (inside : Bool) (code : Nat) : List Nat → Bool
  | [] => inside
  | cut :: cuts => if code < cut then inside else isInside (!inside) code cuts

def hasCode (s : CharSet) (code : Nat) : Bool := isInside false code s.cuts

def contains (s : CharSet) (c : Char) : Bool := s.hasCode c.toNat

/-- The cut is one of the combination if it changes what the combination says. -/
def keepCut (cut : Nat) (before after : Bool) (cuts : List Nat) : List Nat :=
  if before = after then cuts else cut :: cuts

/-- The cuts of a combination; `a` and `b` tell whether one is inside of either set. -/
def combineCuts (op : Bool → Bool → Bool) (a b : Bool) : List Nat → List Nat → List Nat
  | [], [] => []
  | s :: ss, [] => keepCut s (op a b) (op (!a) b) (combineCuts op (!a) b ss [])
  | [], t :: ts => keepCut t (op a b) (op a (!b)) (combineCuts op a (!b) [] ts)
  | s :: ss, t :: ts =>
    if s < t then keepCut s (op a b) (op (!a) b) (combineCuts op (!a) b ss (t :: ts))
    else if t < s then keepCut t (op a b) (op a (!b)) (combineCuts op a (!b) (s :: ss) ts)
    else keepCut s (op a b) (op (!a) (!b)) (combineCuts op (!a) (!b) ss ts)

/-- The characters of which `op` holds for being in the one set and being in the other. -/
def combine (op : Bool → Bool → Bool) (s t : CharSet) : CharSet :=
  ⟨combineCuts op false false s.cuts t.cuts⟩

def union (s t : CharSet) : CharSet := combine (· || ·) s t

def inter (s t : CharSet) : CharSet := combine (· && ·) s t

def diff (s t : CharSet) : CharSet := combine (fun a b => a && !b) s t

/-- The characters in exactly one of the sets. -/
def symmDiff (s t : CharSet) : CharSet := combine (· != ·) s t

def none : CharSet := ⟨[]⟩

/-- All characters: the code points that are no surrogates. -/
def all : CharSet := ⟨[0, 0xD800, 0xE000, 0x110000]⟩

def compl (s : CharSet) : CharSet := diff all s

/-- The characters of spans, which ascend and do not touch. -/
def ofSpans (spans : List Span) : CharSet :=
  inter ⟨spans.flatMap fun (first, last) => [first, last + 1]⟩ all

def range (first last : Char) : CharSet := ofSpans [(first.toNat, last.toNat)]

def single (c : Char) : CharSet := range c c

def ascii : CharSet := ofSpans [(0, 0x7F)]

def unions (sets : List CharSet) : CharSet := sets.foldl union none

/-- The cuts of a set of code points in ascending order. -/
def cutsOf : List Nat → List Nat
  | [] => []
  | code :: codes =>
    match cutsOf codes with
    | start :: cuts =>
      if start = code then start :: cuts
      else if start = code + 1 then code :: cuts
      else code :: (code + 1) :: start :: cuts
    | [] => [code, code + 1]

/-- The characters of code points, in any order. -/
def ofCodes (codes : List Nat) : CharSet := inter ⟨cutsOf codes.mergeSort⟩ all

/-- The spans between the cuts. -/
def spansOf : List Nat → List Span
  | first :: next :: cuts => (first, next - 1) :: spansOf cuts
  | _ => []

def spans (s : CharSet) : List Span := spansOf s.cuts

/-- How many code points there are from the first to the last one of each span, where spans that
only surrogates keep apart are one. -/
def width (s : CharSet) : Nat :=
  let gap := if 0xD800 ∈ s.cuts ∧ 0xE000 ∈ s.cuts then 0x800 else 0
  s.spans.foldl (fun n (first, last) => n + (last + 1 - first)) gap

/-- The only character of the set. -/
def only? (s : CharSet) : Option Char :=
  match s.spans with
  | [(first, last)] => if first = last then some (Char.ofNat first) else Option.none
  | _ => Option.none

end CharSet
end ThemeSwitch.Unicode
