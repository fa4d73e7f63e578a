import ThemeSwitch.Unicode.CharSet

/-! # UTF-8 forms of sets of characters

The bytes that write the characters of a set are described by rows of byte spans: a row stands for
all rows of bytes that take one byte from each of its spans. -/
namespace ThemeSwitch.Unicode

/-- First and last byte. -/
abbrev ByteSpan := Nat × Nat

def utf8 (c : Char) : List Nat := (String.utf8EncodeChar c).map UInt8.toNat

/-- The row of all rows of `n` continuation bytes. -/
def anyBytes (n : Nat) : List ByteSpan := List.replicate n (0x80, 0xBF)

/-- The rows of continuation bytes from one of them on. -/
def rowsFrom : List Nat → List (List ByteSpan)
  | [] => [[]]
  | a :: as =>
    if as.all (· == 0x80) then [(a, 0xBF) :: anyBytes as.length]
    else (rowsFrom as).map ((a, a) :: ·) ++
      (if a < 0xBF then [(a + 1, 0xBF) :: anyBytes as.length] else [])

/-- The rows of continuation bytes up to one of them. -/
def rowsUpTo : List Nat → List (List ByteSpan)
  | [] => [[]]
  | b :: bs =>
    if bs.all (· == 0xBF) then [(0x80, b) :: anyBytes bs.length]
    else (if 0x80 < b then [(0x80, b - 1) :: anyBytes bs.length] else []) ++
      (rowsUpTo bs).map ((b, b) :: ·)

/-- The rows of bytes from one row up to another one of the same length. -/
def rowsBetween : List Nat → List Nat → List (List ByteSpan)
  | a :: as, b :: bs =>
    if a = b then (rowsBetween as bs).map ((a, a) :: ·)
    else
      let whole := as.all (· == 0x80)
      let complete := bs.all (· == 0xBF)
      let first := if whole then a else a + 1
      let last := if complete then b else b - 1
      (if whole then [] else (rowsFrom as).map ((a, a) :: ·)) ++
        (if first ≤ last then [(first, last) :: anyBytes as.length] else []) ++
        (if complete then [] else (rowsUpTo bs).map ((b, b) :: ·))
  | _, _ => [[]]

/-- The characters with UTF-8 forms of one length each. -/
def lengthClasses : List CharSet := [
  .ofSpans [(0, 0x7F)], .ofSpans [(0x80, 0x7FF)], .ofSpans [(0x800, 0xFFFF)],
  .ofSpans [(0x10000, 0x10FFFF)]]

/-- The rows that write the characters of a set, in the order of the characters. -/
def CharSet.byteRows (s : CharSet) : List (List ByteSpan) :=
  lengthClasses.flatMap fun lengths => (s.inter lengths).spans.flatMap fun (first, last) =>
    rowsBetween (utf8 (Char.ofNat first)) (utf8 (Char.ofNat last))

end ThemeSwitch.Unicode
