import ThemeSwitch.Json.Word
import ThemeSwitch.Decimal.Shortest

/-! # JSON numbers

Numbers without a fraction and an exponent are integers while they fit into 64 bits, and all others
are floating. A floating number is made of the leading digits whose value fits into 64 bits and a
power of ten, by one multiplication or division of floating numbers. -/
namespace ThemeSwitch.Json

inductive Number
  | integer (n : Int)
  | floating (x : Float)

/-- Digits and exponent `k` of a decimal, of the number `0.d₁d₂… * 10 ^ k`: positional where the
point stands after up to sixteen digits or before up to five zeros, and otherwise with an
exponent. -/
def layOut (digits : List Char) (point : Int) : List Char :=
  let n : Int := digits.length
  if n ≤ point ∧ point ≤ 16 then
    digits ++ List.replicate (point - n).toNat '0' ++ ['.', '0']
  else if 0 < point ∧ point ≤ 16 then
    digits.take point.toNat ++ '.' :: digits.drop point.toNat
  else if -5 < point ∧ point ≤ 0 then
    '0' :: '.' :: (List.replicate (-point).toNat '0' ++ digits)
  else
    let power := point - 1
    let sign := if power < 0 then '-' else '+'
    let mantissa := match digits with
      | d :: e :: rest => d :: '.' :: e :: rest
      | short => short
    mantissa ++ 'e' :: sign :: Nat.toDigits 10 power.natAbs

/-- The shortest text that reads back as the finite number. -/
def floatText (x : Float) : String :=
  let bits := x.toBits
  let minus := if bits.toNat < 0x8000000000000000 then [] else ['-']
  let (m, q) := Decimal.ofBits bits
  let body :=
    if m = 0 then ['0', '.', '0']
    else
      let (d, k) := Decimal.shortest m q
      let digits := Nat.toDigits 10 d
      layOut digits (digits.length + k)
  String.ofList (minus ++ body)

def Number.found : Number → Found
  | integer n => .integer n
  | floating x => .floating (floatText x)

/-- Takes digits as long as the value stays within the limit. -/
def absorb (limit value : Nat) : List Char → Nat × List Char
  | [] => (value, [])
  | c :: cs =>
    if c.isDigit ∧ 10 * value + Text.digitValue c ≤ limit then
      absorb limit (10 * value + Text.digitValue c) cs
    else (value, c :: cs)

/-- The greatest number of 64 bits. -/
def maxWord : Nat := 0xFFFFFFFFFFFFFFFF

/-- The greatest number of 31 bits. -/
def maxExponent : Nat := 0x7FFFFFFF

/-- `10 ^ n` as a floating number. -/
def power (n : Nat) : Float := Float.ofScientific 1 false n

/-- Divides by powers of ten; where the exponent is out of reach of one division, by the greatest
one first, `fuel` times at most. After three such divisions nothing is left. -/
def divide : Nat → Float → Nat → Float
  | 0, _, _ => 0.0
  | fuel + 1, x, n => if n ≤ 308 then x / power n else divide fuel (x / power 308) (n - 308)

/-- The floating number of a significand and a power of ten; none where it is out of range. -/
def scale? (significand : Nat) (exponent : Int) : Option Float :=
  let x := significand.toUInt64.toFloat
  if exponent < 0 then some (divide 4 x exponent.natAbs)
  else if exponent ≤ 308 then
    let y := x * power exponent.toNat
    if y.isInf then none else some y
  else if significand = 0 then some x
  else none

def signed (negative : Bool) (x : Float) : Float := if negative then -x else x

/-- The floating number of a significand and an exponent, where the rest begins. -/
def finish (negative : Bool) (significand : Nat) (exponent : Int) (rest : List Char) :
    Reading Number :=
  match scale? significand exponent with
  | some x => .ok (.floating (signed negative x), rest)
  | none => .error (.here .numberOutOfRange rest)

/-- The text without one of the given signs in front. -/
def dropSign (signs : List Char) : List Char → List Char
  | c :: cs => if signs.contains c then cs else c :: cs
  | [] => []

/-- The exponent, after its `e`, and the number that it completes. -/
def readExponent (negative : Bool) (significand : Nat) (start : Int) (cs : List Char) :
    Reading Number :=
  let down := cs.head? = some '-'
  let exponent (value : Nat) : Int := if down then start - value else start + value
  match dropSign ['+', '-'] cs with
  | [] => .error (.here .endInValue [])
  | c :: rest =>
    if !c.isDigit then .error (.ahead .badNumber (c :: rest))
    else
      match absorb maxExponent 0 (c :: rest) with
      | (value, []) => finish negative significand (exponent value) []
      | (value, d :: more) =>
        if !d.isDigit then finish negative significand (exponent value) (d :: more)
        else if significand ≠ 0 ∧ !down then .error (.here .numberOutOfRange more)
        else .ok (.floating (signed negative 0.0), more.dropWhile Char.isDigit)

/-- The exponent, if there is one, and the number that it completes. -/
def readPower (negative : Bool) (significand : Nat) (start : Int) : List Char → Reading Number
  | 'e' :: cs | 'E' :: cs => readExponent negative significand start cs
  | cs => finish negative significand start cs

/-- The digits after the point, and what follows them. -/
def readFraction (negative : Bool) (significand : Nat) (skipped : Nat) (cs : List Char) :
    Reading Number :=
  match cs with
  | [] => .error (.here .endInValue [])
  | c :: _ =>
    if !c.isDigit then .error (.ahead .badNumber cs)
    else
      let (value, rest) := absorb maxWord significand cs
      readPower negative value ((skipped : Int) - (cs.length - rest.length))
        (rest.dropWhile Char.isDigit)

/-- A number, after its sign. -/
def readUnsigned (negative : Bool) (cs : List Char) : Reading Number :=
  match cs with
  | [] => .error (.here .endInValue [])
  | '0' :: c :: rest =>
    if c.isDigit then .error (.ahead .badNumber (c :: rest)) else after 0 0 (c :: rest)
  | c :: rest =>
    if !c.isDigit then .error (.ahead .badNumber (c :: rest))
    else
      let (value, tail) := absorb maxWord 0 cs
      after value (tail.takeWhile Char.isDigit).length (tail.dropWhile Char.isDigit)
where
  /-- What follows the digits before the point, of which the last ones were skipped. -/
  after (significand skipped : Nat) : List Char → Reading Number
    | '.' :: cs => readFraction negative significand skipped cs
    | cs =>
      match cs, skipped with
      | 'e' :: _, _ | 'E' :: _, _ | _, _ + 1 => readPower negative significand skipped cs
      | cs, 0 =>
        if !negative then .ok (.integer significand, cs)
        else if 0 < significand ∧ significand ≤ 0x8000000000000000 then
          .ok (.integer (-significand), cs)
        else .ok (.floating (-significand.toUInt64.toFloat), cs)

def readNumber : List Char → Reading Number
  | '-' :: cs => readUnsigned true cs
  | cs => readUnsigned false cs

/-- The rest after the digits of an exponent that nobody asks for, from after its sign. -/
def passExponent : List Char → Except Stop (List Char)
  | c :: rest =>
    if c.isDigit then .ok (rest.dropWhile Char.isDigit) else .error (.ahead .badNumber (c :: rest))
  | [] => .error (.ahead .badNumber [])

def passPower : List Char → Except Stop (List Char)
  | 'e' :: cs | 'E' :: cs => passExponent (dropSign ['+', '-'] cs)
  | cs => .ok cs

def passFraction : List Char → Except Stop (List Char)
  | '.' :: c :: cs =>
    if c.isDigit then passPower (cs.dropWhile Char.isDigit)
    else .error (.ahead .badNumber (c :: cs))
  | '.' :: [] => .error (.ahead .badNumber [])
  | cs => passPower cs

/-- The rest after a number without its sign that nobody asks for. -/
def passUnsigned : List Char → Except Stop (List Char)
  | '0' :: c :: rest =>
    if c.isDigit then .error (.ahead .badNumber (c :: rest)) else passFraction (c :: rest)
  | c :: rest =>
    if c.isDigit then passFraction (rest.dropWhile Char.isDigit)
    else .error (.ahead .badNumber (c :: rest))
  | [] => .error (.ahead .badNumber [])

/-- The rest after a number that nobody asks for. -/
def passNumber (cs : List Char) : Except Stop (List Char) := passUnsigned (dropSign ['-'] cs)

theorem length_dropSign_le (signs cs : List Char) : (dropSign signs cs).length ≤ cs.length := by
  unfold dropSign
  split
  · split <;> simp
  · simp

theorem length_dropDigits_le (cs : List Char) : (cs.dropWhile Char.isDigit).length ≤ cs.length :=
  (List.dropWhile_suffix _).length_le

theorem length_passExponent {cs rest : List Char} (h : passExponent cs = .ok rest) :
    rest.length < cs.length := by
  unfold passExponent at h
  split at h
  · next c tail =>
    split at h
    · next digit =>
      have := length_dropDigits_le tail
      cases h
      simp only [List.length_cons]
      omega
    · next other => cases h
  · cases h

theorem length_passPower {cs rest : List Char} (h : passPower cs = .ok rest) :
    rest.length ≤ cs.length := by
  have hexponent {cs rest : List Char}
      (h : passExponent (dropSign ['+', '-'] cs) = .ok rest) : rest.length < cs.length :=
    Nat.lt_of_lt_of_le (length_passExponent h) (length_dropSign_le _ cs)
  unfold passPower at h
  split at h
  · exact Nat.le_succ_of_le (Nat.le_of_lt (hexponent h))
  · exact Nat.le_succ_of_le (Nat.le_of_lt (hexponent h))
  · cases h
    exact Nat.le_refl _

theorem length_passFraction {cs rest : List Char} (h : passFraction cs = .ok rest) :
    rest.length ≤ cs.length := by
  unfold passFraction at h
  split at h
  · next c tail =>
    split at h
    · next digit =>
      have := length_passPower h
      have := length_dropDigits_le tail
      simp only [List.length_cons]
      omega
    · next other => cases h
  · cases h
  · exact length_passPower h

theorem length_passUnsigned {cs rest : List Char} (h : passUnsigned cs = .ok rest) :
    rest.length < cs.length := by
  unfold passUnsigned at h
  split at h
  · next c tail =>
    split at h
    · next leadingZero => cases h
    · next zero => exact Nat.lt_succ_of_le (length_passFraction h)
  · next c tail _ =>
    split at h
    · next digit =>
      have := length_passFraction h
      have := length_dropDigits_le tail
      simp only [List.length_cons]
      omega
    · next other => cases h
  · cases h

theorem length_passNumber {cs rest : List Char} (h : passNumber cs = .ok rest) :
    rest.length < cs.length :=
  Nat.lt_of_lt_of_le (length_passUnsigned h) (length_dropSign_le _ cs)

end ThemeSwitch.Json
