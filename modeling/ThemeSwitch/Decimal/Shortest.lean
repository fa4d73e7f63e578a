/-! # The shortest decimal that reads back

A positive binary number `m * 2 ^ q` stands for all reals that round to it, an interval that has
its ends when `m` is even. Of the decimals `d * 10 ^ k` in that interval the ones with the greatest
`k` are the shortest, and among these the nearest to the number is taken. -/
namespace ThemeSwitch.Decimal

/-- The reals that round to a positive binary number, in units of `1 / den`: the number itself and
the ends of the interval around it. -/
structure Around where
  low : Nat
  value : Nat
  high : Nat
  den : Nat
  closed : Bool

/-- The least mantissa of 53 bits. -/
def leastMantissa : Nat := 0x10000000000000

/-- The interval around `m * 2 ^ q` among the numbers of 53 bits. Below a power of two the next
number is only half as far as above it, unless `q` is the least exponent. -/
def Around.ofBinary (m : Nat) (q : Int) : Around :=
  let low := if m = leastMantissa ∧ q ≠ -1074 then 4 * m - 1 else 4 * m - 2
  let unit := Nat.pow 2 (q - 2).toNat
  ⟨low * unit, 4 * m * unit, (4 * m + 2) * unit, Nat.pow 2 (2 - q).toNat, m % 2 == 0⟩

/-- The multiple of `10 ^ k` in the interval that is nearest to the number, as its factor; of two
equally near ones the even. -/
def Around.onGrid? (a : Around) (k : Int) : Option Nat :=
  let up := Nat.pow 10 (-k).toNat
  let unit := a.den * Nat.pow 10 k.toNat
  let inside (d : Nat) : Bool :=
    if a.closed then a.low * up ≤ d * unit && d * unit ≤ a.high * up
    else a.low * up < d * unit && d * unit < a.high * up
  let below := a.value * up / unit
  let above := below + 1
  match inside below, inside above with
  | false, false => none
  | true, false => some below
  | false, true => some above
  | true, true =>
    let down := a.value * up - below * unit
    let rise := above * unit - a.value * up
    some (if down < rise || (down == rise && below % 2 == 0) then below else above)

/-- Looks at grids of falling exponents, `fuel` of them. -/
def Around.search (a : Around) : Nat → Int → Nat × Int
  | 0, k => (0, k)
  | fuel + 1, k =>
    match a.onGrid? k with
    | some d => (d, k)
    | none => search a fuel (k - 1)

/-- Factor and exponent of the shortest decimal for `m * 2 ^ q`, a positive number of 53 bits. Such
numbers lie below `10 ^ 309`, and every one has a decimal on the grid of `10 ^ -324`. -/
def shortest (m : Nat) (q : Int) : Nat × Int := (Around.ofBinary m q).search 634 309

/-- Mantissa and exponent of a finite number in binary64. -/
def ofBits (bits : UInt64) : Nat × Int :=
  let fraction := bits.toNat % leastMantissa
  let exponent := bits.toNat / leastMantissa % 0x800
  if exponent = 0 then (fraction, -1074) else (leastMantissa + fraction, (exponent : Int) - 1075)

end ThemeSwitch.Decimal
