import LayeredConfig.Decimal.Binary64

/-
  The shortest decimal text of a floating-point number: the fewest digits that read back as the
  same number, and of those the nearest to its value. Numbers from `10⁻⁵` up to `10¹⁶` are
  written positionally, all others with an exponent.
-/

namespace LayeredConfig.Binary64

/-- The interval of reals that round to `x`, and `x` itself, as numerators over one
denominator. -/
structure Interval where
  low : Nat
  value : Nat
  high : Nat
  den : Nat
  closed : Bool
  deriving Repr, DecidableEq

/-- The interval of a nonzero number. Below a power of two the lower neighbour is half as far
away. -/
def interval (x : Binary64) : Interval :=
  let atPower := x.mantissa = twoTo 52 ∧ x.exponent > minExponent
  let m := 4 * x.mantissa
  let low := if atPower then m - 1 else m - 2
  let closed := x.mantissa % 2 = 0
  -- in units of a quarter of the last binary digit
  let e := x.exponent - 2
  if e ≥ 0 then
    ⟨low * twoTo e.toNat, m * twoTo e.toNat, (m + 2) * twoTo e.toNat, 1, closed⟩
  else ⟨low, m, m + 2, twoTo (-e).toNat, closed⟩

/-- `n * 10 ^ p` lies in the interval. -/
def Interval.holds (i : Interval) (n : Nat) (p : Int) : Bool :=
  let (num, den) := if p ≥ 0 then (n * tenTo p.toNat, 1) else (n, tenTo (-p).toNat)
  if i.closed then i.low * den ≤ num * i.den && num * i.den ≤ i.high * den
  else i.low * den < num * i.den && num * i.den < i.high * den

/-- The decimal on the grid of multiples of `10 ^ p` that lies in the interval, nearest to the
value; of two equally near the even one. -/
def Interval.onGrid (i : Interval) (p : Int) : Option Nat :=
  let (num, den) :=
    if p ≥ 0 then (i.value, i.den * tenTo p.toNat) else (i.value * tenTo (-p).toNat, i.den)
  let below := num / den
  let rest := num % den
  let nearest := if 2 * rest > den ∨ (2 * rest = den ∧ below % 2 = 1) then below + 1 else below
  let other := if nearest = below then below + 1 else below
  if nearest > 0 && i.holds nearest p then some nearest
  else if other > 0 && i.holds other p then some other
  else none

/-- The decimal exponent of the first digit of `num / den`, found by correcting a guess. -/
def firstDigitPower (num den : Nat) : Int :=
  let guess : Int := (decimalLength num : Int) - (decimalLength den : Int)
  -- `num / den` lies in `(10 ^ (guess - 1), 10 ^ (guess + 1))`
  let atLeast : Bool :=
    if guess ≥ 0 then num ≥ den * tenTo guess.toNat else num * tenTo (-guess).toNat ≥ den
  if atLeast then guess else guess - 1

/-- Tries grids from coarse to fine. -/
def Interval.search (i : Interval) (p : Int) : Nat → Nat × Int
  | 0 => (0, p)
  | steps + 1 =>
    match i.onGrid p with
    | some n => (n, p)
    | none => i.search (p - 1) steps

/-- Drops zeros at the end of a decimal. -/
def dropZeros : Nat → Nat × Int → Nat × Int
  | 0, d => d
  | steps + 1, (n, p) => if n % 10 = 0 ∧ n ≠ 0 then dropZeros steps (n / 10, p + 1) else (n, p)

/-- The shortest decimal `n * 10 ^ p` of a nonzero number. Seventeen digits always suffice. -/
def shortest (x : Binary64) : Nat × Int :=
  let i := x.interval
  dropZeros 18 (i.search (firstDigitPower i.value i.den + 1) 19)

/-- How the text of an exponent is marked. -/
structure ExponentStyle where
  plus : Bool
  deriving Repr, DecidableEq

/-- The text of a decimal `n * 10 ^ p`: positional with at least one digit after the point for
first digits between `10⁻⁵` and `10¹⁵`, otherwise one digit before the point and an
exponent. -/
def decimalText (style : ExponentStyle) (n : Nat) (p : Int) : List Char :=
  let ds := Nat.toDigits 10 n
  let point : Int := ds.length + p
  if 0 ≤ p ∧ point ≤ 16 then ds ++ List.replicate p.toNat '0' ++ ['.', '0']
  else if 0 < point ∧ point ≤ 16 then
    ds.take point.toNat ++ '.' :: ds.drop point.toNat
  else if -5 < point ∧ point ≤ 0 then
    ['0', '.'] ++ List.replicate (-point).toNat '0' ++ ds
  else
    let e := point - 1
    let mark := if e < 0 then ['-'] else if style.plus then ['+'] else []
    let fraction := if ds.length > 1 then '.' :: ds.drop 1 else []
    ds.take 1 ++ fraction ++ ['e'] ++ mark ++ Nat.toDigits 10 e.natAbs

/-- The text of a number. Zero keeps its sign. -/
def toText (style : ExponentStyle) (x : Binary64) : String :=
  let sign := if x.negative then ['-'] else []
  if x.mantissa = 0 then String.ofList (sign ++ ['0', '.', '0'])
  else
    let (n, p) := x.shortest
    String.ofList (sign ++ decimalText style n p)

end LayeredConfig.Binary64
