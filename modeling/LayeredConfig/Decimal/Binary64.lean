/-
  Finite binary floating-point numbers of 64 bits, as a sign, a natural mantissa and a power of
  two, and the reading of decimal text. Reading rounds the exact rational value to the nearest
  number, ties to the even mantissa, all in natural-number arithmetic.
-/

namespace LayeredConfig

/-- The number `± mantissa * 2 ^ exponent`. A number is held in one form only: the mantissa is
below `2 ^ 53`, the exponent at least `-1074`, and the mantissa at least `2 ^ 52` unless the
exponent is `-1074`. -/
structure Binary64 where
  negative : Bool
  mantissa : Nat
  exponent : Int
  deriving Repr, DecidableEq

namespace Binary64

/-- A power of two. -/
def twoTo (n : Nat) : Nat := Nat.pow 2 n

/-- A power of ten. -/
def tenTo (n : Nat) : Nat := Nat.pow 10 n

/-- The exponent of the numbers nearest to zero. -/
def minExponent : Int := -1074

/-- The greatest exponent of a finite number. -/
def maxExponent : Int := 971

/-- Zero with a sign. -/
def zero (negative : Bool) : Binary64 := ⟨negative, 0, minExponent⟩

/-- A natural quotient rounded to nearest, ties to even. -/
def roundDiv (num den : Nat) : Nat :=
  let q := num / den
  let r := num % den
  if 2 * r > den ∨ (2 * r = den ∧ q % 2 = 1) then q + 1 else q

/-- The number of binary digits. -/
def bitLength (n : Nat) : Nat := if n = 0 then 0 else n.log2 + 1

/-- The number nearest to `num / den`, or none when it would be at least `2 ^ 1024` after
rounding. -/
def ofQuotient (negative : Bool) (num den : Nat) : Option Binary64 :=
  if num = 0 then some (zero negative)
  else
    -- `num / den` lies between `2 ^ (guess + 52)` and `2 ^ (guess + 54)`
    let guess : Int := (bitLength num : Int) - (bitLength den : Int) - 53
    let scaled (e : Int) : Nat × Nat :=
      if e ≥ 0 then (num, den * twoTo e.toNat) else (num * twoTo (-e).toNat, den)
    let e1 := if (scaled guess).1 ≥ (scaled guess).2 * twoTo 53 then guess + 1 else guess
    let e2 := if e1 < minExponent then minExponent else e1
    let m := roundDiv (scaled e2).1 (scaled e2).2
    let (m, e) := if m = twoTo 53 then (twoTo 52, e2 + 1) else (m, e2)
    if e > maxExponent then none else some ⟨negative, m, e⟩

/-- The number of decimal digits of a natural number. -/
def decimalLength (n : Nat) : Nat := (Nat.toDigits 10 n).length

/-- The number nearest to `± digits * 10 ^ power`, or none when it is too large. Powers far
outside the range of finite numbers are decided without computing them. -/
def ofDecimal (negative : Bool) (digits : Nat) (power : Int) : Option Binary64 :=
  if digits = 0 then some (zero negative)
  else
    let top := power + decimalLength digits
    if top > 400 then none
    else if top < -400 then some (zero negative)
    else if power ≥ 0 then ofQuotient negative (digits * tenTo power.toNat) 1
    else ofQuotient negative digits (tenTo (-power).toNat)

end Binary64

/-- A decimal numeral: a sign, its digits read as one natural number, and the power of ten of
the last digit. -/
structure Numeral where
  negative : Bool
  digits : Nat
  power : Int
  deriving Repr, DecidableEq

namespace Numeral

/-- The value of a run of decimal digits. -/
def digitsValue (ds : List Char) : Nat :=
  ds.foldl (fun n c => 10 * n + (c.toNat - 48)) 0

/-- A sign in front of a text, if any. -/
def takeSign : List Char → Bool × List Char
  | '-' :: rest => (true, rest)
  | '+' :: rest => (false, rest)
  | rest => (false, rest)

/-- The exponent part of a numeral: nothing, or `e` or `E` with an optional sign and at least
one digit up to the end. -/
def readExponent : List Char → Option Int
  | [] => some 0
  | c :: rest =>
    if c = 'e' ∨ c = 'E' then
      let (negative, ds) := takeSign rest
      if ds.isEmpty || !ds.all Char.isDigit then none
      else some (if negative then -(digitsValue ds : Int) else digitsValue ds)
    else none

/-- Reads `[sign] digits [. digits] [exponent]` with at least one digit before or after the
point. -/
def read? (s : List Char) : Option Numeral :=
  let (negative, rest) := takeSign s
  let whole := rest.takeWhile Char.isDigit
  let rest := rest.dropWhile Char.isDigit
  let (fraction, rest) :=
    match rest with
    | '.' :: more => (more.takeWhile Char.isDigit, more.dropWhile Char.isDigit)
    | _ => ([], rest)
  if whole.isEmpty && fraction.isEmpty then none
  else
    (readExponent rest).map fun e =>
      ⟨negative, digitsValue (whole ++ fraction), e - (fraction.length : Int)⟩

/-- The nearest floating-point number, or none when it is too large. -/
def toBinary64 (n : Numeral) : Option Binary64 := Binary64.ofDecimal n.negative n.digits n.power

end Numeral

end LayeredConfig
