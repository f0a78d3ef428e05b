/-! # Double precision numbers, exactly

A finite number of the 64-bit binary format as a sign, a significand below `2 ^ 53` and a power of two.
`Binary64.ofDecimal` rounds a decimal to the nearest such number, a tie going to the even significand,
and answers `none` where the nearest would lie beyond the largest finite one. Everything is arithmetic
on natural numbers. -/

namespace SessionKeeper

/-- The finite number `± significand * 2 ^ exponent`. -/
structure Binary64 where
  negative : Bool
  significand : Nat
  exponent : Int
deriving DecidableEq

namespace Binary64

/-- The exponent of the least positive number. -/
def minExponent : Int := -1074

/-- The exponent of the largest finite numbers. -/
def maxExponent : Int := 971

/-- The least significand that has all 53 bits. -/
def leastNormal : Nat := Nat.pow 2 52

/-- The fraction `num / (den * 2 ^ q)` as a numerator and a denominator. -/
def scaled (num den : Nat) (q : Int) : Nat × Nat :=
  if 0 ≤ q then (num, den * Nat.pow 2 q.toNat) else (num * Nat.pow 2 (-q).toNat, den)

/-- The quotient rounded to the nearest integer, a tie going to the even one. -/
def roundHalfEven (num den : Nat) : Nat :=
  let k := num / den
  let twice := 2 * (num % den)
  if twice < den then k
  else if den < twice then k + 1
  else if k % 2 = 0 then k else k + 1

/-- The exponent at which the quotient of two positive numbers has a significand of 53 bits, or the
least exponent if the quotient is too small for that. -/
def exponentFor (num den : Nat) : Int :=
  let q : Int := (num.log2 : Int) - den.log2 - 53
  let (n, d) := scaled num den q
  max minExponent (if 2 * leastNormal ≤ n / d then q + 1 else q)

/-- The finite number nearest to `± num / den`, if there is one. -/
def ofFraction (negative : Bool) (num den : Nat) : Option Binary64 :=
  if num = 0 then some ⟨negative, 0, minExponent⟩
  else
    let q := exponentFor num den
    let (n, d) := scaled num den q
    let m := roundHalfEven n d
    let (m, q) := if m = 2 * leastNormal then (leastNormal, q + 1) else (m, q)
    if maxExponent < q then none else some ⟨negative, m, q⟩

/-- The decimal order of magnitude from which no number is finite. -/
def hugeOrder : Int := 310

/-- The decimal order of magnitude below which every number rounds to zero. -/
def tinyOrder : Int := -330

/-- The finite number nearest to `± digits * 10 ^ exponent`, if there is one. Exponents far outside the
range are decided by the order of magnitude alone. -/
def ofDecimal (negative : Bool) (digits : Nat) (exponent : Int) : Option Binary64 :=
  if digits = 0 then some ⟨negative, 0, minExponent⟩
  else
    let order : Int := (Nat.toDigits 10 digits).length + exponent
    if hugeOrder < order then none
    else if order < tinyOrder then some ⟨negative, 0, minExponent⟩
    else if 0 ≤ exponent then ofFraction negative (digits * Nat.pow 10 exponent.toNat) 1
    else ofFraction negative digits (Nat.pow 10 (-exponent).toNat)

end Binary64

end SessionKeeper
