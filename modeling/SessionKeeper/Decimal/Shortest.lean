import SessionKeeper.Decimal.Binary64

/-! # Shortest decimals

The decimal with the fewest digits among those that round to a given double precision number, and among
those the nearest. For one digit, two digits and so on, the two neighbours of the number on the grid of
decimals with that many digits are tested; 17 digits always suffice.

A `DecimalLayout` turns digits and exponent into text: positional between two powers of ten, scientific
outside. -/

namespace SessionKeeper

/-- The number `digits * 10 ^ exponent`. -/
structure Decimal where
  digits : Nat
  exponent : Int
deriving DecidableEq

namespace Decimal

/-- The count of decimal digits, zero having none. -/
def width (n : Nat) : Nat := if n = 0 then 0 else (Nat.toDigits 10 n).length

/-- The exponent of the leading digit of `num / den`. -/
def leadingExponent (num den : Nat) : Int :=
  if den ≤ num then (width (num / den) : Int) - 1 else -(width ((den - 1) / num) : Int)

/-- `a * 10 ^ k` as a numerator and a denominator. -/
def fraction (a : Nat) (k : Int) : Nat × Nat :=
  if 0 ≤ k then (a * Nat.pow 10 k.toNat, 1) else (a, Nat.pow 10 (-k).toNat)

/-- Whether `num / den` rounds to `m * 2 ^ q`. In units of `2 ^ (q - 2)` these are the numbers from
`4 m - 2`, or `4 m - 1` just above a power of two, to `4 m + 2`, the ends included for an even `m`. -/
def roundsTo (m : Nat) (q : Int) (num den : Nat) : Bool :=
  let (n, d) := Binary64.scaled num den (q - 2)
  let low := 4 * m - (if m = Binary64.leastNormal ∧ Binary64.minExponent < q then 1 else 2)
  let high := 4 * m + 2
  if m % 2 = 0 then low * d ≤ n && n ≤ high * d else low * d < n && n < high * d

/-- The better of the two neighbours of `m * 2 ^ q` among the multiples of `10 ^ k`, if one of them
rounds to it; an exact tie goes to the even one. -/
def onGrid (m : Nat) (q k : Int) : Option Decimal :=
  let (num, den) := Binary64.scaled m 1 (-q)
  let (gridNum, gridDen) := fraction 1 k
  let num := num * gridDen
  let den := den * gridNum
  let low := num / den
  let fits (a : Nat) : Bool := 0 < a && roundsTo m q (fraction a k).1 (fraction a k).2
  match fits low, fits (low + 1) with
  | true, true => some ⟨Binary64.roundHalfEven num den, k⟩
  | true, false => some ⟨low, k⟩
  | false, true => some ⟨low + 1, k⟩
  | false, false => none

/-- The first hit on the grids with `n`, `n + 1`, …, `n + fuel` digits. -/
def firstOnGrid (m : Nat) (q leading : Int) (n : Nat) : Nat → Option Decimal
  | 0 => none
  | fuel + 1 =>
    match onGrid m q (leading + 1 - n) with
    | some d => some d
    | none => firstOnGrid m q leading (n + 1) fuel

/-- The shortest decimal that rounds to the positive number `m * 2 ^ q`. -/
def shortest (m : Nat) (q : Int) : Decimal :=
  let (num, den) := Binary64.scaled m 1 (-q)
  (firstOnGrid m q (leadingExponent num den) 1 17).getD ⟨m, q⟩

/-- The digits without trailing zeros, most significant first. -/
def digitChars (d : Decimal) : List Char :=
  ((Nat.toDigits 10 d.digits).reverse.dropWhile (· == '0')).reverse

/-- The exponent of the leading digit. -/
def order (d : Decimal) : Int := width d.digits - 1 + d.exponent

end Decimal

/-- How a decimal is written: positional while the exponent of the leading digit lies between two
bounds, in scientific notation outside them. -/
structure DecimalLayout where
  lowest : Int
  highest : Int

namespace DecimalLayout

/-- Positional notation, with at least one digit on either side of the point. -/
def positional (ds : List Char) (order : Int) : List Char :=
  if order < 0 then
    '0' :: '.' :: (List.replicate (-order - 1).toNat '0' ++ ds)
  else
    let whole := ds.take (order + 1).toNat
    let pad := List.replicate ((order + 1).toNat - ds.length) '0'
    let rest := ds.drop (order + 1).toNat
    whole ++ pad ++ '.' :: (if rest.isEmpty then ['0'] else rest)

/-- Scientific notation, the sign of the exponent always written. -/
def scientific (ds : List Char) (order : Int) : List Char :=
  let mantissa := match ds with
    | [] => ['0']
    | [d] => [d]
    | d :: rest => d :: '.' :: rest
  mantissa ++ 'e' :: (if order < 0 then '-' else '+') :: Nat.toDigits 10 order.natAbs

/-- The text of a number: a minus sign if it is negative, zero included, and its shortest decimal. -/
def render (layout : DecimalLayout) (x : Binary64) : String :=
  let body :=
    if x.significand = 0 then ['0', '.', '0']
    else
      let d := Decimal.shortest x.significand x.exponent
      if layout.lowest ≤ d.order && d.order ≤ layout.highest then
        positional d.digitChars d.order
      else scientific d.digitChars d.order
  String.ofList (if x.negative then '-' :: body else body)

end DecimalLayout

end SessionKeeper
