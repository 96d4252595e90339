-- Finite binary floating-point numbers of 64 bits in exact arithmetic: the nearest one to a
-- fraction, the one that is read for a decimal, and the shortest decimal that is nearest to a given
-- one. A decimal is not read as the number nearest to it: it is scaled by a power of ten, which is
-- rounded itself, and the result is rounded again. Nothing here uses machine arithmetic, so every
-- statement about these numbers is one about naturals and integers.

namespace EntityPipeline

/-- A finite double: a sign and the magnitude `mantissa * 2 ^ exponent`. The exponent is least
possible, so that numbers with equal members are the same bits. -/
structure Binary64 where
  negative : Bool
  mantissa : Nat
  exponent : Int
deriving DecidableEq, Repr, Inhabited

namespace Binary64

/-- The least exponent. -/
def minExponent : Int := -1074

/-- The greatest exponent. -/
def maxExponent : Int := 971

/-- The zero of a sign. -/
def zero (negative : Bool) : Binary64 := ⟨negative, 0, minExponent⟩

/-- Whether a double is one of the two zeros. -/
def isZero (x : Binary64) : Bool := x.mantissa == 0

/-- Two doubles are the same number when their bits agree or both are zero. -/
def same (x y : Binary64) : Bool := x == y || (x.isZero && y.isZero)

/-! ## Rounding -/

/-- The integer nearest to a fraction; a half goes to the even neighbour. -/
def roundHalfEven (num den : Nat) : Nat :=
  let q := num / den
  let twice := 2 * (num % den)
  if twice > den || (twice == den && q % 2 == 1) then q + 1 else q

/-- A fraction divided by a power of two. -/
def divPow (num den : Nat) (e : Int) : Nat × Nat :=
  if e < 0 then (num * Nat.pow 2 e.natAbs, den) else (num, den * Nat.pow 2 e.natAbs)

/-- The exponent at which a positive fraction has a mantissa of 53 bits. -/
def exponentOf (num den : Nat) : Int :=
  let guess : Int := (Nat.log2 num : Int) - Nat.log2 den - 53
  let (n, d) := divPow num den guess
  max minExponent (if n < d * Nat.pow 2 53 then guess else guess + 1)

/-- The double nearest to a fraction, a half going to the even mantissa. There is none for a
fraction past the greatest double. -/
def ofRatio (negative : Bool) (num den : Nat) : Option Binary64 :=
  if num == 0 then some (zero negative)
  else
    let e := exponentOf num den
    let (n, d) := divPow num den e
    let m := roundHalfEven n d
    let (m, e) := if m == Nat.pow 2 53 then (Nat.pow 2 52, e + 1) else (m, e)
    if e > maxExponent then none else some ⟨negative, m, e⟩

/-- The fraction `digits * 10 ^ exponent`. -/
def decimalRatio (digits : Nat) (exponent : Int) : Nat × Nat :=
  if exponent < 0 then (digits, Nat.pow 10 exponent.natAbs)
  else (digits * Nat.pow 10 exponent.natAbs, 1)

/-- The number of decimal digits. -/
def digitCount (n : Nat) : Nat := (Nat.toDigits 10 n).length

/-- The double nearest to `digits * 10 ^ exponent`. Decimals far outside the range are decided by
their size alone. -/
def ofDecimal (negative : Bool) (digits : Nat) (exponent : Int) : Option Binary64 :=
  let size : Int := digitCount digits + exponent
  if digits == 0 || size < -330 then some (zero negative)
  else if size > 330 then none
  else
    let (num, den) := decimalRatio digits exponent
    ofRatio negative num den

/-! ## Reading decimals -/

/-- The magnitude as a fraction. -/
def ratio (x : Binary64) : Nat × Nat :=
  if x.exponent < 0 then (x.mantissa, Nat.pow 2 x.exponent.natAbs)
  else (x.mantissa * Nat.pow 2 x.exponent.natAbs, 1)

/-- The double nearest to a product with a positive one. -/
def times (x y : Binary64) : Option Binary64 :=
  ofRatio x.negative (x.ratio.1 * y.ratio.1) (x.ratio.2 * y.ratio.2)

/-- The double nearest to a quotient by a positive one. -/
def dividedBy (x y : Binary64) : Option Binary64 :=
  ofRatio x.negative (x.ratio.1 * y.ratio.2) (x.ratio.2 * y.ratio.1)

/-- The greatest power of ten in the range of doubles. -/
def maxTen : Nat := 308

/-- The double nearest to a power of ten. -/
def tenPower (k : Nat) : Option Binary64 := ofRatio false (Nat.pow 10 k) 1

/-- A double multiplied by a power of ten. -/
def timesTen (x : Binary64) (k : Nat) : Option Binary64 := (tenPower k).bind x.times

/-- A double divided by a power of ten. -/
def overTen (x : Binary64) (k : Nat) : Option Binary64 := (tenPower k).bind x.dividedBy

/-- A double divided so many times by the greatest power of ten, or until nothing is left of it. -/
def overMaxTen : Nat → Binary64 → Option Binary64
  | 0, x => some x
  | n + 1, x => if x.isZero then some x else (x.overTen maxTen).bind (overMaxTen n)

/-- A double scaled by a power of ten. Only one division is left when the power is in range. -/
def scaled (x : Binary64) (exponent : Int) : Option Binary64 :=
  if exponent < 0 then
    let steps := (exponent.natAbs - 1) / maxTen
    (overMaxTen steps x).bind fun x => x.overTen (exponent.natAbs - steps * maxTen)
  else if exponent.natAbs ≤ maxTen then x.timesTen exponent.natAbs
  else if x.isZero then some x
  else none

/-- The double that is read for `digits * 10 ^ exponent`. The digits are rounded to a double, which
is then scaled. -/
def readDecimal (negative : Bool) (digits : Nat) (exponent : Int) : Option Binary64 :=
  (ofRatio negative digits 1).bind fun x => x.scaled exponent

/-! ## Shortest decimals -/

/-- How many tens a fraction below one is multiplied by before it reaches one. -/
def tensBelowOne (num den : Nat) : Nat → Nat
  | 0 => 0
  | fuel + 1 => if num < den then tensBelowOne (num * 10) den fuel + 1 else 0

/-- The power of ten of the first digit of a positive fraction. -/
def leadingPower (num den : Nat) : Int :=
  if num < den then -(tensBelowOne num den 400 : Int) else (digitCount (num / den) : Int) - 1

/-- The nearest decimal with a last digit at the given power of ten that rounds to the double, if
there is one among the two neighbours. -/
def decimalAt (x : Binary64) (power : Int) : Option (Nat × Int) :=
  let (num, den) := x.ratio
  let (scale, unit) := decimalRatio 1 power
  let lowN := num * unit
  let lowD := den * scale
  let low := lowN / lowD
  let rounds := fun d => ofDecimal x.negative d power == some x
  let twice := 2 * (lowN % lowD)
  let upFirst := twice > lowD || (twice == lowD && low % 2 == 1)
  let order := if upFirst then [low + 1, low] else [low, low + 1]
  (order.find? rounds).map fun d => (d, power)

/-- Drops final zeros. -/
def dropZeros : Nat → Nat → Int → Nat × Int
  | 0, d, e => (d, e)
  | fuel + 1, d, e => if d % 10 == 0 && d != 0 then dropZeros fuel (d / 10) (e + 1) else (d, e)

/-- The exact decimal of a magnitude. -/
def exactDecimal (x : Binary64) : Nat × Int :=
  if x.exponent < 0 then (x.mantissa * Nat.pow 5 x.exponent.natAbs, x.exponent)
  else (x.mantissa * Nat.pow 2 x.exponent.natAbs, 0)

/-- The digits and the power of ten of the shortest decimal that rounds to a positive magnitude; of
several the nearest. -/
def shortest (x : Binary64) : Nat × Int :=
  let (num, den) := x.ratio
  let lead := leadingPower num den
  let found := (List.range 17).findSome? fun (n : Nat) => decimalAt x (lead - (n : Int))
  let (d, e) := found.getD x.exactDecimal
  dropZeros (digitCount d) d e

end Binary64

end EntityPipeline
