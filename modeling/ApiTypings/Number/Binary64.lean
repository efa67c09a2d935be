/-!
# Binary floating point numbers of 64 bits

A finite number is kept exactly, as a signed integer mantissa times a power of
two. Each operation computes the exact rational result and rounds it once, to
the nearest representable number, a tie going to the even mantissa. Infinities
and "not a number" are absent: an operation that would overflow has no result.
-/

namespace ApiTypings.Number

/-- The number `± mantissa * 2 ^ exponent`. A normal number has a mantissa of 53
bits; zero and the subnormal numbers have the exponent `-1074`. -/
structure Binary64 where
  negative : Bool
  mantissa : Nat
  exponent : Int
  deriving DecidableEq, Repr

namespace Binary64

/-- The exponent of the smallest positive number. -/
def minExponent : Int := -1074

def maxExponent : Int := 971

def zero (negative : Bool) : Binary64 := ⟨negative, 0, minExponent⟩

def isZero (x : Binary64) : Bool := x.mantissa == 0

/-- The quotient of two natural numbers to the nearest integer, ties to even. -/
def roundHalfEven (num den : Nat) : Nat :=
  let q := num / den
  let r := num % den
  if 2 * r < den || (2 * r == den && q % 2 == 0) then q else q + 1

/-- `num / den * 2 ^ (-e)` as a fraction of natural numbers. -/
def scaled (num den : Nat) (e : Int) : Nat × Nat :=
  if 0 ≤ e then (num, den * Nat.pow 2 e.toNat) else (num * Nat.pow 2 (-e).toNat, den)

/-- The exponent at which `num / den` has a mantissa of 53 bits, or the least one. -/
def exponentFor (num den : Nat) : Int :=
  let e : Int := (Nat.log2 num : Int) - Nat.log2 den - 53
  let (n, d) := scaled num den e
  max (if Nat.pow 2 53 * d ≤ n then e + 1 else e) minExponent

/-- The representable number nearest to `num / den`, if that does not overflow. -/
def ofRatio? (negative : Bool) (num den : Nat) : Option Binary64 :=
  if num == 0 then some (zero negative)
  else
    let e := exponentFor num den
    let (n, d) := scaled num den e
    let m := roundHalfEven n d
    let (m, e) := if m == Nat.pow 2 53 then (Nat.pow 2 52, e + 1) else (m, e)
    if maxExponent < e then none else some ⟨negative, m, e⟩

/-- The representable number nearest to a natural number of at most 1023 bits. -/
def ofNat (n : Nat) : Binary64 := (ofRatio? false n 1).getD (zero false)

/-- The exact value as a fraction of natural numbers, sign aside. -/
def ratio (x : Binary64) : Nat × Nat := scaled x.mantissa 1 (-x.exponent)

/-- The product of two numbers, if it does not overflow. -/
def mul? (x y : Binary64) : Option Binary64 :=
  let (n, d) := x.ratio
  let (n', d') := y.ratio
  ofRatio? (x.negative != y.negative) (n * n') (d * d')

/-- The quotient by a number other than zero, if it does not overflow. -/
def div? (x y : Binary64) : Option Binary64 :=
  let (n, d) := x.ratio
  let (n', d') := y.ratio
  ofRatio? (x.negative != y.negative) (n * d') (d * n')

def neg (x : Binary64) : Binary64 := { x with negative := !x.negative }

/-- Whether the magnitude exceeds `2 ^ (-52)`, the gap between one and the next
number. -/
def exceedsEpsilon (x : Binary64) : Bool :=
  let (n, d) := x.ratio
  d < n * Nat.pow 2 52

/-- The power of ten nearest to `10 ^ k`, for `k` up to 308. -/
def powerOfTen (k : Nat) : Binary64 := ofNat (Nat.pow 10 k)

/-- Repeated division by the same number, ending early at zero. -/
def divideTimes (divisor : Binary64) : Nat → Binary64 → Option Binary64
  | 0, x => some x
  | k + 1, x => if x.isZero then some x else (x.div? divisor).bind (divideTimes divisor k)

/-- A decimal significand scaled by a power of ten. The scaling is one rounded
multiplication or division by a power of ten; below `-308` the significand is
first divided by `10 ^ 308` as often as needed. So the result may differ in the
last place from the number nearest to the exact decimal. -/
def scaleTen (x : Binary64) (e : Int) : Option Binary64 :=
  if 0 ≤ e then
    if e ≤ 308 then x.mul? (powerOfTen e.toNat)
    else if x.isZero then some x
    else none
  else
    let k := (-e - 1).toNat / 308
    (divideTimes (powerOfTen 308) k x).bind fun y =>
      if y.isZero then some y else y.div? (powerOfTen ((-e).toNat - 308 * k))

end Binary64

end ApiTypings.Number
