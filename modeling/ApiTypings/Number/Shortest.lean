import ApiTypings.Number.Binary64

/-!
# Shortest decimal text

The decimal text of a number has the fewest significant digits from which the
number can be read back, and among those the digits nearest to its value. The
candidates with a given number of digits are the two neighbours of the value on
that decimal grid; a candidate reads back when it lies in the interval of
rationals that round to the number, whose ends belong to it exactly when the
mantissa is even.
-/

namespace ApiTypings.Number.Binary64

/-- The interval of positive rationals that round to a number, scaled so that all
three values are natural numbers over one denominator. -/
structure Interval where
  low : Nat
  value : Nat
  high : Nat
  den : Nat
  closed : Bool

/-- The interval of a positive number. The gap below a power of two is half as
wide as the gap above, except for the smallest normal number. -/
def interval (x : Binary64) : Interval :=
  let narrow := x.mantissa == Nat.pow 2 52 && minExponent < x.exponent
  let (n, d) := scaled 1 1 (-x.exponent)
  { low := (4 * x.mantissa - (if narrow then 1 else 2)) * n
    value := 4 * x.mantissa * n
    high := (4 * x.mantissa + 2) * n
    den := 4 * d
    closed := x.mantissa % 2 == 0 }

/-- Whether the rational `num / den` lies in the interval. -/
def Interval.contains (i : Interval) (num den : Nat) : Bool :=
  let a := i.low * den
  let b := num * i.den
  let c := i.high * den
  if i.closed then a ≤ b && b ≤ c else a < b && b < c

/-- The number of decimal digits before the point of `num / den`, minus one; for
values below one the place of the first digit that is not zero. -/
def decimalExponent (num den : Nat) : Int :=
  let guess : Int := ((Nat.toDigits 10 num).length : Int) - (Nat.toDigits 10 den).length
  let (n, d) :=
    if 0 ≤ guess then (num, den * Nat.pow 10 guess.toNat) else (num * Nat.pow 10 (-guess).toNat, den)
  if d ≤ n then guess else guess - 1

/-- The best candidate with `k` digits, as digits and the power of ten of the
last one. -/
def candidate? (i : Interval) (e : Int) (k : Nat) : Option (Nat × Int) :=
  let place : Int := e - (k - 1 : Nat)
  let up := if 0 ≤ place then Nat.pow 10 place.toNat else 1
  let down := if 0 ≤ place then 1 else Nat.pow 10 (-place).toNat
  let lower := i.value * down / (i.den * up)
  let inside (c : Nat) : Bool := i.contains (c * up) down
  let twice := 2 * i.value * down
  let mid := (2 * lower + 1) * i.den * up
  let preferLower := twice < mid || (twice == mid && lower % 2 == 0)
  match inside lower && 0 < lower, inside (lower + 1) with
  | true, true => some (if preferLower then lower else lower + 1, place)
  | true, false => some (lower, place)
  | false, true => some (lower + 1, place)
  | false, false => none

/-- The first hit among candidates with `k`, `k + 1`, ... digits. -/
def firstCandidate (i : Interval) (e : Int) : Nat → Nat → Nat × Int
  | _, 0 => (0, 0)
  | k, fuel + 1 =>
    match candidate? i e k with
    | some r => r
    | none => firstCandidate i e (k + 1) fuel

def stripZeros (digits : Nat) (e : Int) : Nat → Nat × Int
  | 0 => (digits, e)
  | fuel + 1 =>
    if digits % 10 == 0 && digits != 0 then stripZeros (digits / 10) (e + 1) fuel else (digits, e)

/-- The shortest digits of a positive number and the power of ten of the last one.
Seventeen digits always suffice. -/
def shortestDigits (x : Binary64) : Nat × Int :=
  let i := x.interval
  let (d, e) := firstCandidate i (decimalExponent i.value i.den) 1 17
  stripZeros d e 17

/-- A positive number in decimal. With the exponent of its first digit between
`-5` and `15` it is written positionally and keeps at least one decimal, else as
one digit, the other digits after a point, and a signed exponent. -/
def decimalChars (x : Binary64) : List Char :=
  let (d, e) := x.shortestDigits
  let digits := Nat.toDigits 10 d
  let first : Int := e + digits.length - 1
  if -5 ≤ first && first ≤ 15 then
    if 0 ≤ e then digits ++ List.replicate e.toNat '0' ++ ['.', '0']
    else if 0 ≤ first then
      digits.take (first.toNat + 1) ++ ['.'] ++ digits.drop (first.toNat + 1)
    else ['0', '.'] ++ List.replicate (-first - 1).toNat '0' ++ digits
  else
    let fraction := digits.drop 1
    let sign := if first < 0 then '-' else '+'
    digits.take 1 ++ (if fraction.isEmpty then [] else '.' :: fraction) ++ ['e', sign] ++
      Nat.toDigits 10 first.natAbs

def text (x : Binary64) : String :=
  .ofList ((if x.negative then ['-'] else []) ++
    (if x.isZero then ['0', '.', '0'] else x.decimalChars))

end ApiTypings.Number.Binary64
