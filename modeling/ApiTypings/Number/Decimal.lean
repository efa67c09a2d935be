/-!
# Decimal numerals

A natural number as it is typed: digits, with a plus sign in front if one likes.
-/

namespace ApiTypings.Number

def natOfDigits (cs : List Char) : Nat := cs.foldl (fun n c => n * 10 + (c.toNat - '0'.toNat)) 0

/-- The number that a text denotes, if it is at most `limit`. -/
def natural? (limit : Nat) (s : String) : Option Nat :=
  let digits :=
    match s.toList with
    | '+' :: rest => rest
    | cs => cs
  if digits.isEmpty || !digits.all Char.isDigit then none
  else if natOfDigits digits ≤ limit then some (natOfDigits digits)
  else none

end ApiTypings.Number
