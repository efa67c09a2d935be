import ApiTypings.Text.Basic

/-!
# Tables of characters

The properties of characters come in tables of rows. A row is about the characters
from a first to a last one, or about every second of them, and may give numbers to the
first: those of the others are larger by as much as the characters are.

Tables are written as texts. A row is `first`, `first-last` or `first-last/stride`,
followed by a colon and the numbers with dots between them if it has any. All numbers
are hexadecimal in upper case.
-/

namespace ApiTypings.Unicode

structure Row where
  first : Nat
  last : Nat
  stride : Nat
  numbers : List Nat

abbrev Table := List Row

namespace Row

def number (cs : List Char) : Nat :=
  cs.foldl (fun n c => n * 16 + (if c.isDigit then c.toNat - 48 else c.toNat - 55)) 0

def numbersOf (cs : List Char) : List Nat :=
  if cs.isEmpty then [] else (Text.splitChars (· == '.') cs).map number

def ofText (s : String) : Row :=
  let (range, numbers) := Text.splitFirst (· == ':') s.toList
  let (range, stride) := Text.splitFirst (· == '/') range
  let (first, last) := Text.splitFirst (· == '-') range
  ⟨number first, number (last.getD first), (stride.map number).getD 1, numbersOf (numbers.getD [])⟩

def covers (r : Row) (n : Nat) : Bool :=
  r.first ≤ n && n ≤ r.last && (n - r.first) % r.stride == 0

end Row

namespace Table

def ofText (s : String) : Table := (Text.words s).map Row.ofText

def row? (t : Table) (c : Char) : Option Row := t.find? (·.covers c.toNat)

def holds (t : Table) (c : Char) : Bool := t.any (·.covers c.toNat)

def value? (t : Table) (c : Char) : Option Nat := (t.row? c).bind (·.numbers.head?)

def image? (t : Table) (c : Char) : Option (List Char) :=
  (t.row? c).map fun r => r.numbers.map fun m => Char.ofNat (m + (c.toNat - r.first))

end Table

end ApiTypings.Unicode
