import ApiTypings.Unicode.Decomposition

/-!
# Normal form

Texts that look the same can be made up of different characters. In the composed
normal form a text is decomposed as far as possible, marks behind the same base are put
in the order of their classes, and each mark is then composed with its base if there is
a character for both and no mark of its own class or a higher one in between.
-/

namespace ApiTypings.Unicode

/-! ## Hangul syllables -/

/-- The leading consonant, the vowel and the trailing consonant of a syllable. -/
def syllableParts (n : Nat) : List Nat :=
  let k := n - 0xAC00
  [0x1100 + k / 588, 0x1161 + k % 588 / 28] ++ (if k % 28 = 0 then [] else [0x11A7 + k % 28])

def isSyllable (n : Nat) : Bool := 0xAC00 ≤ n && n ≤ 0xD7A3

def syllable? (a b : Nat) : Option Nat :=
  if 0x1100 ≤ a && a ≤ 0x1112 && 0x1161 ≤ b && b ≤ 0x1175 then
    some (0xAC00 + ((a - 0x1100) * 21 + (b - 0x1161)) * 28)
  else if isSyllable a && (a - 0xAC00) % 28 == 0 && 0x11A8 ≤ b && b ≤ 0x11C2 then
    some (a + (b - 0x11A7))
  else none

/-! ## Decomposition -/

/-- Decomposes a character in at most so many steps. -/
def decomposeWithin : Nat → Char → List Char
  | 0, c => [c]
  | steps + 1, c =>
    if c.toNat < 0xC0 then [c]
    else if isSyllable c.toNat then (syllableParts c.toNat).map Char.ofNat
    else
      match singletons.image? c with
      | some cs => cs
      | none =>
        match composites.image? c with
        | some cs => cs.flatMap (decomposeWithin steps)
        | none => [c]

/-- The full decomposition of a character. No character needs more than three steps. -/
def decompose (c : Char) : List Char := decomposeWithin 3 c

/-! ## Order -/

def combiningClass (c : Char) : Nat := if c.toNat < 0x300 then 0 else (classes.value? c).getD 0

/-- Puts a character in front of a text whose marks are in order. -/
def place (c : Char) : List Char → List Char
  | [] => [c]
  | d :: rest =>
    if 0 < combiningClass d && combiningClass d < combiningClass c then d :: place c rest
    else c :: d :: rest

/-- Puts marks in the order of their classes. -/
def inOrder : List Char → List Char
  | [] => []
  | c :: rest => place c (inOrder rest)

/-! ## Composition -/

/-- The character that two others compose to. -/
def composite? (a b : Char) : Option Char :=
  match syllable? a.toNat b.toNat with
  | some n => some (Char.ofNat n)
  | none =>
    (composites.find? fun r => r.numbers == [a.toNat, b.toNat]).map fun r => Char.ofNat r.first

/-- Composes what follows with a base. The marks that stay are given in reverse. -/
def composeWith (base : Char) (stayed : List Char) : List Char → List Char
  | [] => base :: stayed.reverse
  | c :: rest =>
    let k := combiningClass c
    let free := stayed.head?.all (combiningClass · < k)
    match if free then composite? base c else none with
    | some d => composeWith d stayed rest
    | none =>
      if k = 0 then base :: stayed.reverse ++ composeWith c [] rest
      else composeWith base (c :: stayed) rest

def compose : List Char → List Char
  | [] => []
  | c :: rest => composeWith c [] rest

/-- The composed normal form. -/
def normalized (cs : List Char) : List Char := compose (inOrder (cs.flatMap decompose))

end ApiTypings.Unicode
