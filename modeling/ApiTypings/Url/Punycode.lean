import ApiTypings.Text.Basic

/-!
# Punycode

The ASCII form of a label with characters outside ASCII. The ASCII characters
come first; each further character, in ascending order, is given by how far an
enumeration of all insertions has to advance to reach it. The distances are
numbers in base 36 of variable length, with thresholds that adapt to the
distances so far. Reading a label back inserts the characters one by one.
-/

namespace ApiTypings.Url.Punycode

/-- The digits are `a` to `z` and `0` to `9`. -/
def digit (d : Nat) : Char := Char.ofNat (if d < 26 then d + 97 else d + 22)

def digitValue? (c : Char) : Option Nat :=
  if 'a' ≤ c && c ≤ 'z' then some (c.toNat - 97)
  else if c.isDigit then some (c.toNat - 22)
  else none

/-- The threshold of a digit, the first place being 36. -/
def threshold (place bias : Nat) : Nat :=
  if place ≤ bias then 1 else if bias + 26 ≤ place then 26 else place - bias

/-- Divides by 35 until the number is small, counting 36 for each division. -/
def shrink (delta : Nat) (places : Nat) : Nat × Nat :=
  if delta ≤ 455 then (delta, places) else shrink (delta / 35) (places + 36)
termination_by delta
decreasing_by omega

/-- The bias after a distance. -/
def adapt (delta count : Nat) (first : Bool) : Nat :=
  let delta := if first then delta / 700 else delta / 2
  let (delta, places) := shrink (delta + delta / count) 0
  places + 36 * delta / (delta + 38)

/-- A distance in digits, with one digit for each unit of fuel at most. -/
def distance (bias : Nat) : Nat → Nat → Nat → List Char
  | 0, _, q => [digit q]
  | fuel + 1, place, q =>
    let t := threshold place bias
    if q < t then [digit q]
    else digit (t + (q - t) % (36 - t)) :: distance bias fuel (place + 36) ((q - t) / (36 - t))

structure State where
  output : List Char
  delta : Nat
  bias : Nat
  handled : Nat

/-- One character of the label while characters equal to `m` are inserted. -/
def visit (basic m : Nat) (st : State) (c : Char) : State :=
  if c.toNat < m then { st with delta := st.delta + 1 }
  else if c.toNat = m then
    ⟨st.output ++ distance st.bias st.delta 36 st.delta, 0,
      adapt st.delta (st.handled + 1) (st.handled == basic), st.handled + 1⟩
  else st

/-- Inserts the characters with the given numbers, which ascend. -/
def insertAll (label : List Char) (basic : Nat) : List Nat → Nat → State → State
  | [], _, st => st
  | m :: rest, n, st =>
    let st := { st with delta := st.delta + (m - n) * (st.handled + 1) }
    let st := label.foldl (visit basic m) st
    insertAll label basic rest (m + 1) { st with delta := st.delta + 1 }

def insertNumber (n : Nat) : List Nat → List Nat
  | [] => [n]
  | m :: rest =>
    if n < m then n :: m :: rest
    else if n = m then m :: rest
    else m :: insertNumber n rest

def encode (label : List Char) : List Char :=
  let ascii := label.filter (·.toNat < 0x80)
  let others := (label.filter (0x80 ≤ ·.toNat)).map Char.toNat
  let st := insertAll label ascii.length (others.foldr insertNumber []) 128
    ⟨[], 0, 72, ascii.length⟩
  ascii ++ (if ascii.isEmpty then [] else ['-']) ++ st.output

/-- The distance that a text starts with, and what follows it. The first digit has the
given weight. -/
def distance? (bias place weight : Nat) : List Char → Option (Nat × List Char)
  | [] => none
  | c :: rest =>
    match digitValue? c with
    | none => none
    | some d =>
      let t := threshold place bias
      if d < t then some (d * weight, rest)
      else
        (distance? bias (place + 36) (weight * (36 - t)) rest).map fun (more, rest) =>
          (d * weight + more, rest)

/-- A distance has at least one digit. -/
theorem length_lt_of_distance? {bias place weight : Nat} {cs rest : List Char} {n : Nat}
    (h : distance? bias place weight cs = some (n, rest)) : rest.length < cs.length := by
  induction cs generalizing place weight n with
  | nil => simp [distance?] at h
  | cons c cs ih =>
    simp only [distance?] at h
    split at h
    · simp at h
    · split at h
      · simp_all
      · obtain ⟨⟨more, rest'⟩, hmore, heq⟩ := Option.map_eq_some_iff.1 h
        simp only [Prod.mk.injEq] at heq
        have := ih (heq.2 ▸ hmore)
        simp only [List.length_cons]
        omega

/-- The character with a number, if there is one. -/
def character? (n : Nat) : Option Char :=
  if n.isValidChar then some (Char.ofNat n) else none

/-- A label with further characters inserted. The enumeration of insertions has come to a
place in the label and a character's number. -/
def insertFrom (label : List Char) (place number bias : Nat) (cs : List Char) :
    Option (List Char) :=
  if cs.isEmpty then some label
  else
    match _h : distance? bias 36 1 cs with
    | none => none
    | some (delta, rest) =>
      let count := label.length + 1
      let number := number + (place + delta) / count
      let here := (place + delta) % count
      match character? number with
      | none => none
      | some c =>
        insertFrom (label.insertIdx here c) (here + 1) number (adapt delta count (place == 0)) rest
termination_by cs.length
decreasing_by exact length_lt_of_distance? ‹_›

/-- The label with a Punycode form, unless there is none. -/
def decode? (cs : List Char) : Option (List Char) :=
  match Text.splitFirst (· == '-') cs.reverse with
  | (distances, some (c :: ascii)) => insertFrom (c :: ascii).reverse 0 128 72 distances.reverse
  | _ => insertFrom [] 0 128 72 cs

end ApiTypings.Url.Punycode
