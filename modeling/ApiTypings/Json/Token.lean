import ApiTypings.Json.Basic

/-!
# JSON tokens

The lexical level of RFC 8259, read strictly: no comments, no leading zeros, no
raw control characters in strings, no escape that names half of a surrogate pair,
and only space, tab, line feed and carriage return between tokens.

A number with a fraction or an exponent is read as a significand of at most 64
bits, scaled by a power of ten. Digits that no longer fit the significand only
move the exponent when they stand before the point, and are dropped after it. A
number beyond the largest floating point number is refused.
-/

namespace ApiTypings.Json

open Number

inductive Token where
  | openArray
  | closeArray
  | openObject
  | closeObject
  | comma
  | colon
  | text (s : String)
  | scalar (value : Json)
  deriving BEq, Repr

namespace Token

def isSpace (c : Char) : Bool := c == ' ' || c == '\t' || c == '\n' || c == '\r'

def digitValue (c : Char) : Nat := c.toNat - '0'.toNat

def hexValue? (c : Char) : Option Nat :=
  if c.isDigit then some (c.toNat - '0'.toNat)
  else if 'a' ≤ c && c ≤ 'f' then some (c.toNat - 'a'.toNat + 10)
  else if 'A' ≤ c && c ≤ 'F' then some (c.toNat - 'A'.toNat + 10)
  else none

def hexFour? : List Char → Option (Nat × List Char)
  | a :: b :: c :: d :: rest => do
    let a ← hexValue? a
    let b ← hexValue? b
    let c ← hexValue? c
    let d ← hexValue? d
    some (((a * 16 + b) * 16 + c) * 16 + d, rest)
  | _ => none

def letterEscape? (c : Char) : Option Char :=
  if c == '"' || c == '\\' || c == '/' then some c
  else if c == 'b' then some '\x08'
  else if c == 'f' then some '\x0c'
  else if c == 'n' then some '\n'
  else if c == 'r' then some '\r'
  else if c == 't' then some '\t'
  else none

/-- The character an escape stands for; the input starts after the backslash. -/
def readEscape : List Char → Option (Char × List Char)
  | [] => none
  | c :: rest =>
    if c == 'u' then
      match hexFour? rest with
      | none => none
      | some (n, rest) =>
        if 0xD800 ≤ n && n < 0xDC00 then
          match rest with
          | '\\' :: 'u' :: rest =>
            match hexFour? rest with
            | none => none
            | some (m, rest) =>
              if 0xDC00 ≤ m && m < 0xE000 then
                some (Char.ofNat (0x10000 + (n - 0xD800) * 0x400 + (m - 0xDC00)), rest)
              else none
          | _ => none
        else if 0xDC00 ≤ n && n < 0xE000 then none
        else some (Char.ofNat n, rest)
    else (letterEscape? c).map (·, rest)

theorem hexFour?_length {cs rest : List Char} {n : Nat} (h : hexFour? cs = some (n, rest)) :
    rest.length < cs.length := by
  match cs with
  | a :: b :: c :: d :: r =>
    simp only [hexFour?, Option.bind_eq_bind, Option.bind_eq_some_iff, Option.some.injEq,
      Prod.mk.injEq] at h
    obtain ⟨_, _, _, _, _, _, _, _, _, rfl⟩ := h
    simp only [List.length_cons]
    omega
  | [] | [_] | [_, _] | [_, _, _] => simp [hexFour?] at h

theorem readEscape_length {cs rest : List Char} {c : Char} (h : readEscape cs = some (c, rest)) :
    rest.length < cs.length := by
  unfold readEscape at h
  split at h
  · simp at h
  · split at h
    · split at h
      · simp at h
      · next n r hr =>
        have h₁ := hexFour?_length hr
        split at h
        · split at h
          · split at h
            · simp at h
            · next m r' hr' =>
              have h₂ := hexFour?_length hr'
              split at h
              · simp only [Option.some.injEq, Prod.mk.injEq] at h
                obtain ⟨_, rfl⟩ := h
                simp only [List.length_cons] at *
                omega
              · simp at h
          · simp at h
        · split at h
          · simp at h
          · simp only [Option.some.injEq, Prod.mk.injEq] at h
            obtain ⟨_, rfl⟩ := h
            simp only [List.length_cons] at *
            omega
    · simp only [Option.map_eq_some_iff, Prod.mk.injEq] at h
      obtain ⟨_, _, _, rfl⟩ := h
      simp

/-- The characters of a string and what follows its closing quote; the input
starts after the opening quote. -/
def readString (cs : List Char) : Option (List Char × List Char) :=
  match cs with
  | [] => none
  | c :: rest =>
    if c == '"' then some ([], rest)
    else if c == '\\' then
      match _h : readEscape rest with
      | none => none
      | some (d, rest') => (readString rest').map fun (s, r) => (d :: s, r)
    else if c.toNat < 0x20 then none
    else (readString rest).map fun (s, r) => (c :: s, r)
termination_by cs.length
decreasing_by
  · have := readEscape_length _h
    simp only [List.length_cons]
    omega
  · simp

theorem readString_length {cs s rest : List Char} (h : readString cs = some (s, rest)) :
    rest.length < cs.length := by
  fun_induction readString cs generalizing s rest with
  | case1 => simp at h
  | case2 c r => simp_all
  | case3 => simp at h
  | case4 c r _ _ d r' hr ih =>
    simp only [Option.map_eq_some_iff, Prod.mk.injEq, Prod.exists] at h
    obtain ⟨_, _, h, _, rfl⟩ := h
    have := ih h
    have := readEscape_length hr
    simp only [List.length_cons]
    omega
  | case5 => simp at h
  | case6 c r _ _ _ ih =>
    simp only [Option.map_eq_some_iff, Prod.mk.injEq, Prod.exists] at h
    obtain ⟨_, _, h, _, rfl⟩ := h
    have := ih h
    simp only [List.length_cons]
    omega

def maxSignificand : Nat := Nat.pow 2 64 - 1

/-- Takes digits into a significand while they fit, and counts the others. -/
def absorb (significand : Nat) : List Char → Nat × Nat
  | [] => (significand, 0)
  | d :: ds =>
    let next := significand * 10 + digitValue d
    if next ≤ maxSignificand then absorb next ds else (significand, ds.length + 1)

/-- The spelling of a number, taken apart. -/
structure Numeral where
  negative : Bool
  whole : List Char
  fraction : Option (List Char)
  exponent : Option (Bool × List Char)
  deriving Repr

def natOfDigits (ds : List Char) : Nat := ds.foldl (fun n d => n * 10 + digitValue d) 0

/-- The number a spelling stands for. -/
def Numeral.value? (x : Numeral) : Option Json :=
  let (whole, beyond) := absorb 0 x.whole
  if beyond == 0 && x.fraction.isNone && x.exponent.isNone &&
      (!x.negative || (0 < whole && whole ≤ Nat.pow 2 63)) then
    some (.int (if x.negative then -whole else whole))
  else
    let fraction := x.fraction.getD []
    let (significand, dropped) := absorb whole fraction
    let shift : Int := beyond - (fraction.length - dropped : Nat)
    let power : Int :=
      match x.exponent with
      | none => 0
      | some (negative, ds) => if negative then -(natOfDigits ds : Int) else natOfDigits ds
    ((Binary64.ofNat significand).scaleTen (shift + power)).map fun y =>
      .double (if x.negative then y.neg else y)

def readFraction (cs : List Char) : Option (Option (List Char) × List Char) :=
  match cs with
  | '.' :: rest =>
    let ds := rest.takeWhile Char.isDigit
    if ds.isEmpty then none else some (some ds, rest.dropWhile Char.isDigit)
  | _ => some (none, cs)

/-- The sign in front of an exponent; without one it is positive. -/
def readSign : List Char → Bool × List Char
  | '-' :: rest => (true, rest)
  | '+' :: rest => (false, rest)
  | rest => (false, rest)

/-- The exponent of a number, when the letter for it comes next. -/
def readExponent (cs : List Char) : Option (Option (Bool × List Char) × List Char) :=
  match cs with
  | [] => some (none, [])
  | c :: rest =>
    if c == 'e' || c == 'E' then
      let (negative, rest) := readSign rest
      let ds := rest.takeWhile Char.isDigit
      if ds.isEmpty then none else some (some (negative, ds), rest.dropWhile Char.isDigit)
    else some (none, cs)

/-- The spelling of a number without its sign. -/
def readUnsigned (negative : Bool) (cs : List Char) : Option (Numeral × List Char) :=
  let whole := cs.takeWhile Char.isDigit
  if whole.isEmpty || (whole.head? == some '0' && 1 < whole.length) then none
  else do
    let (fraction, rest) ← readFraction (cs.dropWhile Char.isDigit)
    let (exponent, rest) ← readExponent rest
    some (⟨negative, whole, fraction, exponent⟩, rest)

def readNumeral : List Char → Option (Numeral × List Char)
  | '-' :: rest => readUnsigned true rest
  | cs => readUnsigned false cs

theorem length_dropWhile_le (p : Char → Bool) (cs : List Char) :
    (cs.dropWhile p).length ≤ cs.length := (List.dropWhile_sublist p).length_le

theorem readFraction_length {cs rest : List Char} {f : Option (List Char)}
    (h : readFraction cs = some (f, rest)) : rest.length ≤ cs.length := by
  unfold readFraction at h
  split at h
  · next r =>
    have := length_dropWhile_le Char.isDigit r
    grind
  · grind

theorem readSign_length (cs : List Char) : (readSign cs).2.length ≤ cs.length := by
  unfold readSign
  split <;> simp

theorem readExponent_length {cs rest : List Char} {e : Option (Bool × List Char)}
    (h : readExponent cs = some (e, rest)) : rest.length ≤ cs.length := by
  unfold readExponent at h
  split at h
  · grind
  · next c r =>
    have := readSign_length r
    have := length_dropWhile_le Char.isDigit (readSign r).2
    grind

theorem length_dropWhile_lt {cs : List Char} (h : (cs.takeWhile Char.isDigit).isEmpty = false) :
    (cs.dropWhile Char.isDigit).length < cs.length := by
  have := congrArg List.length (List.takeWhile_append_dropWhile (p := Char.isDigit) (l := cs))
  have : 0 < (cs.takeWhile Char.isDigit).length := by
    cases hc : cs.takeWhile Char.isDigit <;> simp_all
  simp only [List.length_append] at *
  omega

theorem readUnsigned_length {negative : Bool} {cs rest : List Char} {x : Numeral}
    (h : readUnsigned negative cs = some (x, rest)) : rest.length < cs.length := by
  unfold readUnsigned at h
  simp only [Option.bind_eq_bind] at h
  split at h
  · simp at h
  · next hw =>
    simp only [Bool.or_eq_true, not_or, Bool.not_eq_true] at hw
    have := length_dropWhile_lt hw.1
    simp only [Option.bind_eq_some_iff, Prod.exists, Option.some.injEq, Prod.mk.injEq] at h
    obtain ⟨_, _, hf, _, _, he, _, rfl⟩ := h
    have := readFraction_length hf
    have := readExponent_length he
    omega

theorem readNumeral_length {cs rest : List Char} {x : Numeral}
    (h : readNumeral cs = some (x, rest)) : rest.length < cs.length := by
  unfold readNumeral at h
  split at h
  · have := readUnsigned_length h
    simp only [List.length_cons]
    omega
  · exact readUnsigned_length h

def ofMark? (c : Char) : Option Token :=
  if c == '[' then some openArray
  else if c == ']' then some closeArray
  else if c == '\x7b' then some openObject
  else if c == '\x7d' then some closeObject
  else if c == ',' then some comma
  else if c == ':' then some colon
  else none

/-- The next token of a text that starts with neither space nor end. -/
def next (cs : List Char) : Option (Token × List Char) :=
  match cs with
  | [] => none
  | 't' :: 'r' :: 'u' :: 'e' :: rest => some (scalar (.bool true), rest)
  | 'f' :: 'a' :: 'l' :: 's' :: 'e' :: rest => some (scalar (.bool false), rest)
  | 'n' :: 'u' :: 'l' :: 'l' :: rest => some (scalar .null, rest)
  | c :: rest =>
    match ofMark? c with
    | some t => some (t, rest)
    | none =>
      if c == '"' then (readString rest).map fun (s, r) => (text (.ofList s), r)
      else do
        let (x, r) ← readNumeral cs
        let v ← x.value?
        some (scalar v, r)

theorem next_length {cs rest : List Char} {t : Token} (h : next cs = some (t, rest)) :
    rest.length < cs.length := by
  unfold next at h
  split at h
  · simp at h
  · grind
  · grind
  · grind
  · next c r _ _ _ =>
    split at h
    · grind
    · split at h
      · simp only [Option.map_eq_some_iff, Prod.mk.injEq, Prod.exists] at h
        obtain ⟨_, _, h, _, rfl⟩ := h
        have := readString_length h
        simp only [List.length_cons]
        omega
      · simp only [Option.bind_eq_bind, Option.bind_eq_some_iff, Prod.exists, Option.some.injEq,
          Prod.mk.injEq] at h
        obtain ⟨_, _, h, _, _, _, rfl⟩ := h
        exact readNumeral_length h

def scan (cs : List Char) : Option (List Token) :=
  match cs with
  | [] => some []
  | c :: rest =>
    if isSpace c then scan rest
    else
      match _h : next (c :: rest) with
      | none => none
      | some (t, r) => (scan r).map (t :: ·)
termination_by cs.length
decreasing_by
  · simp
  · have := next_length _h
    simpa using this

end Token

end ApiTypings.Json
