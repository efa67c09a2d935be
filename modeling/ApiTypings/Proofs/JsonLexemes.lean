import ApiTypings.Proofs.JsonTokens

/-!
# The words of JSON text

The grammar of RFC 8259 for what stands between blanks: marks, words, numbers and strings, each
with all the ways in which it may be written. A string is a list of pieces, which are characters
or code units of UTF-16; a number is taken apart into its digits.

The reader cuts a text into the words it is written in. Two kinds of words have no token: a number
beyond the floating point numbers, and a string with half of a surrogate pair in it.
-/

namespace ApiTypings.Json

/-! ## Strings -/

/-- What a string is written of: a character, or a code unit by its number. -/
inductive Piece where
  | char (c : Char)
  | unit (n : Nat)

namespace Piece

/-- The letters that stand for characters behind a backslash. -/
def letters : List (Char × Char) :=
  [('"', '"'), ('\\', '\\'), ('/', '/'), ('b', '\x08'), ('f', '\x0c'), ('n', '\n'), ('r', '\r'),
    ('t', '\t')]

/-- A hexadecimal digit may be a small or a capital letter. -/
def IsHex (c : Char) (n : Nat) : Prop := n < 16 ∧ (c = hexDigit n ∨ c = (hexDigit n).toUpper)

inductive Spells : Piece → List Char → Prop
  | plain {c : Char} : c ≠ '"' → c ≠ '\\' → 0x20 ≤ c.toNat → Spells (.char c) [c]
  | letter {l c : Char} : (l, c) ∈ letters → Spells (.char c) ['\\', l]
  | unit {c₁ c₂ c₃ c₄ : Char} {n₁ n₂ n₃ n₄ : Nat} : IsHex c₁ n₁ → IsHex c₂ n₂ → IsHex c₃ n₃ →
      IsHex c₄ n₄ →
      Spells (.unit (((n₁ * 16 + n₂) * 16 + n₃) * 16 + n₄)) ['\\', 'u', c₁, c₂, c₃, c₄]

/-- The first and the second half of a surrogate pair. -/
def isHigh (n : Nat) : Bool := 0xD800 ≤ n && n < 0xDC00

def isLow (n : Nat) : Bool := 0xDC00 ≤ n && n < 0xE000

/-- The characters that pieces stand for. Halves of a surrogate pair stand for one together, and
for none by themselves. -/
def chars? : List Piece → Option (List Char)
  | [] => some []
  | .char c :: ps => (chars? ps).map (c :: ·)
  | .unit n :: ps =>
    if isHigh n then
      match ps with
      | .unit m :: ps =>
        if isLow m then
          (chars? ps).map (Char.ofNat (0x10000 + (n - 0xD800) * 0x400 + (m - 0xDC00)) :: ·)
        else none
      | _ => none
    else if isLow n then none
    else (chars? ps).map (Char.ofNat n :: ·)

inductive SpellsAll : List Piece → List Char → Prop
  | nil : SpellsAll [] []
  | cons {p : Piece} {ps : List Piece} {cs cs' : List Char} : p.Spells cs → SpellsAll ps cs' →
      SpellsAll (p :: ps) (cs ++ cs')

end Piece

namespace Token

open Piece

theorem hexValue?_of_isHex {c : Char} {n : Nat} (h : IsHex c n) : hexValue? c = some n := by
  obtain ⟨hn, rfl | rfl⟩ := h
  · exact hexValue?_hexDigit hn
  · decide +revert

theorem hexFour?_of_isHex {c₁ c₂ c₃ c₄ : Char} {n₁ n₂ n₃ n₄ : Nat} (h₁ : IsHex c₁ n₁)
    (h₂ : IsHex c₂ n₂) (h₃ : IsHex c₃ n₃) (h₄ : IsHex c₄ n₄) (rest : List Char) :
    hexFour? (c₁ :: c₂ :: c₃ :: c₄ :: rest) =
      some (((n₁ * 16 + n₂) * 16 + n₃) * 16 + n₄, rest) := by
  simp only [hexFour?, hexValue?_of_isHex h₁, hexValue?_of_isHex h₂, hexValue?_of_isHex h₃,
    hexValue?_of_isHex h₄, Option.bind_eq_bind, Option.bind_some]

theorem letterEscape?_of_mem {l c : Char} (h : (l, c) ∈ letters) :
    l ≠ 'u' ∧ letterEscape? l = some c := by
  simp only [letters, List.mem_cons, Prod.mk.injEq, List.not_mem_nil, or_false] at h
  rcases h with ⟨rfl, rfl⟩ | ⟨rfl, rfl⟩ | ⟨rfl, rfl⟩ | ⟨rfl, rfl⟩ | ⟨rfl, rfl⟩ | ⟨rfl, rfl⟩ |
    ⟨rfl, rfl⟩ | ⟨rfl, rfl⟩ <;> exact ⟨by decide, rfl⟩

theorem readString_escape {c : Char} {cs rest : List Char} (h : readEscape cs = some (c, rest)) :
    readString ('\\' :: cs) = (readString rest).map fun (s, r) => (c :: s, r) := by
  rw [readString, if_neg (by decide), if_pos (beq_self_eq_true _)]
  split
  · next hnone =>
    rw [hnone] at h
    cases h
  · next hsome =>
    cases h.symm.trans hsome
    rfl

theorem readString_no_escape {cs : List Char} (h : readEscape cs = none) :
    readString ('\\' :: cs) = none := by
  rw [readString, if_neg (by decide), if_pos (beq_self_eq_true _)]
  split
  · rfl
  · next hsome =>
    rw [hsome] at h
    cases h

/-- A piece that is a character is read as the character. -/
theorem readString_char {c : Char} {cs : List Char} (h : Spells (.char c) cs) (rest : List Char) :
    readString (cs ++ rest) = (readString rest).map fun (s, r) => (c :: s, r) := by
  cases h with
  | plain hquote hbackslash hcontrol =>
    rw [List.singleton_append, readString]
    simp [hquote, hbackslash, Nat.not_lt.mpr hcontrol]
  | letter hletter =>
    obtain ⟨hne, hescape⟩ := letterEscape?_of_mem hletter
    exact readString_escape (by simp [readEscape, hne, hescape])

section Unit

variable {n m : Nat} {cs cs' rest : List Char}

theorem readEscape_single (h : hexFour? cs = some (n, rest)) (hhigh : ¬ isHigh n = true) :
    readEscape ('u' :: cs) = if isLow n then none else some (Char.ofNat n, rest) := by
  rw [readEscape, if_pos (beq_self_eq_true _), h]
  exact if_neg hhigh

theorem readEscape_pair (h : hexFour? cs = some (n, '\\' :: 'u' :: cs')) (hhigh : isHigh n = true)
    (h' : hexFour? cs' = some (m, rest)) :
    readEscape ('u' :: cs) =
      if isLow m then some (Char.ofNat (0x10000 + (n - 0xD800) * 0x400 + (m - 0xDC00)), rest)
      else none := by
  rw [readEscape, if_pos (beq_self_eq_true _), h]
  refine (if_pos hhigh).trans ?_
  simp only [h']
  rfl

theorem readEscape_half (h : hexFour? cs = some (n, rest)) (hhigh : isHigh n = true)
    (hrest : ∀ cs', rest ≠ '\\' :: 'u' :: cs') : readEscape ('u' :: cs) = none := by
  rw [readEscape, if_pos (beq_self_eq_true _), h]
  refine (if_pos hhigh).trans ?_
  split
  · next cs' => exact (hrest cs' rfl).elim
  · rfl

/-- A code unit is written as its number behind a mark. -/
theorem spells_unit (h : Spells (.unit n) cs) :
    ∃ ds, cs = '\\' :: 'u' :: ds ∧ ∀ rest, hexFour? (ds ++ rest) = some (n, rest) := by
  cases h with
  | unit h₁ h₂ h₃ h₄ => exact ⟨_, rfl, hexFour?_of_isHex h₁ h₂ h₃ h₄⟩

end Unit

/-- Only a code unit is written with the mark of one. -/
theorem not_unit_mark {ps : List Piece} {cs : List Char} (h : SpellsAll ps cs)
    (hps : ∀ n ps', ps ≠ .unit n :: ps') (rest cs' : List Char) :
    cs ++ '"' :: rest ≠ '\\' :: 'u' :: cs' := by
  cases h with
  | nil => simp
  | cons hpiece _ =>
    cases hpiece with
    | plain _ hbackslash _ => simp [hbackslash]
    | letter hletter => simp [(letterEscape?_of_mem hletter).1]
    | unit => exact (hps _ _ rfl).elim

/-- The pieces of a string are read as the characters that they stand for. -/
theorem readString_pieces {ps : List Piece} {cs : List Char} (h : SpellsAll ps cs)
    (rest : List Char) :
    readString (cs ++ '"' :: rest) = (chars? ps).map fun s => (s, rest) := by
  fun_induction chars? ps generalizing cs with
  | case1 =>
    cases h
    rw [List.nil_append, readString, if_pos (beq_self_eq_true _), Option.map_some]
  | case2 c ps ih =>
    cases h with
    | cons hpiece hrest =>
      rw [List.append_assoc, readString_char hpiece, ih hrest, Option.map_map, Option.map_map]
      rfl
  | case3 n hhigh m ps hlow ih =>
    rcases h with _ | ⟨hn, _ | ⟨hm, hrest⟩⟩
    obtain ⟨ds, rfl, hds⟩ := spells_unit hn
    obtain ⟨ds', rfl, hds'⟩ := spells_unit hm
    simp only [List.append_assoc, List.cons_append]
    rw [readString_escape ((readEscape_pair (hds _) hhigh (hds' _)).trans (if_pos hlow)),
      ih hrest, Option.map_map, Option.map_map]
    rfl
  | case4 n hhigh m ps hlow =>
    rcases h with _ | ⟨hn, _ | ⟨hm, hrest⟩⟩
    obtain ⟨ds, rfl, hds⟩ := spells_unit hn
    obtain ⟨ds', rfl, hds'⟩ := spells_unit hm
    simp only [List.append_assoc, List.cons_append]
    exact readString_no_escape ((readEscape_pair (hds _) hhigh (hds' _)).trans (if_neg hlow))
  | case5 n ps hhigh hother =>
    cases h with
    | cons hn hrest =>
      obtain ⟨ds, rfl, hds⟩ := spells_unit hn
      simp only [List.append_assoc, List.cons_append]
      exact readString_no_escape
        (readEscape_half (hds _) hhigh (not_unit_mark hrest hother rest))
  | case6 n ps hhigh hlow =>
    cases h with
    | cons hn hrest =>
      obtain ⟨ds, rfl, hds⟩ := spells_unit hn
      simp only [List.append_assoc, List.cons_append]
      exact readString_no_escape ((readEscape_single (hds _) hhigh).trans (if_pos hlow))
  | case7 n ps hhigh hlow ih =>
    cases h with
    | cons hn hrest =>
      obtain ⟨ds, rfl, hds⟩ := spells_unit hn
      simp only [List.append_assoc, List.cons_append]
      rw [readString_escape ((readEscape_single (hds _) hhigh).trans (if_neg hlow)), ih hrest,
        Option.map_map, Option.map_map]
      rfl

/-! ## Numbers -/

namespace Numeral

/-- One or more digits. -/
structure IsDigits (ds : List Char) : Prop where
  ne_nil : ds ≠ []
  digits : ∀ d ∈ ds, d.isDigit = true

inductive SpellsFraction : Option (List Char) → List Char → Prop
  | none : SpellsFraction none []
  | point {ds : List Char} : IsDigits ds → SpellsFraction (some ds) ('.' :: ds)

inductive SpellsSign : Bool → List Char → Prop
  | none : SpellsSign false []
  | plus : SpellsSign false ['+']
  | minus : SpellsSign true ['-']

inductive SpellsExponent : Option (Bool × List Char) → List Char → Prop
  | none : SpellsExponent none []
  | letter {e : Char} {negative : Bool} {sign ds : List Char} : e = 'e' ∨ e = 'E' →
      SpellsSign negative sign → IsDigits ds →
      SpellsExponent (some (negative, ds)) (e :: (sign ++ ds))

/-- How a number is written. It begins with a zero only if nothing but a fraction or an exponent
follows. -/
inductive Spells : Numeral → List Char → Prop
  | mk {negative : Bool} {whole fraction exponent : List Char} {f : Option (List Char)}
      {e : Option (Bool × List Char)} :
      IsDigits whole → (whole.head? = some '0' → whole = ['0']) → SpellsFraction f fraction →
      SpellsExponent e exponent →
      Spells ⟨negative, whole, f, e⟩
        ((if negative then ['-'] else []) ++ (whole ++ (fraction ++ exponent)))

end Numeral

open Numeral

def NoDigit (cs : List Char) : Prop := ∀ c ∈ cs.head?, c.isDigit = false

theorem Ends.noDigit {cs : List Char} (h : Ends cs) : NoDigit cs := fun c hc => (h c hc).1

/-- Digits are taken up to where they end. -/
theorem Numeral.IsDigits.span {ds rest : List Char} (h : IsDigits ds) (hrest : NoDigit rest) :
    (ds ++ rest).takeWhile Char.isDigit = ds ∧ (ds ++ rest).dropWhile Char.isDigit = rest ∧
      ds.isEmpty = false := by
  rw [List.takeWhile_append_of_pos h.digits, List.dropWhile_append_of_pos h.digits]
  refine ⟨?_, ?_, List.isEmpty_eq_false_iff.mpr h.ne_nil⟩
  · cases rest with
    | nil => exact List.append_nil ds
    | cons c cs => simp [hrest c rfl]
  · cases rest with
    | nil => rfl
    | cons c cs => simp [hrest c rfl]

/-- Digits begin with no other character. -/
theorem Numeral.IsDigits.ne_cons {ds rest cs : List Char} (h : IsDigits ds) {c : Char}
    (hc : c.isDigit = false) : ds ++ rest ≠ c :: cs := by
  obtain ⟨d, ds, rfl⟩ := List.exists_cons_of_ne_nil h.ne_nil
  rintro heq
  cases heq
  exact Bool.false_ne_true (hc.symm.trans (h.digits c List.mem_cons_self))

theorem readSign_spells {negative : Bool} {sign ds : List Char} (h : SpellsSign negative sign)
    (hds : IsDigits ds) (rest : List Char) :
    readSign (sign ++ (ds ++ rest)) = (negative, ds ++ rest) := by
  cases h with
  | none =>
    unfold readSign
    split
    · next heq => exact (hds.ne_cons rfl heq).elim
    · next heq => exact (hds.ne_cons rfl heq).elim
    · rfl
  | plus => rfl
  | minus => rfl

theorem readExponent_spells {e : Option (Bool × List Char)} {cs rest : List Char}
    (h : SpellsExponent e cs) (hrest : Ends rest) : readExponent (cs ++ rest) = some (e, rest) := by
  cases h with
  | none =>
    cases rest with
    | nil => rfl
    | cons c cs =>
      obtain ⟨_, _, he, hE⟩ := hrest c rfl
      simp [readExponent, he, hE]
  | letter hletter hsign hds =>
    obtain ⟨htake, hdrop, hsome⟩ := hds.span hrest.noDigit
    rw [List.cons_append, List.append_assoc, readExponent, if_pos (by simpa using hletter)]
    simp only [readSign_spells hsign hds, htake, hdrop, hsome, Bool.false_eq_true, if_false]

theorem noDigit_exponent {e : Option (Bool × List Char)} {cs rest : List Char}
    (h : SpellsExponent e cs) (hrest : Ends rest) :
    NoDigit (cs ++ rest) ∧ ∀ cs', cs ++ rest ≠ '.' :: cs' := by
  cases h with
  | none =>
    refine ⟨hrest.noDigit, ?_⟩
    rintro cs' rfl
    exact (hrest '.' rfl).2.1 rfl
  | letter hletter _ _ =>
    rcases hletter with rfl | rfl <;> exact ⟨fun c hc => by cases hc; rfl, fun cs' heq => by cases heq⟩

theorem readFraction_spells {f : Option (List Char)} {cs rest : List Char}
    (h : SpellsFraction f cs) (hdigit : NoDigit rest) (hpoint : ∀ cs', rest ≠ '.' :: cs') :
    readFraction (cs ++ rest) = some (f, rest) := by
  cases h with
  | none =>
    unfold readFraction
    split
    · next heq => exact (hpoint _ heq).elim
    · rfl
  | point hds =>
    obtain ⟨htake, hdrop, hsome⟩ := hds.span hdigit
    rw [List.cons_append, readFraction]
    simp only [htake, hdrop, hsome, Bool.false_eq_true, if_false]

theorem noDigit_fraction {f : Option (List Char)} {cs rest : List Char}
    (h : SpellsFraction f cs) (hrest : NoDigit rest) : NoDigit (cs ++ rest) := by
  cases h with
  | none => exact hrest
  | point _ =>
    intro c hc
    cases hc
    rfl

/-- A number is read as it was taken apart, where it ends. -/
theorem readNumeral_spells {x : Numeral} {cs rest : List Char} (h : x.Spells cs)
    (hrest : Ends rest) : readNumeral (cs ++ rest) = some (x, rest) := by
  rcases h with @⟨negative, whole, fraction, exponent, f, e, hwhole, hzero, hfraction, hexponent⟩
  obtain ⟨hdigit, hpoint⟩ := noDigit_exponent hexponent hrest
  obtain ⟨htake, hdrop, hsome⟩ := hwhole.span (noDigit_fraction hfraction hdigit)
  have hone : (whole.head? == some '0' && decide (1 < whole.length)) = false := by
    by_cases hhead : whole.head? = some '0'
    · rw [hzero hhead]
      rfl
    · rw [beq_eq_false_iff_ne.mpr hhead, Bool.false_and]
  have hunsigned : readUnsigned negative (whole ++ (fraction ++ (exponent ++ rest))) =
      some (⟨negative, whole, f, e⟩, rest) := by
    unfold readUnsigned
    simp only [htake, hdrop, hsome, hone, Bool.or_self, Bool.false_eq_true, if_false,
      readFraction_spells hfraction hdigit hpoint, readExponent_spells hexponent hrest,
      Option.bind_eq_bind, Option.bind_some]
  simp only [List.append_assoc]
  cases negative with
  | true => exact hunsigned
  | false =>
    unfold readNumeral
    split
    · next heq => exact (hwhole.ne_cons rfl heq).elim
    · exact hunsigned

end Token

/-! ## Words -/

/-- What a text is made of, between blanks. -/
inductive Lexeme where
  | mark (t : Token)
  | word (v : Json)
  | number (x : Token.Numeral)
  | string (ps : List Piece)

namespace Lexeme

open Token

def marks : List (Char × Token) :=
  [('[', .openArray), (']', .closeArray), ('\x7b', .openObject), ('\x7d', .closeObject),
    (',', .comma), (':', .colon)]

def words : List (String × Json) := [("true", .bool true), ("false", .bool false), ("null", .null)]

inductive Spells : Lexeme → List Char → Prop
  | mark {c : Char} {t : Token} : (c, t) ∈ marks → Spells (.mark t) [c]
  | word {s : String} {v : Json} : (s, v) ∈ words → Spells (.word v) s.toList
  | number {x : Numeral} {cs : List Char} : x.Spells cs → Spells (.number x) cs
  | string {ps : List Piece} {cs : List Char} : Piece.SpellsAll ps cs →
      Spells (.string ps) ('"' :: (cs ++ ['"']))

/-- Numbers beyond all floating point numbers and strings with halves of pairs have no token. -/
def token? : Lexeme → Option Token
  | .mark t => some t
  | .word v => some (.scalar v)
  | .number x => x.value?.map .scalar
  | .string ps => (Piece.chars? ps).map fun s => .text (.ofList s)

def isMark : Lexeme → Bool
  | .mark _ => true
  | _ => false

def isNumber : Lexeme → Bool
  | .number _ => true
  | _ => false

def IsBlank (cs : List Char) : Prop := ∀ c ∈ cs, c ∈ [' ', '\t', '\n', '\r']

/-- A text of words, with blanks around them where one likes. -/
inductive SpellsAll : List Lexeme → List Char → Prop
  | nil {blanks : List Char} : IsBlank blanks → SpellsAll [] blanks
  | cons {l : Lexeme} {ls : List Lexeme} {blanks cs cs' : List Char} : IsBlank blanks →
      l.Spells cs → SpellsAll ls cs' → SpellsAll (l :: ls) (blanks ++ (cs ++ cs'))

/-- Numbers stand before marks only. -/
def Separated (ls : List Lexeme) : Prop :=
  ls.IsChain fun l l' => l.isNumber = true → l'.isMark = true

theorem ofMark?_of_mem {c : Char} {t : Token} (h : (c, t) ∈ marks) : ofMark? c = some t := by
  simp only [marks, List.mem_cons, Prod.mk.injEq, List.not_mem_nil, or_false] at h
  rcases h with ⟨rfl, rfl⟩ | ⟨rfl, rfl⟩ | ⟨rfl, rfl⟩ | ⟨rfl, rfl⟩ | ⟨rfl, rfl⟩ | ⟨rfl, rfl⟩ <;> rfl

theorem isSpace_of_mem {c : Char} (h : c ∈ [' ', '\t', '\n', '\r']) : isSpace c = true := by
  simp only [List.mem_cons, List.not_mem_nil, or_false] at h
  rcases h with rfl | rfl | rfl | rfl <;> rfl

theorem not_isDigit_of_isSpace {c : Char} (h : isSpace c = true) :
    c.isDigit = false ∧ c ≠ '-' := by
  simp only [isSpace, Bool.or_eq_true, beq_iff_eq] at h
  rcases h with ((rfl | rfl) | rfl) | rfl <;> exact ⟨rfl, by decide⟩

theorem ends_of_isBlank {blanks rest : List Char} (h : IsBlank blanks) (hrest : Ends rest) :
    Ends (blanks ++ rest) := by
  cases blanks with
  | nil => exact hrest
  | cons c blanks =>
    have hc := h c List.mem_cons_self
    simp only [List.mem_cons, List.not_mem_nil, or_false] at hc
    intro d hd
    cases hd
    rcases hc with rfl | rfl | rfl | rfl <;> decide

theorem scan_blanks {blanks : List Char} (h : IsBlank blanks) (cs : List Char) :
    scan (blanks ++ cs) = scan cs := by
  induction blanks with
  | nil => rfl
  | cons c blanks ih =>
    obtain ⟨hc, hblanks⟩ := List.forall_mem_cons.mp h
    rw [List.cons_append, scan, if_pos (isSpace_of_mem hc), ih hblanks]

theorem next_word {s : String} {v : Json} (h : (s, v) ∈ words) (rest : List Char) :
    ∃ c cs, s.toList = c :: cs ∧ isSpace c = false ∧
      next (s.toList ++ rest) = some (.scalar v, rest) := by
  simp only [words, List.mem_cons, Prod.mk.injEq, List.not_mem_nil, or_false] at h
  rcases h with ⟨rfl, rfl⟩ | ⟨rfl, rfl⟩ | ⟨rfl, rfl⟩ <;> exact ⟨_, _, rfl, rfl, rfl⟩

theorem head_number {x : Numeral} {cs : List Char} (h : x.Spells cs) :
    ∃ c cs', cs = c :: cs' ∧ (c.isDigit = true ∨ c = '-') := by
  rcases h with @⟨negative, whole, fraction, exponent, f, e, hwhole, _, _, _⟩
  cases negative with
  | true => exact ⟨_, _, rfl, .inr rfl⟩
  | false =>
    obtain ⟨d, ds, rfl⟩ := List.exists_cons_of_ne_nil hwhole.ne_nil
    exact ⟨_, _, rfl, .inl (hwhole.digits d List.mem_cons_self)⟩

/-- A word does not begin with a space, and its token is the next one if it has one. -/
theorem Spells.next_eq {l : Lexeme} {cs : List Char} (h : l.Spells cs) {rest : List Char}
    (hrest : l.isNumber = true → Ends rest) :
    ∃ c cs', cs = c :: cs' ∧ isSpace c = false ∧
      next (cs ++ rest) = l.token?.map fun t => (t, rest) := by
  cases h with
  | mark hmark =>
    have hnext := next_mark (ofMark?_of_mem hmark) rest
    refine ⟨_, [], rfl, ?_, hnext⟩
    by_contra hspace
    rw [next_of_isSpace (Bool.of_not_eq_false hspace)] at hnext
    cases hnext
  | word hword => exact next_word hword rest
  | number hnumber =>
    obtain ⟨c, cs', rfl, hc⟩ := head_number hnumber
    have hread := readNumeral_spells hnumber (hrest rfl)
    have hnext : next (c :: cs' ++ rest) = _ := next_numeral hc hread
    refine ⟨c, cs', rfl, ?_, ?_⟩
    · by_contra hspace
      have hdigit : c.isDigit = false ∧ c ≠ '-' :=
        not_isDigit_of_isSpace (Bool.of_not_eq_false hspace)
      rcases hc with hc | hc
      · exact Bool.false_ne_true (hdigit.1.symm.trans hc)
      · exact hdigit.2 hc
    · rw [hnext, token?, Option.map_map]
      rfl
  | string hpieces =>
    refine ⟨_, _, rfl, rfl, ?_⟩
    rw [List.cons_append, List.append_assoc, List.singleton_append, next_quote,
      readString_pieces hpieces, token?, Option.map_map, Option.map_map]
    rfl

/-- The token of a word is the first of the text, and the words after it have the others. -/
theorem Spells.scan_eq {l : Lexeme} {cs : List Char} (h : l.Spells cs) {rest : List Char}
    (hrest : l.isNumber = true → Ends rest) :
    scan (cs ++ rest) = l.token?.bind fun t => (scan rest).map (t :: ·) := by
  obtain ⟨c, cs', rfl, hspace, hnext⟩ := h.next_eq hrest
  rw [List.cons_append] at hnext ⊢
  rw [scan_of_not_isSpace hspace, hnext, Option.bind_map]
  rfl

/-- Where a number has to end, the text goes on with a blank or a mark, or not at all. -/
theorem SpellsAll.ends {ls : List Lexeme} {cs : List Char} (h : SpellsAll ls cs)
    (hmark : ∀ l ∈ ls.head?, l.isMark = true) : Ends cs := by
  cases h with
  | nil hblanks =>
    rw [← List.append_nil cs]
    exact ends_of_isBlank hblanks ends_nil
  | cons hblanks hfirst _ =>
    refine ends_of_isBlank hblanks ?_
    cases hfirst with
    | mark hmem => exact ends_mark (ofMark?_of_mem hmem) _
    | _ => cases hmark _ rfl

/-- A text of words is cut into their tokens, or into none if one of them has no token. -/
theorem SpellsAll.scan_eq {ls : List Lexeme} {cs : List Char} (h : SpellsAll ls cs)
    (hseparated : Separated ls) : scan cs = ls.mapM token? := by
  induction h with
  | @nil blanks hblanks =>
    rw [← List.append_nil blanks, scan_blanks hblanks, scan]
    rfl
  | @cons l ls blanks cs cs' hblanks hfirst hrest ih =>
    have hend : l.isNumber = true → Ends cs' := by
      intro hnumber
      refine hrest.ends fun l' hl' => ?_
      obtain ⟨ls', rfl⟩ := List.head?_eq_some_iff.mp hl'
      exact List.isChain_cons_cons.mp hseparated |>.1 hnumber
    rw [scan_blanks hblanks, hfirst.scan_eq hend, ih hseparated.of_cons, List.mapM_cons]
    cases l.token? with
    | none => rfl
    | some t => cases ls.mapM token? <;> rfl

end Lexeme

end ApiTypings.Json
