import ApiTypings.Json.Compact
import ApiTypings.Json.Token
import ApiTypings.Proofs.JsonParts
import ApiTypings.Proofs.TextLaws

/-!
# The tokens of compact JSON text

The compact text of a value is cut into the tokens one expects. Strings, marks and the words
`true`, `false` and `null` end where they end; a number ends where the text does not go on with
a digit, a point or the letter of an exponent. Behind a value stands the end of the text or a
mark, so this always holds.

Values are taken without floating point numbers, and with integers that a significand holds.
-/

namespace ApiTypings.Json

namespace Token

/-! ## One token -/

theorem next_of_isSpace {c : Char} (h : isSpace c = true) (rest : List Char) :
    next (c :: rest) = none := by
  simp only [isSpace, Bool.or_eq_true, beq_iff_eq] at h
  rcases h with ((rfl | rfl) | rfl) | rfl <;> rfl

theorem scan_of_not_isSpace {c : Char} (h : isSpace c = false) (cs : List Char) :
    scan (c :: cs) = (next (c :: cs)).bind fun (t, rest) => (scan rest).map (t :: ·) := by
  rw [scan, if_neg (by simp [h])]
  split
  · next hnone => rw [hnone, Option.bind_none]
  · next hsome => rw [hsome, Option.bind_some]

theorem scan_of_next {cs rest : List Char} {t : Token} (h : next cs = some (t, rest)) :
    scan cs = (scan rest).map (t :: ·) := by
  cases cs with
  | nil => cases h
  | cons c cs =>
    have hspace : isSpace c = false := by
      by_contra hc
      rw [next_of_isSpace (Bool.of_not_eq_false hc)] at h
      cases h
    rw [scan_of_not_isSpace hspace, h, Option.bind_some]

theorem next_mark {c : Char} {t : Token} (h : ofMark? c = some t) (rest : List Char) :
    next (c :: rest) = some (t, rest) := by
  simp only [ofMark?, beq_iff_eq] at h
  split_ifs at h with h₁ h₂ h₃ h₄ h₅ h₆
  all_goals
    subst c
    cases h
    rfl

/-- A text where a number may end. -/
def Ends (cs : List Char) : Prop :=
  ∀ c ∈ cs.head?, c.isDigit = false ∧ c ≠ '.' ∧ c ≠ 'e' ∧ c ≠ 'E'

theorem ends_nil : Ends [] := by
  intro c hc
  cases hc

/-- The text is cut into the tokens, whatever follows that does not go on with a number. -/
def Scans (s : String) (ts : List Token) : Prop :=
  ∀ rest, Ends rest → scan (s.toList ++ rest) = (scan rest).map (ts ++ ·)

/-! ## Strings -/

theorem hexValue?_hexDigit {n : Nat} (h : n < 16) : hexValue? (hexDigit n) = some n := by
  decide +revert

theorem hexFour?_hexDigit {n : Nat} (h : n < 0x100) (rest : List Char) :
    hexFour? ('0' :: '0' :: hexDigit (n / 16) :: hexDigit (n % 16) :: rest) = some (n, rest) := by
  have hzero : hexValue? '0' = some 0 := rfl
  have hsum : ((0 * 16 + 0) * 16 + n / 16) * 16 + n % 16 = n := by omega
  simp only [hexFour?, hzero, hexValue?_hexDigit (show n / 16 < 16 by omega),
    hexValue?_hexDigit (Nat.mod_lt n (by decide)), Option.bind_eq_bind, Option.bind_some, hsum]

/-- A character of a string stands for itself, or an escape stands for it. -/
theorem stringChar_cases (c : Char) :
    (stringChar c = [c] ∧ c ≠ '"' ∧ c ≠ '\\' ∧ 0x20 ≤ c.toNat) ∨
      ∃ es, stringChar c = '\\' :: es ∧ ∀ rest, readEscape (es ++ rest) = some (c, rest) := by
  simp only [stringChar, Bool.or_eq_true, beq_iff_eq]
  split_ifs with hself hb hf hn hr ht hcontrol
  · refine .inr ⟨[c], rfl, fun rest => ?_⟩
    rcases hself with rfl | rfl <;> rfl
  · exact .inr ⟨_, rfl, fun rest => hb ▸ rfl⟩
  · exact .inr ⟨_, rfl, fun rest => hf ▸ rfl⟩
  · exact .inr ⟨_, rfl, fun rest => hn ▸ rfl⟩
  · exact .inr ⟨_, rfl, fun rest => hr ▸ rfl⟩
  · exact .inr ⟨_, rfl, fun rest => ht ▸ rfl⟩
  · refine .inr ⟨_, rfl, fun rest => ?_⟩
    have hcode := hexFour?_hexDigit (Nat.lt_trans hcontrol (by decide)) rest
    -- The code is far below the halves of surrogate pairs.
    have hlow : ¬ 0xD800 ≤ c.toNat := by omega
    have hhigh : ¬ 0xDC00 ≤ c.toNat := by omega
    simp [readEscape, hcode, hlow, hhigh]
  · rw [not_or] at hself
    exact .inl ⟨rfl, hself.1, hself.2, Nat.le_of_not_lt hcontrol⟩

theorem readString_stringChar (c : Char) (cs : List Char) :
    readString (stringChar c ++ cs) = (readString cs).map fun (s, rest) => (c :: s, rest) := by
  rcases stringChar_cases c with ⟨hplain, hquote, hbackslash, hcontrol⟩ | ⟨es, hescape, hread⟩
  · rw [hplain, List.singleton_append, readString]
    simp [hquote, hbackslash, Nat.not_lt.mpr hcontrol]
  · rw [hescape, List.cons_append, readString, if_neg (by decide),
      if_pos (beq_self_eq_true _)]
    split
    · next hnone =>
      rw [hread] at hnone
      cases hnone
    · next hsome =>
      cases (hread cs).symm.trans hsome
      rfl

theorem readString_flatMap (s rest : List Char) :
    readString (s.flatMap stringChar ++ '"' :: rest) = some (s, rest) := by
  induction s with
  | nil => rw [List.flatMap_nil, List.nil_append, readString, if_pos (beq_self_eq_true _)]
  | cons c s ih =>
    rw [List.flatMap_cons, List.append_assoc, readString_stringChar, ih, Option.map_some]

/-- A quote begins a string. -/
theorem next_quote (cs : List Char) :
    next ('"' :: cs) = (readString cs).map fun read => (text (.ofList read.1), read.2) :=
  rfl

theorem scan_stringText (s : String) (rest : List Char) :
    scan ((stringText s).toList ++ rest) = (scan rest).map (text s :: ·) := by
  have htext : (stringText s).toList ++ rest =
      '"' :: (s.toList.flatMap stringChar ++ '"' :: rest) := by
    simp [stringText]
  apply scan_of_next
  rw [htext, next_quote, readString_flatMap]
  simp only [Option.map_some, String.ofList_toList]

/-! ## Integers -/

/-- No number is written with a zero in front. -/
theorem head?_toDigits {n : Nat} (hn : 0 < n) : (Nat.toDigits 10 n).head? ≠ some '0' := by
  induction n using Nat.strongRecOn with
  | ind n ih =>
    rw [Nat.toDigits_eq_if (by decide)]
    split
    · rw [List.head?_singleton, Ne, Option.some.injEq, Nat.digitChar_eq_zero]
      exact Nat.ne_of_gt hn
    · rw [List.head?_append_of_ne_nil _ Nat.toDigits_ne_nil]
      exact ih (n / 10) (Nat.div_lt_self hn (by decide)) (by omega)

theorem le_ofDigitChars (ds : List Char) (n : Nat) : n ≤ Nat.ofDigitChars 10 ds n := by
  induction ds generalizing n with
  | nil => exact Nat.le_refl n
  | cons d ds ih =>
    rw [Nat.ofDigitChars_cons]
    exact Nat.le_trans (by omega) (ih _)

/-- Digits that fit a significand are all taken into it. -/
theorem absorb_of_le {n : Nat} {ds : List Char} (h : Nat.ofDigitChars 10 ds n ≤ maxSignificand) :
    absorb n ds = (Nat.ofDigitChars 10 ds n, 0) := by
  induction ds generalizing n with
  | nil => rfl
  | cons d ds ih =>
    rw [Nat.ofDigitChars_cons, Nat.mul_comm] at h ⊢
    -- More digits never make the number smaller, so it fits after this digit as well.
    rw [absorb, digitValue, if_pos (Nat.le_trans (le_ofDigitChars ds _) h), ih h]

theorem absorb_toDigits {n : Nat} (h : n ≤ maxSignificand) :
    absorb 0 (Nat.toDigits 10 n) = (n, 0) := by
  rw [absorb_of_le, Nat.ofDigitChars_ten_toDigits]
  rwa [Nat.ofDigitChars_ten_toDigits]

theorem isDigit_of_mem_toDigits {c : Char} {n : Nat} (h : c ∈ Nat.toDigits 10 n) :
    c.isDigit = true :=
  Nat.isDigit_of_mem_toDigits (by decide) (by decide) h

theorem readUnsigned_toDigits (negative : Bool) (n : Nat) {rest : List Char} (h : Ends rest) :
    readUnsigned negative (Nat.toDigits 10 n ++ rest) =
      some (⟨negative, Nat.toDigits 10 n, none, none⟩, rest) := by
  have hdigits : ∀ c ∈ Nat.toDigits 10 n, c.isDigit = true := fun c => isDigit_of_mem_toDigits
  have hrest : rest.takeWhile Char.isDigit = [] ∧ rest.dropWhile Char.isDigit = rest ∧
      readFraction rest = some (none, rest) ∧ readExponent rest = some (none, rest) := by
    cases rest with
    | nil => exact ⟨rfl, rfl, rfl, rfl⟩
    | cons c cs =>
      obtain ⟨hdigit, hpoint, he, hE⟩ := h c rfl
      simp [hdigit, readExponent, he, hE, readFraction, hpoint]
  obtain ⟨htake, hdrop, hfraction, hexponent⟩ := hrest
  have hwhole : ((Nat.toDigits 10 n).isEmpty || ((Nat.toDigits 10 n).head? == some '0' &&
      decide (1 < (Nat.toDigits 10 n).length))) = false := by
    rw [List.isEmpty_eq_false_iff.mpr Nat.toDigits_ne_nil, Bool.false_or]
    obtain rfl | hn := Nat.eq_zero_or_pos n
    · rfl
    · rw [beq_eq_false_iff_ne.mpr (head?_toDigits hn), Bool.false_and]
  unfold readUnsigned
  rw [List.takeWhile_append_of_pos hdigits, htake, List.append_nil,
    List.dropWhile_append_of_pos hdigits, hdrop]
  simp only [hwhole, Bool.false_eq_true, if_false, hfraction, hexponent, Option.bind_eq_bind,
    Option.bind_some]

theorem readNumeral_of_isDigit {c : Char} (hc : c.isDigit = true) (cs : List Char) :
    readNumeral (c :: cs) = readUnsigned false (c :: cs) := by
  unfold readNumeral
  split
  · next heq =>
    cases heq
    cases hc
  · rfl

/-- A digit or a minus sign begins a number and nothing else. -/
theorem next_numeral {c : Char} {cs rest : List Char} {x : Numeral}
    (hc : c.isDigit = true ∨ c = '-') (hread : readNumeral (c :: cs) = some (x, rest)) :
    next (c :: cs) = x.value?.map fun v => (scalar v, rest) := by
  have hne : ∀ d : Char, d.isDigit = false → d ≠ '-' → c ≠ d := by
    rintro d hd hminus rfl
    rcases hc with hc | hc
    · exact absurd hc (Bool.eq_false_iff.mp hd)
    · exact hminus hc
  have hmark : ofMark? c = none := by
    simp [ofMark?, hne '[' rfl, hne ']' rfl, hne '\x7b' rfl, hne '\x7d' rfl, hne ',' rfl,
      hne ':' rfl]
  have hquote : c ≠ '"' := hne '"' rfl (by decide)
  unfold next
  split
  · next heq => cases heq
  · next heq => exact absurd (List.cons.inj heq).1 (hne 't' rfl (by decide))
  · next heq => exact absurd (List.cons.inj heq).1 (hne 'f' rfl (by decide))
  · next heq => exact absurd (List.cons.inj heq).1 (hne 'n' rfl (by decide))
  · next heq =>
    cases heq
    cases hvalue : x.value? <;> simp [hmark, hquote, hread, hvalue]

theorem next_of_readNumeral {c : Char} {cs rest : List Char} {x : Numeral} {v : Json}
    (hc : c.isDigit = true ∨ c = '-') (hread : readNumeral (c :: cs) = some (x, rest))
    (hvalue : x.value? = some v) : next (c :: cs) = some (scalar v, rest) := by
  rw [next_numeral hc hread, hvalue, Option.map_some]

theorem value?_toDigits {negative : Bool} {n : Nat} (h : n ≤ maxSignificand)
    (hnegative : negative = true → 0 < n ∧ n ≤ Nat.pow 2 63) :
    Numeral.value? ⟨negative, Nat.toDigits 10 n, none, none⟩ =
      some (.int (if negative then -n else n)) := by
  have hfits : (!negative || (decide (0 < n) && decide (n ≤ Nat.pow 2 63))) = true := by
    cases negative with
    | false => rfl
    | true => simpa using hnegative rfl
  unfold Numeral.value?
  simp only [absorb_toDigits h, hfits]
  rfl

theorem scans_nat {n : Nat} (h : n ≤ maxSignificand) : Scans n.repr [scalar (.int n)] := by
  intro rest hrest
  have hread := readUnsigned_toDigits false n hrest
  have hvalue : Numeral.value? ⟨false, Nat.toDigits 10 n, none, none⟩ = some (.int n) :=
    value?_toDigits h fun hfalse => nomatch hfalse
  rw [Nat.toList_repr]
  cases hdigits : Nat.toDigits 10 n with
  | nil => exact absurd hdigits Nat.toDigits_ne_nil
  | cons c cs =>
    have hc : c.isDigit = true := isDigit_of_mem_toDigits (hdigits ▸ List.mem_cons_self)
    rw [hdigits, List.cons_append] at hread
    rw [hdigits] at hvalue
    exact scan_of_next (next_of_readNumeral (.inl hc) (readNumeral_of_isDigit hc _ ▸ hread) hvalue)

theorem scans_neg {n : Nat} (hpos : 0 < n) (h : n ≤ Nat.pow 2 63) :
    Scans ("-" ++ n.repr) [scalar (.int (-n))] := by
  intro rest hrest
  have htext : ("-" ++ n.repr).toList ++ rest = '-' :: (Nat.toDigits 10 n ++ rest) := by
    rw [String.toList_append, Nat.toList_repr]
    rfl
  have hread : readNumeral ('-' :: (Nat.toDigits 10 n ++ rest)) = _ :=
    readUnsigned_toDigits true n hrest
  have hmax : n ≤ maxSignificand := Nat.le_trans h (by decide)
  apply scan_of_next
  rw [htext, next_of_readNumeral (.inr rfl) hread (value?_toDigits hmax fun _ => ⟨hpos, h⟩)]
  rfl

theorem scans_int {n : Int} (hlow : -Int.pow 2 63 ≤ n) (hhigh : n < Int.pow 2 64) :
    Scans (toString n) [scalar (.int n)] := by
  have hlowest : Int.pow 2 63 = (Nat.pow 2 63 : Nat) := rfl
  have hhighest : Int.pow 2 64 = (Nat.pow 2 64 : Nat) := rfl
  cases n with
  | ofNat n => exact scans_nat (Nat.le_sub_one_of_lt (Int.ofNat_lt.mp (hhighest ▸ hhigh)))
  | negSucc n =>
    apply scans_neg n.succ_pos
    omega

/-! ## Marks -/

theorem scan_mark {c : Char} {t : Token} (h : ofMark? c = some t) (rest : List Char) :
    scan (c :: rest) = (scan rest).map (t :: ·) :=
  scan_of_next (next_mark h rest)

theorem ends_mark {c : Char} {t : Token} (h : ofMark? c = some t) (rest : List Char) :
    Ends (c :: rest) := by
  simp only [ofMark?, beq_iff_eq] at h
  split_ifs at h with h₁ h₂ h₃ h₄ h₅ h₆
  all_goals
    subst c
    intro d hd
    cases hd
    decide

/-- What stands between two marks is cut into its tokens between theirs. -/
theorem Scans.between {s : String} {ts : List Token} (h : Scans s ts) {left right : Char}
    {before after : Token} (hleft : ofMark? left = some before)
    (hright : ofMark? right = some after) (rest : List Char) :
    scan (left :: (s.toList ++ right :: rest)) =
      (scan rest).map (before :: ts ++ [after] ++ ·) := by
  rw [scan_mark hleft, h _ (ends_mark hright rest), scan_mark hright, Option.map_map,
    Option.map_map]
  simp only [Function.comp_def, List.cons_append, List.append_assoc, List.nil_append]

/-- Texts between commas are cut into their tokens between commas. -/
theorem scans_join {α : Type} {f : α → String} {g : α → List Token} {xs : List α}
    (h : ∀ x ∈ xs, Scans (f x) (g x)) :
    Scans (Text.join "," (xs.map f)) ([comma].intercalate (xs.map g)) := by
  intro rest hrest
  induction xs with
  | nil => cases hscan : scan rest <;> simp [Text.join, hscan]
  | cons x xs ih =>
    have hx : Scans (f x) (g x) := h x List.mem_cons_self
    cases xs with
    | nil => simpa [Text.join] using hx rest hrest
    | cons y xs =>
      have hcomma : ofMark? ',' = some comma := rfl
      have hmore := ih fun z hz => h z (List.mem_cons_of_mem x hz)
      have htext : (Text.join "," ((x :: y :: xs).map f)).toList ++ rest =
          (f x).toList ++ ',' :: ((Text.join "," ((y :: xs).map f)).toList ++ rest) := by
        simp [Text.join]
      have htokens : [comma].intercalate ((x :: y :: xs).map g) =
          g x ++ comma :: [comma].intercalate ((y :: xs).map g) := by
        simp [List.intercalate_cons_cons]
      rw [htext, hx _ (ends_mark hcomma _), scan_mark hcomma, hmore, htokens, Option.map_map,
        Option.map_map]
      simp only [Function.comp_def, List.append_assoc, List.cons_append]

end Token

/-! ## Values -/

mutual
/-- The tokens of the compact text of a value. -/
def tokens : Json → List Token
  | .text s => [.text s]
  | .array items => .openArray :: [Token.comma].intercalate (itemTokens items) ++ [.closeArray]
  | .object members =>
    .openObject :: [Token.comma].intercalate (memberTokens members) ++ [.closeObject]
  | v => [.scalar v]

def itemTokens : List Json → List (List Token)
  | [] => []
  | v :: rest => v.tokens :: itemTokens rest

def memberTokens : List (String × Json) → List (List Token)
  | [] => []
  | (key, v) :: rest => (.text key :: .colon :: v.tokens) :: memberTokens rest
end

theorem itemTokens_eq_map (items : List Json) : itemTokens items = items.map tokens := by
  induction items with
  | nil => rfl
  | cons v rest ih => rw [itemTokens, ih, List.map_cons]

theorem memberTokens_eq_map (members : List (String × Json)) :
    memberTokens members = members.map fun m => .text m.1 :: .colon :: m.2.tokens := by
  induction members with
  | nil => rfl
  | cons m rest ih => rw [memberTokens, ih, List.map_cons]

theorem compactItems_eq_map (items : List Json) : compactItems items = items.map compact := by
  induction items with
  | nil => rfl
  | cons v rest ih => rw [compactItems, ih, List.map_cons]

/-- The text of a member of an object. -/
def memberText (m : String × Json) : String := stringText m.1 ++ ":" ++ m.2.compact

theorem compactMembers_eq_map (members : List (String × Json)) :
    compactMembers members = members.map memberText := by
  induction members with
  | nil => rfl
  | cons m rest ih =>
    rw [compactMembers, ih, List.map_cons]
    rfl

/-- The numbers in a value are integers that are read exactly. -/
structure IntegersOnly (v : Json) : Prop where
  bounds : ∀ n, int n ∈ v.parts → -Int.pow 2 63 ≤ n ∧ n < Int.pow 2 64
  noDouble : ∀ x, double x ∉ v.parts

theorem IntegersOnly.item {items : List Json} (h : (array items).IntegersOnly) {v : Json}
    (hv : v ∈ items) : v.IntegersOnly where
  bounds n hn := h.bounds n (mem_parts_array.mpr (.inr ⟨v, hv, hn⟩))
  noDouble x hx := h.noDouble x (mem_parts_array.mpr (.inr ⟨v, hv, hx⟩))

theorem IntegersOnly.member {members : List (String × Json)} (h : (object members).IntegersOnly)
    {m : String × Json} (hm : m ∈ members) : m.2.IntegersOnly where
  bounds n hn := h.bounds n (mem_parts_object.mpr (.inr ⟨m, hm, hn⟩))
  noDouble x hx := h.noDouble x (mem_parts_object.mpr (.inr ⟨m, hm, hx⟩))

theorem scans_memberText {m : String × Json} (h : Token.Scans m.2.compact m.2.tokens) :
    Token.Scans (memberText m) (.text m.1 :: .colon :: m.2.tokens) := by
  intro rest hrest
  have htext : (memberText m).toList ++ rest =
      (stringText m.1).toList ++ ':' :: (m.2.compact.toList ++ rest) := by
    simp [memberText]
  have hcolon : Token.ofMark? ':' = some .colon := rfl
  rw [htext, Token.scan_stringText, Token.scan_mark hcolon, h rest hrest, Option.map_map,
    Option.map_map]
  rfl

/-- The compact text of a value is cut into the tokens of the value. -/
theorem scans_compact {v : Json} (h : v.IntegersOnly) : Token.Scans v.compact v.tokens := by
  induction v using Json.induction with
  | null =>
    intro rest _
    exact Token.scan_of_next rfl
  | bool b =>
    intro rest _
    cases b <;> exact Token.scan_of_next rfl
  | int n =>
    obtain ⟨hlow, hhigh⟩ := h.bounds n (mem_parts_self _)
    exact Token.scans_int hlow hhigh
  | double x => exact (h.noDouble x (mem_parts_self _)).elim
  | text s =>
    intro rest _
    exact Token.scan_stringText s rest
  | array items ih =>
    have hitems : Token.Scans (Text.join "," (items.map compact))
        ([Token.comma].intercalate (items.map tokens)) :=
      Token.scans_join fun v hv => ih v hv (h.item hv)
    intro rest _
    have htext : (array items).compact.toList ++ rest =
        '[' :: ((Text.join "," (items.map compact)).toList ++ ']' :: rest) := by
      simp [compact, compactItems_eq_map]
    rw [htext, hitems.between rfl rfl, tokens, itemTokens_eq_map]
  | object members ih =>
    have hmembers : Token.Scans (Text.join "," (members.map memberText))
        ([Token.comma].intercalate (members.map fun m => .text m.1 :: .colon :: m.2.tokens)) :=
      Token.scans_join fun m hm => scans_memberText (ih m hm (h.member hm))
    intro rest _
    have htext : (object members).compact.toList ++ rest =
        '\x7b' :: ((Text.join "," (members.map memberText)).toList ++ '\x7d' :: rest) := by
      simp [compact, compactMembers_eq_map]
    rw [htext, hmembers.between rfl rfl, tokens, memberTokens_eq_map]

/-- Nothing but the tokens of the value is in its compact text. -/
theorem scan_compact {v : Json} (h : v.IntegersOnly) :
    Token.scan v.compact.toList = some v.tokens := by
  have hempty : Token.scan [] = some [] := by rw [Token.scan]
  have hscan := scans_compact h [] Token.ends_nil
  rwa [List.append_nil, hempty, Option.map_some, List.append_nil] at hscan

end ApiTypings.Json
