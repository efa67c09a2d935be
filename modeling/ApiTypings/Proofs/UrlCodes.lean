import ApiTypings.Proofs.TextLaws
import ApiTypings.Url.Form

/-!
# Codes in URLs

Percent encoding changes neither the bytes that a text stands for nor a text that is encoded
already. The names and values of a query are read back from it: the pieces between the marks are
their codes, and a code holds no mark. So a query has one list of names and values.
-/

namespace ApiTypings.Url

namespace Percent

/-! ## Bytes -/

theorem hexValue?_hexDigit {n : Nat} (h : n < 16) : hexValue? (hexDigit n) = some n := by
  decide +revert

theorem isAlphanum_of_hexValue? {c : Char} {n : Nat} (h : hexValue? c = some n) :
    c.isAlphanum = true := by
  have hbetween {a b : Char} (hc : (a ≤ c && c ≤ b) = true) :
      a.toNat ≤ c.toNat ∧ c.toNat ≤ b.toNat := by
    simp only [Bool.and_eq_true, decide_eq_true_eq, Char.le_def, UInt32.le_iff_toNat_le] at hc
    exact hc
  have hletters : 'a'.toNat = 97 ∧ 'f'.toNat = 102 ∧ 'A'.toNat = 65 ∧ 'F'.toNat = 70 := by decide
  unfold hexValue? at h
  rw [Text.isAlphanum_iff]
  split_ifs at h with hdigit hlower hupper
  · refine Text.isAlphanum_iff.mp ?_
    change (c.isAlpha || c.isDigit) = true
    rw [hdigit, Bool.or_true]
  · have hrange := hbetween hlower
    omega
  · have hrange := hbetween hupper
    omega

/-- A property of digits, checked for the characters below 128. -/
theorem hexValue?_forall {P : Char → Nat → Prop}
    (h : ∀ k < 0x80, ∀ n ∈ hexValue? (Char.ofNat k), P (Char.ofNat k) n) {c : Char} {n : Nat}
    (hc : hexValue? c = some n) : P c n :=
  Text.ascii_forall (P := fun c => ∀ n ∈ hexValue? c, P c n) h
    (Text.toNat_lt_of_isAlphanum (isAlphanum_of_hexValue? hc)) n hc

theorem hexValue?_lt {c : Char} {n : Nat} (h : hexValue? c = some n) : n < 16 :=
  hexValue?_forall (P := fun _ n => n < 16) (by decide) h

theorem hexDigit_isAlphanum {n : Nat} (h : n < 16) : (hexDigit n).isAlphanum = true := by
  decide +revert

/-- Two digits are in front. -/
def StartsHex (cs : List Char) : Prop :=
  ∃ a b rest m n, cs = a :: b :: rest ∧ hexValue? a = some m ∧ hexValue? b = some n

theorem decode_of_hex {a b : Char} {m n : Nat} (ha : hexValue? a = some m)
    (hb : hexValue? b = some n) (rest : List Char) :
    decode ('%' :: a :: b :: rest) = UInt8.ofNat (m * 16 + n) :: decode rest := by
  rw [decode, ha, hb]

/-- A character stands for itself, unless it is a percent sign with two digits behind it. -/
theorem decode_cons {c : Char} {rest : List Char} (h : c = '%' → ¬ StartsHex rest) :
    decode (c :: rest) = String.utf8EncodeChar c ++ decode rest := by
  by_cases hc : c = '%'
  · subst hc
    match rest with
    | [] => rfl
    | [_] => rfl
    | a :: b :: more =>
      rw [decode]
      split
      · next m n ha hb => exact (h rfl ⟨a, b, more, m, n, rfl, ha, hb⟩).elim
      · rfl
  · rw [decode]
    intro _ _ _ heq
    exact (hc heq).elim

/-- In front of a text stands a code or a character. -/
theorem decode_cases (c : Char) (rest : List Char) :
    (∃ a b more m n, c = '%' ∧ rest = a :: b :: more ∧ hexValue? a = some m ∧
        hexValue? b = some n ∧ decode (c :: rest) = UInt8.ofNat (m * 16 + n) :: decode more) ∨
      decode (c :: rest) = String.utf8EncodeChar c ++ decode rest := by
  by_cases hcode : c = '%' ∧ StartsHex rest
  · obtain ⟨rfl, a, b, more, m, n, rfl, ha, hb⟩ := hcode
    exact .inl ⟨a, b, more, m, n, rfl, rfl, ha, hb, decode_of_hex ha hb more⟩
  · exact .inr (decode_cons fun hc hrest => hcode ⟨hc, hrest⟩)

theorem decode_encodeByte (b : UInt8) (rest : List Char) :
    decode (encodeByte b ++ rest) = b :: decode rest := by
  have hb : b.toNat < 256 := b.toNat_lt
  have hhigh : hexValue? (hexDigit (b.toNat / 16)) = some (b.toNat / 16) :=
    hexValue?_hexDigit (by omega)
  have hlow : hexValue? (hexDigit (b.toNat % 16)) = some (b.toNat % 16) :=
    hexValue?_hexDigit (by omega)
  have hsum : b.toNat / 16 * 16 + b.toNat % 16 = b.toNat := by omega
  have hdecode := decode_of_hex hhigh hlow rest
  rwa [hsum, UInt8.ofNat_toNat] at hdecode

theorem decode_encodeBytes (bytes : List UInt8) (rest : List Char) :
    decode (bytes.flatMap encodeByte ++ rest) = bytes ++ decode rest := by
  induction bytes with
  | nil => rfl
  | cons b bytes ih =>
    rw [List.flatMap_cons, List.append_assoc, decode_encodeByte, ih, List.cons_append]

theorem decode_encodeChar {keep : Char → Bool} {c : Char} (h : c ≠ '%' ∨ keep c = false)
    (rest : List Char) :
    decode (encodeChar keep c ++ rest) = String.utf8EncodeChar c ++ decode rest := by
  unfold encodeChar
  split
  · next hkeep =>
    have hne : c ≠ '%' := by
      rcases h with hne | hnot
      · exact hne
      · rw [hkeep] at hnot
        cases hnot
    exact decode_cons fun hc => (hne hc).elim
  · exact decode_encodeBytes _ rest

/-! ## Encoded texts -/

/-- Codes are made of characters that are kept, of percent signs and of digits. -/
theorem mem_encodeChar {keep : Char → Bool} {c d : Char} (h : d ∈ encodeChar keep c) :
    (d = c ∧ keep c = true) ∨ d = '%' ∨ ∃ n < 16, d = hexDigit n := by
  unfold encodeChar at h
  split at h
  · next hkeep => exact .inl ⟨List.mem_singleton.mp h, hkeep⟩
  · obtain ⟨b, _, hd⟩ := List.mem_flatMap.mp h
    have hb : b.toNat < 256 := b.toNat_lt
    simp only [encodeByte, List.mem_cons, List.not_mem_nil, or_false] at hd
    rcases hd with rfl | rfl | rfl
    · exact .inr (.inl rfl)
    · exact .inr (.inr ⟨b.toNat / 16, by omega, rfl⟩)
    · exact .inr (.inr ⟨b.toNat % 16, by omega, rfl⟩)

theorem encode_of_all {keep : Char → Bool} {cs : List Char} (h : ∀ c ∈ cs, keep c = true) :
    encode keep cs = cs := by
  induction cs with
  | nil => rfl
  | cons c cs ih =>
    obtain ⟨hc, hcs⟩ := List.forall_mem_cons.mp h
    have hrest := ih hcs
    unfold encode at hrest ⊢
    rw [List.flatMap_cons, hrest, encodeChar, if_pos hc, List.singleton_append]

/-- Digits in front of an encoded text stand in the text. -/
theorem front_of_hex {keep : Char → Bool} {cs more : List Char} {a : Char} {n : Nat}
    (h : encode keep cs = a :: more) (ha : hexValue? a = some n) :
    ∃ rest, cs = a :: rest ∧ more = encode keep rest := by
  cases cs with
  | nil => cases h
  | cons c rest =>
    rw [encode, List.flatMap_cons, encodeChar] at h
    split at h
    · cases h
      exact ⟨rest, rfl, rfl⟩
    · cases hbytes : String.utf8EncodeChar c with
      | nil => exact (String.utf8EncodeChar_ne_nil hbytes).elim
      | cons b bytes =>
        rw [hbytes] at h
        cases h
        cases ha

theorem startsHex_of_encode {keep : Char → Bool} {cs : List Char} (h : StartsHex (encode keep cs)) :
    StartsHex cs := by
  obtain ⟨a, b, more, m, n, hcs, ha, hb⟩ := h
  obtain ⟨rest, rfl, hrest⟩ := front_of_hex hcs ha
  obtain ⟨rest, rfl, _⟩ := front_of_hex hrest.symm hb
  exact ⟨a, b, rest, m, n, rfl, ha, hb⟩

/-- What an encoding keeps, besides what stands in codes. -/
structure KeepsCodes (keep : Char → Bool) : Prop where
  percent : keep '%' = true
  alphanum : ∀ c : Char, c.isAlphanum = true → keep c = true

theorem keepsCodes_of_ascii {keep : Char → Bool} (hpercent : keep '%' = true)
    (h : ∀ k < 0x80, (Char.ofNat k).isAlphanum = true → keep (Char.ofNat k) = true) :
    KeepsCodes keep where
  percent := hpercent
  alphanum _ hc :=
    Text.ascii_forall (P := fun c => c.isAlphanum = true → keep c = true) h
      (Text.toNat_lt_of_isAlphanum hc) hc

section Codes

variable {keep : Char → Bool} (hkeep : KeepsCodes keep)
include hkeep

theorem KeepsCodes.of_mem_encode {cs : List Char} {d : Char} (h : d ∈ encode keep cs) :
    keep d = true := by
  obtain ⟨c, _, hd⟩ := List.mem_flatMap.mp h
  rcases mem_encodeChar hd with ⟨rfl, hc⟩ | rfl | ⟨n, hn, rfl⟩
  · exact hc
  · exact hkeep.percent
  · exact hkeep.alphanum _ (hexDigit_isAlphanum hn)

theorem KeepsCodes.keep_of_hexValue? {c : Char} {n : Nat} (h : hexValue? c = some n) :
    keep c = true :=
  hkeep.alphanum c (isAlphanum_of_hexValue? h)

theorem KeepsCodes.encode_percent (rest : List Char) :
    encode keep ('%' :: rest) = '%' :: encode keep rest := by
  rw [encode, List.flatMap_cons, encodeChar, if_pos hkeep.percent]
  rfl

/-- Encoding does not change the bytes that a text stands for. -/
theorem KeepsCodes.decode_encode (cs : List Char) : decode (encode keep cs) = decode cs := by
  -- Only a percent sign is read together with what follows it; there digits are kept, and nothing
  -- else becomes digits.
  fun_induction decode cs with
  | case1 => rfl
  | case2 a b rest m n hb ha ih =>
    have hdigits : encode keep (a :: b :: rest) = a :: b :: encode keep rest := by
      simp only [encode, List.flatMap_cons, encodeChar, hkeep.keep_of_hexValue? ha,
        hkeep.keep_of_hexValue? hb, if_true, List.singleton_append]
    rw [hkeep.encode_percent, hdigits, decode_of_hex ha hb, ih]
  | case3 a b rest hnot ih =>
    have hfront : ¬ StartsHex (a :: b :: rest) := by
      rintro ⟨_, _, _, m, n, ⟨⟩, ha, hb⟩
      exact hnot m n ha hb
    rw [hkeep.encode_percent, decode_cons fun _ => mt startsHex_of_encode hfront, ih]
  | case4 c rest hnot ih =>
    have hfront : c = '%' → ¬ StartsHex rest := by
      rintro hc ⟨a, b, more, _, _, hrest, _⟩
      exact hnot a b more hc hrest
    by_cases hc : c = '%'
    · rw [hc, hkeep.encode_percent, decode_cons fun _ => mt startsHex_of_encode (hfront hc), ih]
    · rw [encode, List.flatMap_cons, decode_encodeChar (.inl hc)]
      exact congrArg _ ih

end Codes

end Percent

namespace Form

/-! ## Names and values -/

/-- The text that a code stands for, if its bytes are one. -/
def decode? (code : List Char) : Option String :=
  String.fromUTF8? (Percent.decode (code.map fun c => if c == '+' then ' ' else c)).toByteArray

/-- A name and its value; what stands behind the first equals sign is the value. -/
def pair? (piece : List Char) : Option (String × String) :=
  let (name, value) := Text.splitFirst (· == '=') piece
  (decode? name).bind fun name => (decode? (value.getD [])).map fun value => (name, value)

/-- The names and values in a query, in their order. Nothing between two marks is no pair. -/
def pairs? (query : String) : Option (List (String × String)) :=
  ((Text.splitChars (· == '&') query.toList).filter (!·.isEmpty)).mapM pair?

/-- The characters of codes. -/
def isWritten (c : Char) : Bool := isKept c || c == '+' || c == '%'

theorem isKept_hexDigit {n : Nat} (h : n < 16) : isKept (Percent.hexDigit n) = true := by
  simp only [isKept, Percent.hexDigit_isAlphanum h, Bool.true_or]

theorem isWritten_of_mem_encodeChar {c d : Char} (h : d ∈ encodeChar c) : isWritten d = true := by
  unfold encodeChar at h
  split at h
  · rw [List.mem_singleton.mp h]
    decide
  · rcases Percent.mem_encodeChar h with ⟨rfl, hc⟩ | rfl | ⟨n, hn, rfl⟩
    · rw [isWritten, hc, Bool.true_or, Bool.true_or]
    · decide
    · rw [isWritten, isKept_hexDigit hn, Bool.true_or, Bool.true_or]

theorem isWritten_of_mem_encode {s : String} {c : Char} (h : c ∈ (encode s).toList) :
    isWritten c = true := by
  rw [encode, String.toList_ofList] at h
  obtain ⟨d, _, hd⟩ := List.mem_flatMap.mp h
  exact isWritten_of_mem_encodeChar hd

theorem decode_encodeChar (c : Char) (rest : List Char) :
    Percent.decode ((encodeChar c).map (fun c => if c == '+' then ' ' else c) ++ rest) =
      String.utf8EncodeChar c ++ Percent.decode rest := by
  unfold encodeChar
  split
  · next hspace =>
    have hne : ' ' = '%' → ¬ Percent.StartsHex rest := fun heq => absurd heq (by decide)
    rw [beq_iff_eq.mp hspace]
    exact Percent.decode_cons hne
  · have hplus : ∀ d ∈ Percent.encodeChar isKept c, (if d == '+' then ' ' else d) = d := by
      intro d hd
      have hne : d ≠ '+' := by
        rintro rfl
        rcases Percent.mem_encodeChar hd with ⟨rfl, hc⟩ | hpercent | ⟨n, hn, hdigit⟩
        · exact absurd hc (by decide)
        · exact absurd hpercent (by decide)
        · exact absurd (hdigit ▸ Percent.hexDigit_isAlphanum hn) (by decide)
      rw [if_neg (mt beq_iff_eq.mp hne)]
    rw [List.map_congr_left hplus, List.map_id']
    refine Percent.decode_encodeChar ?_ rest
    by_cases hc : c = '%'
    · rw [hc]
      exact .inr (by decide)
    · exact .inl hc

theorem decode?_encode (s : String) : decode? (encode s).toList = some s := by
  have hbytes (cs : List Char) :
      Percent.decode ((cs.flatMap encodeChar).map fun c => if c == '+' then ' ' else c) =
        cs.flatMap String.utf8EncodeChar := by
    induction cs with
    | nil => rfl
    | cons c cs ih =>
      rw [List.flatMap_cons, List.map_append, decode_encodeChar, ih, List.flatMap_cons]
  have harray : (s.toList.flatMap String.utf8EncodeChar).toByteArray = s.toByteArray :=
    String.utf8Encode_toList
  rw [decode?, encode, String.toList_ofList, hbytes, harray, String.fromUTF8?]
  rw [dif_pos s.isValidUTF8]
  rfl

theorem not_mem_encode {s : String} {mark : Char} (h : isWritten mark = false) :
    mark ∉ (encode s).toList := by
  intro hmem
  rw [isWritten_of_mem_encode hmem] at h
  cases h

/-- A name with its value, as it stands in a query. -/
def written (pair : String × String) : String := encode pair.1 ++ "=" ++ encode pair.2

theorem toList_written (pair : String × String) :
    (written pair).toList = (encode pair.1).toList ++ '=' :: (encode pair.2).toList := by
  simp [written]

theorem ne_of_mem_written {pair : String × String} {c mark : Char}
    (hmark : isWritten mark = false) (hequals : mark ≠ '=') (h : c ∈ (written pair).toList) :
    c ≠ mark := by
  rintro rfl
  rw [toList_written, List.mem_append, List.mem_cons] at h
  rcases h with h | h | h
  · exact not_mem_encode hmark h
  · exact hequals h
  · exact not_mem_encode hmark h

/-- Besides its own marks a query holds only codes. -/
theorem not_mem_query {mark : Char} (hmark : isWritten mark = false) (hequals : mark ≠ '=')
    (hand : mark ≠ '&') (pairs : List (String × String)) : mark ∉ (query pairs).toList := by
  intro h
  rcases Text.mem_join h with h | ⟨piece, hpiece, h⟩
  · exact hand (List.mem_singleton.mp h)
  · obtain ⟨pair, _, rfl⟩ := List.mem_map.mp hpiece
    exact ne_of_mem_written hmark hequals h rfl

theorem pair?_written (pair : String × String) : pair? (written pair).toList = some pair := by
  have hname : ∀ c ∈ (encode pair.1).toList, (c == '=') = false := fun c hc =>
    beq_eq_false_iff_ne.mpr fun heq => not_mem_encode (by decide) (heq ▸ hc)
  have hsplit : Text.splitFirst (· == '=') (written pair).toList =
      ((encode pair.1).toList, some (encode pair.2).toList) := by
    rw [toList_written]
    exact Text.splitFirst_append (by decide) hname _
  rw [pair?, hsplit]
  dsimp only
  rw [decode?_encode, Option.getD_some, decode?_encode]
  rfl

theorem mapM_pair?_written (pairs : List (String × String)) :
    (pairs.map fun pair => (written pair).toList).mapM pair? = some pairs := by
  induction pairs with
  | nil => rfl
  | cons pair pairs ih =>
    rw [List.map_cons, List.mapM_cons, pair?_written, ih]
    rfl

/-- The names and values are read back from a query. -/
theorem pairs?_query (pairs : List (String × String)) : pairs? (query pairs) = some pairs := by
  have hpieces : (Text.splitChars (· == '&') (query pairs).toList).filter (!·.isEmpty) =
      pairs.map fun pair => (written pair).toList := by
    by_cases hpairs : pairs = []
    · rw [hpairs]
      rfl
    · have hmark : ∀ piece ∈ pairs.map written, ∀ c ∈ piece.toList, (c == '&') = false := by
        intro piece hpiece c hc
        obtain ⟨pair, _, rfl⟩ := List.mem_map.mp hpiece
        exact beq_eq_false_iff_ne.mpr (ne_of_mem_written (by decide) (by decide) hc)
      have hsplit : Text.splitChars (· == '&') (query pairs).toList =
          (pairs.map written).map String.toList := by
        have hjoin : query pairs = Text.join (.singleton '&') (pairs.map written) := rfl
        rw [hjoin]
        exact Text.splitChars_join (by decide) (by simpa using hpairs) hmark
      rw [hsplit, List.map_map]
      refine List.filter_eq_self.mpr fun piece hpiece => ?_
      obtain ⟨pair, _, rfl⟩ := List.mem_map.mp hpiece
      simp [toList_written]
  rw [pairs?, hpieces, mapM_pair?_written]

end Form

end ApiTypings.Url
