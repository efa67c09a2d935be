import ApiTypings.Proofs.JsonDocuments

/-!
# Accepted texts

The reader takes documents and nothing else. What it takes off the front of a text is a piece of a
string, a part of a number or a word, and the tokens of a text that is cut are those of its words.

Where the reader stands in the words of a text, they begin with the arrays and objects that are
open, with the documents in them that are complete. A step adds one word to that. The reader comes
to an end behind one complete document, and then its words are all the words of the text.
-/

namespace ApiTypings.Json

namespace Token

open Piece

/-! ## Pieces of strings -/

theorem isHex_of_hexValue? {c : Char} {n : Nat} (h : hexValue? c = some n) : IsHex c n := by
  have hbound : c.toNat < 103 := by
    unfold hexValue? at h
    simp only [Char.isDigit, Bool.and_eq_true, decide_eq_true_eq, ge_iff_le, Char.le_def,
      UInt32.le_iff_toNat_le] at h
    split_ifs at h with hdigit hsmall hcapital
    · exact Nat.lt_of_le_of_lt hdigit.2 (by decide)
    · exact Nat.lt_of_le_of_lt hsmall.2 (by decide)
    · exact Nat.lt_of_le_of_lt hcapital.2 (by decide)
  have hall : ∀ k < 103, ∀ m ∈ hexValue? (Char.ofNat k), m < 16 ∧
      (Char.ofNat k = hexDigit m ∨ Char.ofNat k = (hexDigit m).toUpper) := by
    decide
  rw [← Char.ofNat_toNat c] at h ⊢
  exact hall c.toNat hbound n h

theorem hexFour?_eq_some {cs rest : List Char} {n : Nat} (h : hexFour? cs = some (n, rest)) :
    ∃ ds, cs = ds ++ rest ∧ Spells (.unit n) ('\\' :: 'u' :: ds) := by
  unfold hexFour? at h
  split at h
  · next c₁ c₂ c₃ c₄ _ =>
    simp only [Option.bind_eq_bind, Option.bind_eq_some_iff, Option.some.injEq,
      Prod.mk.injEq] at h
    obtain ⟨n₁, h₁, n₂, h₂, n₃, h₃, n₄, h₄, rfl, rfl⟩ := h
    exact ⟨[c₁, c₂, c₃, c₄], rfl, .unit (isHex_of_hexValue? h₁) (isHex_of_hexValue? h₂)
      (isHex_of_hexValue? h₃) (isHex_of_hexValue? h₄)⟩
  · cases h

theorem mem_letters_of_letterEscape? {l c : Char} (h : letterEscape? l = some c) :
    (l, c) ∈ letters := by
  unfold letterEscape? at h
  simp only [Bool.or_eq_true, beq_iff_eq] at h
  split_ifs at h with hself hb hf hn hr ht
  all_goals cases h
  · rcases hself with (rfl | rfl) | rfl <;> simp [letters]
  all_goals
    subst l
    simp [letters]

/-- Pieces that stand for one character, whatever pieces follow. -/
def StandFor (ps : List Piece) (c : Char) : Prop :=
  ∀ ps', chars? (ps ++ ps') = (chars? ps').map (c :: ·)

theorem standFor_char (c : Char) : StandFor [.char c] c := fun _ => rfl

theorem spellsAll_singleton {p : Piece} {cs : List Char} (h : p.Spells cs) : SpellsAll [p] cs :=
  List.append_nil cs ▸ .cons h .nil

theorem spellsAll_append {ps ps' : List Piece} {cs cs' : List Char} (h : SpellsAll ps cs)
    (h' : SpellsAll ps' cs') : SpellsAll (ps ++ ps') (cs ++ cs') := by
  induction h with
  | nil => exact h'
  | cons hfirst _ ih =>
    rw [List.append_assoc]
    exact .cons hfirst ih

theorem standFor_single {n : Nat} (hhigh : ¬ isHigh n = true) (hlow : ¬ isLow n = true) :
    StandFor [.unit n] (Char.ofNat n) := by
  intro ps
  rw [List.singleton_append, chars?.eq_def]
  exact (if_neg hhigh).trans (if_neg hlow)

theorem standFor_pair {n m : Nat} (hhigh : isHigh n = true) (hlow : isLow m = true) :
    StandFor [.unit n, .unit m]
      (Char.ofNat (0x10000 + (n - 0xD800) * 0x400 + (m - 0xDC00))) := by
  intro ps
  rw [List.cons_append, List.singleton_append, chars?, if_pos hhigh, if_pos hlow]

/-- A code unit that is read stands for a character by itself or together with the next one. -/
theorem readEscape_unit {cs rest : List Char} {c : Char}
    (h : readEscape ('u' :: cs) = some (c, rest)) :
    ∃ es ps, cs = es ++ rest ∧ SpellsAll ps ('\\' :: 'u' :: es) ∧ StandFor ps c := by
  rw [readEscape, if_pos (beq_self_eq_true _)] at h
  split at h
  · cases h
  · next n cs' hfour =>
    obtain ⟨ds, rfl, hn⟩ := hexFour?_eq_some hfour
    split at h
    · next hhigh =>
      split at h
      · split at h
        · cases h
        · next m _ hfour' =>
          obtain ⟨ds', rfl, hm⟩ := hexFour?_eq_some hfour'
          split at h
          · next hlow =>
            obtain ⟨rfl, rfl⟩ := Prod.mk.inj (Option.some.inj h)
            exact ⟨ds ++ '\\' :: 'u' :: ds', [.unit n, .unit m], by simp,
              .cons hn (spellsAll_singleton hm), standFor_pair hhigh hlow⟩
          · cases h
      · cases h
    · next hhigh =>
      split at h
      · cases h
      · next hlow =>
        cases h
        exact ⟨ds, [.unit n], rfl, spellsAll_singleton hn, standFor_single hhigh hlow⟩

/-- What is read behind a backslash is a letter or a code unit. -/
theorem readEscape_eq_some {cs rest : List Char} {c : Char}
    (h : readEscape cs = some (c, rest)) :
    ∃ es ps, cs = es ++ rest ∧ SpellsAll ps ('\\' :: es) ∧ StandFor ps c := by
  cases cs with
  | nil => cases h
  | cons l cs =>
    by_cases hmark : l = 'u'
    · subst hmark
      obtain ⟨es, ps, rfl, hps, hstand⟩ := readEscape_unit h
      exact ⟨'u' :: es, ps, rfl, hps, hstand⟩
    · rw [readEscape, if_neg (by simpa using hmark)] at h
      obtain ⟨d, hletter, heq⟩ := Option.map_eq_some_iff.mp h
      cases heq
      exact ⟨[l], [.char c], rfl,
        spellsAll_singleton (.letter (mem_letters_of_letterEscape? hletter)), standFor_char c⟩

/-- A string that is read is made of the pieces that are read. -/
theorem readString_eq_some {cs s rest : List Char} (h : readString cs = some (s, rest)) :
    ∃ es ps, cs = es ++ '"' :: rest ∧ SpellsAll ps es ∧ chars? ps = some s := by
  fun_induction readString cs generalizing s rest with
  | case1 => cases h
  | case2 c r hquote =>
    obtain rfl := beq_iff_eq.mp hquote
    cases h
    exact ⟨[], [], rfl, .nil, rfl⟩
  | case3 => cases h
  | case4 c cs _ hbackslash d cs' hescape ih =>
    obtain rfl := beq_iff_eq.mp hbackslash
    obtain ⟨⟨s', rest'⟩, hread, heq⟩ := Option.map_eq_some_iff.mp h
    cases heq
    obtain ⟨es, ps, rfl, hps, hstand⟩ := readEscape_eq_some hescape
    obtain ⟨es', ps', rfl, hps', hchars⟩ := ih hread
    refine ⟨'\\' :: es ++ es', ps ++ ps', ?_, spellsAll_append hps hps', ?_⟩
    · simp
    · rw [hstand, hchars, Option.map_some]
  | case5 => cases h
  | case6 c cs hquote hbackslash hcontrol ih =>
    obtain ⟨⟨s', rest'⟩, hread, heq⟩ := Option.map_eq_some_iff.mp h
    cases heq
    obtain ⟨es, ps, rfl, hps, hchars⟩ := ih hread
    refine ⟨[c] ++ es, .char c :: ps, rfl, .cons (.plain ?_ ?_ ?_) hps, ?_⟩
    · simpa using hquote
    · simpa using hbackslash
    · exact Nat.le_of_not_lt hcontrol
    · rw [chars?, hchars, Option.map_some]

/-! ## Parts of numbers -/

namespace Numeral

theorem isDigits_takeWhile {cs : List Char}
    (h : ¬ (cs.takeWhile Char.isDigit).isEmpty = true) : IsDigits (cs.takeWhile Char.isDigit) where
  ne_nil := by simpa using h
  digits := List.all_eq_true.mp List.all_takeWhile

end Numeral

open Numeral

theorem readFraction_eq_some {cs rest : List Char} {f : Option (List Char)}
    (h : readFraction cs = some (f, rest)) :
    ∃ fraction, cs = fraction ++ rest ∧ SpellsFraction f fraction := by
  unfold readFraction at h
  split at h
  · next cs =>
    dsimp only at h
    split at h
    · cases h
    · next hdigits =>
      cases h
      refine ⟨'.' :: cs.takeWhile Char.isDigit, ?_, .point (isDigits_takeWhile hdigits)⟩
      rw [List.cons_append, List.takeWhile_append_dropWhile]
  · cases h
    exact ⟨[], rfl, .none⟩

theorem readSign_eq (cs : List Char) :
    ∃ sign, cs = sign ++ (readSign cs).2 ∧ SpellsSign (readSign cs).1 sign := by
  unfold readSign
  split
  · exact ⟨['-'], rfl, .minus⟩
  · exact ⟨['+'], rfl, .plus⟩
  · exact ⟨[], rfl, .none⟩

theorem readExponent_eq_some {cs rest : List Char} {e : Option (Bool × List Char)}
    (h : readExponent cs = some (e, rest)) :
    ∃ exponent, cs = exponent ++ rest ∧ SpellsExponent e exponent := by
  unfold readExponent at h
  split at h
  · cases h
    exact ⟨[], rfl, .none⟩
  · next c cs =>
    split at h
    · next hletter =>
      obtain ⟨sign, hcs, hsign⟩ := readSign_eq cs
      dsimp only at h
      split at h
      · cases h
      · next hdigits =>
        cases h
        refine ⟨c :: (sign ++ (readSign cs).2.takeWhile Char.isDigit), ?_,
          .letter (by simpa using hletter) hsign (isDigits_takeWhile hdigits)⟩
        rw [List.cons_append, List.append_assoc, List.takeWhile_append_dropWhile, ← hcs]
    · cases h
      exact ⟨[], rfl, .none⟩

theorem readUnsigned_eq_some {negative : Bool} {cs rest : List Char} {x : Numeral}
    (h : readUnsigned negative cs = some (x, rest)) :
    ∃ word, cs = word ++ rest ∧
      x.Spells ((if negative then ['-'] else []) ++ word) := by
  unfold readUnsigned at h
  dsimp only at h
  split at h
  · cases h
  · next hwhole =>
    rw [Bool.or_eq_true, not_or, Bool.and_eq_true, not_and] at hwhole
    simp only [Option.bind_eq_bind, Option.bind_eq_some_iff, Prod.exists] at h
    obtain ⟨f, cs', hfraction, e, rest', hexponent, heq⟩ := h
    cases heq
    obtain ⟨fraction, hcs, hf⟩ := readFraction_eq_some hfraction
    obtain ⟨exponent, rfl, he⟩ := readExponent_eq_some hexponent
    refine ⟨cs.takeWhile Char.isDigit ++ (fraction ++ exponent), ?_,
      .mk (isDigits_takeWhile hwhole.1) ?_ hf he⟩
    · rw [List.append_assoc, List.append_assoc, ← hcs, List.takeWhile_append_dropWhile]
    · intro hzero
      have hshort : ¬ 1 < (cs.takeWhile Char.isDigit).length := by
        simpa using hwhole.2 (beq_iff_eq.mpr hzero)
      obtain ⟨ds, hds⟩ := List.head?_eq_some_iff.mp hzero
      rw [hds, List.length_cons, Nat.not_lt, Nat.succ_le_succ_iff, Nat.le_zero,
        List.length_eq_zero_iff] at hshort
      rw [hds, hshort]

theorem readNumeral_eq_some {cs rest : List Char} {x : Numeral}
    (h : readNumeral cs = some (x, rest)) : ∃ word, cs = word ++ rest ∧ x.Spells word := by
  unfold readNumeral at h
  split at h
  · obtain ⟨word, rfl, hx⟩ := readUnsigned_eq_some h
    exact ⟨'-' :: word, rfl, hx⟩
  · obtain ⟨word, rfl, hx⟩ := readUnsigned_eq_some h
    exact ⟨word, rfl, hx⟩

end Token

/-! ## Words -/

namespace Lexeme

open Token

/-- A word that has a token. A scalar is a document of one word. -/
def Denotes (l : Lexeme) : Token → Prop
  | .scalar v => ∃ d : Document, d.lexemes = [l] ∧ d.value? = some v
  | .text s => ∃ ps, l = .string ps ∧ Piece.chars? ps = some s.toList
  | t => l = .mark t

theorem spells_ofMark? {c : Char} {t : Token} (h : ofMark? c = some t) :
    (mark t).Spells [c] ∧ (mark t).Denotes t := by
  unfold ofMark? at h
  simp only [beq_iff_eq] at h
  split_ifs at h with h₁ h₂ h₃ h₄ h₅ h₆
  all_goals
    subst c
    cases h
    exact ⟨.mark (by simp [marks]), rfl⟩

/-- The next token of a text is that of a word at its beginning. -/
theorem next_eq_some {cs rest : List Char} {t : Token} (h : next cs = some (t, rest)) :
    ∃ l word, cs = word ++ rest ∧ Spells l word ∧ l.Denotes t ∧ l.token? = some t := by
  have hword {s : String} {b : Json} (hmem : (s, b) ∈ words) : (word b).Spells s.toList :=
    .word hmem
  unfold next at h
  split at h
  · cases h
  · cases h
    exact ⟨.word (.bool true), _, rfl, hword (s := "true") (by simp [words]),
      ⟨.bool true, rfl, rfl⟩, rfl⟩
  · cases h
    exact ⟨.word (.bool false), _, rfl, hword (s := "false") (by simp [words]),
      ⟨.bool false, rfl, rfl⟩, rfl⟩
  · cases h
    exact ⟨.word .null, _, rfl, hword (s := "null") (by simp [words]), ⟨.null, rfl, rfl⟩, rfl⟩
  · next c cs _ _ _ =>
    split at h
    · next t hmark =>
      cases h
      obtain ⟨hspells, hdenotes⟩ := spells_ofMark? hmark
      exact ⟨.mark t, [c], rfl, hspells, hdenotes, rfl⟩
    · split at h
      · next hquote =>
        obtain rfl := beq_iff_eq.mp hquote
        obtain ⟨⟨s, r⟩, hread, heq⟩ := Option.map_eq_some_iff.mp h
        cases heq
        obtain ⟨es, ps, rfl, hps, hchars⟩ := readString_eq_some hread
        refine ⟨.string ps, '"' :: (es ++ ['"']), by simp, .string hps, ⟨ps, rfl, ?_⟩, ?_⟩
        · rw [hchars, String.toList_ofList]
        · rw [token?, hchars, Option.map_some]
      · simp only [Option.bind_eq_bind, Option.bind_eq_some_iff, Prod.exists] at h
        obtain ⟨x, r, hread, v, hvalue, heq⟩ := h
        cases heq
        obtain ⟨word, hcs, hx⟩ := readNumeral_eq_some hread
        refine ⟨.number x, word, hcs, .number hx, ⟨.number x, rfl, hvalue⟩, ?_⟩
        rw [token?, hvalue, Option.map_some]

theorem SpellsAll.space {ls : List Lexeme} {cs : List Char} (h : SpellsAll ls cs) {c : Char}
    (hc : isSpace c = true) : SpellsAll ls (c :: cs) := by
  have hmem : c ∈ [' ', '\t', '\n', '\r'] := by
    simpa [isSpace, or_assoc] using hc
  cases h with
  | nil hblanks => exact .nil (List.forall_mem_cons.mpr ⟨hmem, hblanks⟩)
  | cons hblanks hfirst hrest =>
    exact .cons (List.forall_mem_cons.mpr ⟨hmem, hblanks⟩) hfirst hrest

/-- A text that is cut is a text of words, and these have its tokens. -/
theorem scan_eq_some {cs : List Char} {ts : List Token} (h : scan cs = some ts) :
    ∃ ls, SpellsAll ls cs ∧ List.Forall₂ Denotes ls ts := by
  fun_induction scan cs generalizing ts with
  | case1 =>
    cases h
    exact ⟨[], .nil (List.forall_mem_nil _), .nil⟩
  | case2 c cs hspace ih =>
    obtain ⟨ls, hls, hts⟩ := ih h
    exact ⟨ls, hls.space hspace, hts⟩
  | case3 => cases h
  | case4 c cs _ t cs' hnext ih =>
    obtain ⟨ts', hscan, rfl⟩ := Option.map_eq_some_iff.mp h
    obtain ⟨l, word, hcs, hspells, hdenotes, _⟩ := next_eq_some hnext
    obtain ⟨ls, hls, hts⟩ := ih hscan
    rw [hcs]
    exact ⟨l :: ls, .cons (List.forall_mem_nil _) hspells hls, .cons hdenotes hts⟩

end Lexeme

/-! ## Where the reader stands -/

section Standing

open Document

/-- Words of documents, with a comma behind each of them. -/
def followed (words : List (List Lexeme)) : List Lexeme := words.flatMap (· ++ [.mark .comma])

theorem followed_concat (words : List (List Lexeme)) (w : List Lexeme) :
    followed (words ++ [w]) = followed words ++ (w ++ [.mark .comma]) := by
  simp [followed]

theorem intercalate_concat (words : List (List Lexeme)) (w : List Lexeme) :
    [Lexeme.mark .comma].intercalate (words ++ [w]) = followed words ++ w := by
  induction words with
  | nil => simp [followed]
  | cons w' words ih =>
    cases hrest : words ++ [w] with
    | nil => simp at hrest
    | cons w'' rest =>
      rw [hrest] at ih
      simp [hrest, List.intercalate_cons_cons, ih, followed]

/-- The words that an open array or object was read from. -/
def Frame.Written : Frame → List Lexeme → Prop
  | .array items, ls => ∃ ds : List Document, ds.mapM value? = some items.reverse ∧
      ls = .mark .openArray :: followed (ds.map lexemes)
  | .object members, ls => ∃ ms : List (List Piece × Document),
      ms.mapM memberValue? = some members.reverse ∧
      ls = .mark .openObject :: followed (ms.map memberWords)
  | .member members k, ls => ∃ (ms : List (List Piece × Document)) (key : List Piece),
      ms.mapM memberValue? = some members.reverse ∧ Piece.chars? key = some k.toList ∧
      ls = .mark .openObject :: followed (ms.map memberWords) ++ [.string key, .mark .colon]

def FramesWritten : List Frame → List Lexeme → Prop
  | [], ls => ls = []
  | f :: frames, ls => ∃ before words, FramesWritten frames before ∧ f.Written words ∧
      ls = before ++ words

/-- The words behind those of the open arrays and objects. An end is allowed only in an array or
object that has just been opened. -/
def Expect.Written (frames : List Frame) : Expect → List Lexeme → Prop
  | .value orEnd, ls => (orEnd = true → frames.head? = some (.array [])) ∧ ls = []
  | .key orEnd, ls => (orEnd = true → frames.head? = some (.object [])) ∧ ls = []
  | .colon k, ls => ∃ key, Piece.chars? key = some k.toList ∧ ls = [.string key]
  | .after v, ls => ∃ d : Document, d.value? = some v ∧ ls = d.lexemes

/-- The words that have been read where the reader stands. -/
def Stands (expect : Expect) (frames : List Frame) (ls : List Lexeme) : Prop :=
  ∃ before words, FramesWritten frames before ∧ expect.Written frames words ∧ ls = before ++ words

theorem mapM_concat {α β : Type} {f : α → Option β} {xs : List α} {ys : List β} {x : α} {y : β}
    (hxs : xs.mapM f = some ys.reverse) (hx : f x = some y) :
    (xs ++ [x]).mapM f = some (y :: ys).reverse := by
  rw [mapM_append_eq, hxs, mapM_cons_eq, hx, List.reverse_cons]
  rfl

theorem eq_nil_of_mapM {α β : Type} {f : α → Option β} {xs : List α}
    (h : xs.mapM f = some []) : xs = [] := by
  cases xs with
  | nil => rfl
  | cons x xs =>
    rw [mapM_cons_eq] at h
    obtain ⟨y, _, hrest⟩ := Option.bind_eq_some_iff.mp h
    obtain ⟨ys, _, hne⟩ := Option.map_eq_some_iff.mp hrest
    cases hne

variable {frames : List Frame}

theorem written_value : Expect.Written frames (.value false) [] :=
  ⟨fun h => (Bool.false_ne_true h).elim, rfl⟩

theorem written_key : Expect.Written frames (.key false) [] :=
  ⟨fun h => (Bool.false_ne_true h).elim, rfl⟩

section Closed

variable {ds : List Document} {ms : List (List Piece × Document)}

/-- The items of a closed array and the marks around them are the words of a document. -/
theorem written_array {items : List Json} (h : ds.mapM value? = some items) :
    Expect.Written frames (.after (.array items))
      (.mark .openArray :: [Lexeme.mark .comma].intercalate (ds.map lexemes) ++
        [.mark .closeArray]) := by
  refine ⟨.array ds, ?_, ?_⟩
  · rw [value?, itemValues?_eq_mapM, h, Option.map_some]
  · rw [lexemes, itemLexemes_eq_map]

theorem written_object {members : List (String × Json)}
    (h : ms.mapM memberValue? = some members) :
    Expect.Written frames (.after (.object members))
      (.mark .openObject :: [Lexeme.mark .comma].intercalate (ms.map memberWords) ++
        [.mark .closeObject]) := by
  refine ⟨.object ms, ?_, ?_⟩
  · rw [value?, memberValues?_eq_mapM, h, Option.map_some]
  · rw [lexemes, memberLexemes_eq_map]

end Closed

namespace Stands

variable {ls : List Lexeme}

/-! ### Values -/

/-- A document is read where a value is expected. -/
theorem value {orEnd : Bool} {v : Json} (h : Stands (.value orEnd) frames ls) {d : Document}
    (hv : d.value? = some v) : Stands (.after v) frames (ls ++ d.lexemes) := by
  obtain ⟨before, _, hframes, ⟨_, rfl⟩, rfl⟩ := h
  exact ⟨before, d.lexemes, hframes, ⟨d, hv, rfl⟩, by rw [List.append_nil]⟩

theorem scalar {orEnd : Bool} {v : Json} {l : Lexeme} (h : Stands (.value orEnd) frames ls)
    (hl : l.Denotes (.scalar v)) : Stands (.after v) frames (ls ++ [l]) := by
  obtain ⟨d, hd, hv⟩ := hl
  exact hd ▸ h.value hv

theorem text {orEnd : Bool} {s : String} {l : Lexeme} (h : Stands (.value orEnd) frames ls)
    (hl : l.Denotes (.text s)) : Stands (.after (.text s)) frames (ls ++ [l]) := by
  obtain ⟨ps, rfl, hchars⟩ := hl
  have hv : (Document.string ps).value? = some (.text s) := by
    rw [value?, hchars, Option.map_some, String.ofList_toList]
  exact h.value hv

/-! ### Opening -/

/-- A bracket or a brace opens a frame in which nothing has been read. -/
theorem opened {orEnd : Bool} {expect : Expect} {f : Frame} {t : Token}
    (h : Stands (.value orEnd) frames ls) (hf : f.Written [.mark t])
    (hexpect : expect.Written (f :: frames) []) :
    Stands expect (f :: frames) (ls ++ [.mark t]) := by
  obtain ⟨before, _, hframes, ⟨_, rfl⟩, rfl⟩ := h
  exact ⟨before ++ [.mark t], [], ⟨before, _, hframes, hf, rfl⟩, hexpect, by simp⟩

theorem openArray {orEnd : Bool} (h : Stands (.value orEnd) frames ls) :
    Stands (.value true) (.array [] :: frames) (ls ++ [.mark .openArray]) :=
  h.opened ⟨[], rfl, rfl⟩ ⟨fun _ => rfl, rfl⟩

theorem openObject {orEnd : Bool} (h : Stands (.value orEnd) frames ls) :
    Stands (.key true) (.object [] :: frames) (ls ++ [.mark .openObject]) :=
  h.opened ⟨[], rfl, rfl⟩ ⟨fun _ => rfl, rfl⟩

/-! ### Going on inside -/

theorem key {orEnd : Bool} {k : String} {l : Lexeme} (h : Stands (.key orEnd) frames ls)
    (hl : l.Denotes (.text k)) : Stands (.colon k) frames (ls ++ [l]) := by
  obtain ⟨ps, rfl, hchars⟩ := hl
  obtain ⟨before, _, hframes, ⟨_, rfl⟩, rfl⟩ := h
  exact ⟨before, [.string ps], hframes, ⟨ps, hchars, rfl⟩, by rw [List.append_nil]⟩

theorem colon {members : List (String × Json)} {k : String}
    (h : Stands (.colon k) (.object members :: frames) ls) :
    Stands (.value false) (.member members k :: frames) (ls ++ [.mark .colon]) := by
  obtain ⟨_, _, ⟨before, _, hrest, ⟨ms, hms, rfl⟩, rfl⟩, ⟨key, hkey, rfl⟩, rfl⟩ := h
  exact ⟨_, [], ⟨before, _, hrest, ⟨ms, key, hms, hkey, rfl⟩, rfl⟩, written_value, by simp⟩

theorem nextItem {v : Json} {items : List Json} (h : Stands (.after v) (.array items :: frames) ls) :
    Stands (.value false) (.array (v :: items) :: frames) (ls ++ [.mark .comma]) := by
  obtain ⟨_, _, ⟨before, _, hrest, ⟨ds, hds, rfl⟩, rfl⟩, ⟨d, hv, rfl⟩, rfl⟩ := h
  refine ⟨_, [], ⟨before, _, hrest, ⟨ds ++ [d], mapM_concat hds hv, rfl⟩, rfl⟩,
    written_value, ?_⟩
  simp [followed_concat]

theorem nextMember {v : Json} {members : List (String × Json)} {k : String}
    (h : Stands (.after v) (.member members k :: frames) ls) :
    Stands (.key false) (.object ((k, v) :: members) :: frames) (ls ++ [.mark .comma]) := by
  obtain ⟨_, _, ⟨before, _, hrest, ⟨ms, key, hms, hkey, rfl⟩, rfl⟩, ⟨d, hv, rfl⟩, rfl⟩ := h
  have hmember : memberValue? (key, d) = some (k, v) := by simp [memberValue?, hkey, hv]
  refine ⟨_, [], ⟨before, _, hrest, ⟨ms ++ [(key, d)], mapM_concat hms hmember, rfl⟩, rfl⟩,
    written_key, ?_⟩
  simp [followed_concat, memberWords]

/-! ### Closing -/

/-- An array that ends where an item might stand has just been opened, so no comma stands before
the bracket. -/
theorem endArray {items : List Json} (h : Stands (.value true) (.array items :: frames) ls) :
    Stands (.after (.array items.reverse)) frames (ls ++ [.mark .closeArray]) := by
  obtain ⟨_, _, ⟨before, _, hrest, ⟨ds, hds, rfl⟩, rfl⟩, ⟨hempty, rfl⟩, rfl⟩ := h
  cases hempty rfl
  obtain rfl := eq_nil_of_mapM hds
  exact ⟨before, _, hrest, written_array hds, by simp [followed]⟩

theorem endObject {members : List (String × Json)}
    (h : Stands (.key true) (.object members :: frames) ls) :
    Stands (.after (.object members.reverse)) frames (ls ++ [.mark .closeObject]) := by
  obtain ⟨_, _, ⟨before, _, hrest, ⟨ms, hms, rfl⟩, rfl⟩, ⟨hempty, rfl⟩, rfl⟩ := h
  cases hempty rfl
  obtain rfl := eq_nil_of_mapM hms
  exact ⟨before, _, hrest, written_object hms, by simp [followed]⟩

theorem closeArray {v : Json} {items : List Json}
    (h : Stands (.after v) (.array items :: frames) ls) :
    Stands (.after (.array (v :: items).reverse)) frames (ls ++ [.mark .closeArray]) := by
  obtain ⟨_, _, ⟨before, _, hrest, ⟨ds, hds, rfl⟩, rfl⟩, ⟨d, hv, rfl⟩, rfl⟩ := h
  exact ⟨before, _, hrest, written_array (mapM_concat hds hv), by simp [intercalate_concat]⟩

theorem closeObject {v : Json} {members : List (String × Json)} {k : String}
    (h : Stands (.after v) (.member members k :: frames) ls) :
    Stands (.after (.object ((k, v) :: members).reverse)) frames (ls ++ [.mark .closeObject]) := by
  obtain ⟨_, _, ⟨before, _, hrest, ⟨ms, key, hms, hkey, rfl⟩, rfl⟩, ⟨d, hv, rfl⟩, rfl⟩ := h
  have hmember : memberValue? (key, d) = some (k, v) := by simp [memberValue?, hkey, hv]
  exact ⟨before, _, hrest, written_object (mapM_concat hms hmember),
    by simp [intercalate_concat, memberWords]⟩

end Stands

variable {limit : Nat}

/-- A step adds a word. -/
theorem Move.stands {t : Token} {expect expect' : Expect} {frames' : List Frame} {l : Lexeme}
    {ls : List Lexeme} (h : Move limit t expect frames expect' frames')
    (hl : l.Denotes t) (hstands : Stands expect frames ls) :
    Stands expect' frames' (ls ++ [l]) := by
  cases h with
  | scalar => exact hstands.scalar hl
  | text => exact hstands.text hl
  | openArray => exact hl ▸ hstands.openArray
  | openObject => exact hl ▸ hstands.openObject
  | endArray => exact hl ▸ hstands.endArray
  | key => exact hstands.key hl
  | endObject => exact hl ▸ hstands.endObject
  | colon => exact hl ▸ hstands.colon
  | nextItem => exact hl ▸ hstands.nextItem
  | nextMember => exact hl ▸ hstands.nextMember
  | closeArray => exact hl ▸ hstands.closeArray
  | closeObject => exact hl ▸ hstands.closeObject

/-- The reader comes to an end behind a document. -/
theorem Stands.document {ls ls' : List Lexeme} {ts : List Token} {expect : Expect} {v : Json}
    (hstands : Stands expect frames ls) (hts : List.Forall₂ Lexeme.Denotes ls' ts)
    (h : build limit ts expect frames = some v) :
    ∃ d : Document, d.lexemes = ls ++ ls' ∧ d.value? = some v := by
  induction hts generalizing ls expect frames with
  | nil =>
    obtain ⟨rfl, rfl⟩ := build_nil_eq_some.mp h
    obtain ⟨_, _, rfl, ⟨d, hv, rfl⟩, rfl⟩ := hstands
    exact ⟨d, by simp, hv⟩
  | cons hl _ ih =>
    obtain ⟨expect', frames', hmove, hbuild⟩ := build_cons_eq_some.mp h
    obtain ⟨d, hd, hv⟩ := ih (hmove.stands hl hstands) hbuild
    exact ⟨d, by rw [hd, List.append_assoc, List.singleton_append], hv⟩

end Standing

/-- What is read is a document. -/
theorem exists_document_of_readWithin {limit : Nat} {text : String} {v : Json}
    (h : readWithin limit text = some v) :
    ∃ d : Document, d.Spells text ∧ d.value? = some v := by
  obtain ⟨ts, hscan, hbuild⟩ := Option.bind_eq_some_iff.mp h
  obtain ⟨ls, hls, hts⟩ := Lexeme.scan_eq_some hscan
  have hstart : Stands (.value false) [] [] := ⟨[], [], rfl, written_value, rfl⟩
  obtain ⟨d, hd, hv⟩ := hstart.document hts hbuild
  rw [List.nil_append] at hd
  exact ⟨d, by rwa [Document.Spells, hd], hv⟩

/-- The reader takes the documents that denote something and are nested no deeper than its limit,
and nothing else. -/
theorem readWithin_eq_some {limit : Nat} {text : String} {v : Json} :
    readWithin limit text = some v ↔
      ∃ d : Document, d.Spells text ∧ d.nesting ≤ limit ∧ d.value? = some v := by
  constructor
  · intro h
    obtain ⟨d, hspells, hv⟩ := exists_document_of_readWithin h
    refine ⟨d, hspells, ?_, hv⟩
    by_contra hdeep
    rw [readWithin_document hspells, if_neg hdeep] at h
    cases h
  · rintro ⟨d, hspells, hlimit, hv⟩
    rw [readWithin_document hspells, if_pos hlimit, hv]

end ApiTypings.Json
