import ApiTypings.Json.Word
import ApiTypings.Proofs.JsonAcceptance
import Mathlib.Data.List.MinMax
import Mathlib.Order.Nat

/-!
# Members that are passed over

A reader that wants only some members of an object still has to find where the others end. It takes
the words of a text, with or without a token, and so it takes the documents of the grammar, whatever
their numbers and strings say. The members of an object it cuts apart at commas.

What it makes of a document is said here by itself: an object shows the members under the wanted
keys with the values that they denote, and everything else is read as a whole.
-/

namespace ApiTypings.Json

/-! ## Cutting into words -/

namespace Lexeme

open Token

/-- What a text is cut to at this place. -/
def asWord : Lexeme → Word
  | .mark t => .token t
  | .word v => .token (.scalar v)
  | .number x => x.value?.elim .hugeNumber fun v => .token (.scalar v)
  | .string ps => (Piece.chars? ps).elim .brokenText fun s => .token (.text (.ofList s))

theorem token?_asWord (l : Lexeme) : l.asWord.token? = l.token? := by
  cases l with
  | mark t => rfl
  | word v => rfl
  | number x =>
    rw [asWord, token?]
    cases x.value? <;> rfl
  | string ps =>
    rw [asWord, token?]
    cases Piece.chars? ps <;> rfl

theorem asWord_of_token? {l : Lexeme} {t : Token} (h : l.token? = some t) :
    l.asWord = .token t := by
  rw [← token?_asWord] at h
  cases hword : l.asWord with
  | token t' =>
    rw [hword] at h
    rw [Option.some.inj h]
  | _ =>
    rw [hword] at h
    cases h

theorem skipString_pieces {ps : List Piece} {cs : List Char} (h : Piece.SpellsAll ps cs)
    (rest : List Char) : Word.skipString (cs ++ '"' :: rest) = some rest := by
  induction h with
  | nil => rfl
  | cons hpiece _ ih =>
    rw [List.append_assoc]
    cases hpiece with
    | @plain c hquote hbackslash hcontrol =>
      rw [List.singleton_append, Word.skipString]
      · rw [if_neg (Nat.not_lt.mpr hcontrol), ih]
      · exact hquote
      · simp [hbackslash]
      · simp [hbackslash]
    | @letter l c hletter =>
      obtain ⟨hmark, hescape⟩ := letterEscape?_of_mem hletter
      rw [List.cons_append, List.singleton_append, Word.skipString]
      · rw [hescape, Option.isSome_some, if_pos rfl, ih]
      · simp [hmark]
    | unit h₁ h₂ h₃ h₄ =>
      simp only [List.cons_append, List.nil_append, Word.skipString, List.all_cons, List.all_nil,
        hexValue?_of_isHex h₁, hexValue?_of_isHex h₂, hexValue?_of_isHex h₃,
        hexValue?_of_isHex h₄, Option.isSome_some, Bool.and_self, if_true, ih]

theorem skipString_eq_some {cs rest : List Char} (h : Word.skipString cs = some rest) :
    ∃ ps es, cs = es ++ '"' :: rest ∧ Piece.SpellsAll ps es := by
  fun_induction Word.skipString cs with
  | case2 rest' =>
    cases h
    exact ⟨[], [], rfl, .nil⟩
  | case3 c₁ c₂ c₃ c₄ cs hdigits ih =>
    obtain ⟨ps, es, rfl, hps⟩ := ih h
    simp only [List.all_cons, List.all_nil, Bool.and_true, Bool.and_eq_true,
      Option.isSome_iff_exists] at hdigits
    obtain ⟨⟨n₁, h₁⟩, ⟨n₂, h₂⟩, ⟨n₃, h₃⟩, n₄, h₄⟩ := hdigits
    exact ⟨_, _, rfl, .cons (.unit (isHex_of_hexValue? h₁) (isHex_of_hexValue? h₂)
      (isHex_of_hexValue? h₃) (isHex_of_hexValue? h₄)) hps⟩
  | case5 l cs _ hescape ih =>
    obtain ⟨c, hc⟩ := Option.isSome_iff_exists.mp hescape
    obtain ⟨ps, es, rfl, hps⟩ := ih h
    exact ⟨_, _, rfl, .cons (.letter (mem_letters_of_letterEscape? hc)) hps⟩
  | case8 c cs hquote _ hbackslash hcontrol ih =>
    have hcs : c ≠ '\\' := by
      rintro rfl
      cases cs with
      | nil => cases h
      | cons d cs => exact hbackslash d cs rfl rfl
    obtain ⟨ps, es, rfl, hps⟩ := ih h
    exact ⟨_, _, rfl, .cons (.plain hquote hcs (Nat.le_of_not_lt hcontrol)) hps⟩
  | _ => cases h

/-- A word is cut off as it is, where a number ends. -/
theorem Spells.nextWord_eq {l : Lexeme} {cs : List Char} (h : l.Spells cs) {rest : List Char}
    (hrest : l.isNumber = true → Ends rest) :
    ∃ c cs', cs = c :: cs' ∧ isSpace c = false ∧ Word.next (cs ++ rest) = some (l.asWord, rest) := by
  obtain ⟨c, cs', hcs, hspace, hnext⟩ := h.next_eq hrest
  refine ⟨c, cs', hcs, hspace, ?_⟩
  unfold Word.next
  rw [hnext]
  cases htoken : l.token? with
  | some t => rw [Option.map_some, asWord_of_token? htoken]
  | none =>
    rw [Option.map_none]
    cases h with
    | mark => cases htoken
    | word => cases htoken
    | @number x _ hnumber =>
      obtain ⟨d, ds, hhead, hd⟩ := head_number hnumber
      have hquote (r : List Char) : cs ++ rest ≠ '"' :: r := by
        rw [hhead]
        rintro ⟨⟩
        rcases hd with hd | hd <;> cases hd
      have hvalue : x.value? = none := Option.map_eq_none_iff.mp htoken
      dsimp only
      split
      · next heq => exact (hquote _ heq).elim
      · rw [readNumeral_spells hnumber (hrest rfl), asWord, hvalue]
        rfl
    | @string ps es hpieces =>
      have hchars : Piece.chars? ps = none := Option.map_eq_none_iff.mp htoken
      rw [List.cons_append, List.append_assoc, List.singleton_append, asWord, hchars]
      exact congrArg (Option.map _) (skipString_pieces hpieces rest)

theorem scanWords_space {c : Char} (h : isSpace c = true) (cs : List Char) :
    Word.scan (c :: cs) = Word.scan cs := by
  rw [Word.scan, if_pos h]

theorem scanWords_next {c : Char} {cs rest : List Char} {w : Word} (hspace : isSpace c = false)
    (h : Word.next (c :: cs) = some (w, rest)) :
    Word.scan (c :: cs) = (Word.scan rest).map (w :: ·) := by
  rw [Word.scan, if_neg (by simp [hspace])]
  split
  · next hnone =>
    rw [h] at hnone
    cases hnone
  · next hsome =>
    cases h.symm.trans hsome
    rfl

theorem scanWords_blanks {blanks : List Char} (h : IsBlank blanks) (cs : List Char) :
    Word.scan (blanks ++ cs) = Word.scan cs := by
  induction blanks with
  | nil => rfl
  | cons c blanks ih =>
    obtain ⟨hc, hblanks⟩ := List.forall_mem_cons.mp h
    rw [List.cons_append, scanWords_space (isSpace_of_mem hc), ih hblanks]

/-- A text of words is cut into them. -/
theorem SpellsAll.scanWords_eq {ls : List Lexeme} {cs : List Char} (h : SpellsAll ls cs)
    (hseparated : Separated ls) : Word.scan cs = some (ls.map asWord) := by
  induction h with
  | @nil blanks hblanks =>
    rw [← List.append_nil blanks, scanWords_blanks hblanks, Word.scan]
    rfl
  | @cons l ls blanks cs cs' hblanks hfirst hrest ih =>
    have hend : l.isNumber = true → Ends cs' := by
      intro hnumber
      refine hrest.ends fun l' hl' => ?_
      obtain ⟨ls', rfl⟩ := List.head?_eq_some_iff.mp hl'
      exact List.isChain_cons_cons.mp hseparated |>.1 hnumber
    obtain ⟨c, rest, rfl, hspace, hnext⟩ := hfirst.nextWord_eq hend
    rw [List.cons_append] at hnext
    rw [scanWords_blanks hblanks, List.cons_append, scanWords_next hspace hnext,
      ih hseparated.of_cons, Option.map_some, List.map_cons]

/-- What is cut off a text is a word at its beginning. -/
theorem nextWord_eq_some {cs rest : List Char} {w : Word} (h : Word.next cs = some (w, rest)) :
    ∃ l word, cs = word ++ rest ∧ Spells l word ∧ l.asWord = w := by
  unfold Word.next at h
  split at h
  · next hnext =>
    cases h
    obtain ⟨l, word, hcs, hspells, _, htoken⟩ := next_eq_some hnext
    exact ⟨l, word, hcs, hspells, asWord_of_token? htoken⟩
  · next hnone =>
    split at h
    · next cs =>
      obtain ⟨_, hskip, heq⟩ := Option.map_eq_some_iff.mp h
      cases heq
      obtain ⟨ps, es, rfl, hps⟩ := skipString_eq_some hskip
      rw [next_quote, readString_pieces hps, Option.map_map, Option.map_eq_none_iff] at hnone
      refine ⟨.string ps, '"' :: (es ++ ['"']), by simp, .string hps, ?_⟩
      rw [asWord, hnone, Option.elim_none]
    · obtain ⟨⟨x, _⟩, hread, heq⟩ := Option.map_eq_some_iff.mp h
      cases heq
      obtain ⟨word, rfl, hx⟩ := readNumeral_eq_some hread
      obtain ⟨c, cs', rfl, hc⟩ := head_number hx
      rw [List.cons_append] at hread hnone
      rw [next_numeral hc hread, Option.map_eq_none_iff] at hnone
      refine ⟨.number x, c :: cs', rfl, .number hx, ?_⟩
      rw [asWord, hnone, Option.elim_none]

/-- A text that is cut into words is a text of words. -/
theorem scanWords_eq_some {cs : List Char} {ws : List Word} (h : Word.scan cs = some ws) :
    ∃ ls, SpellsAll ls cs ∧ ls.map asWord = ws := by
  fun_induction Word.scan cs generalizing ws with
  | case1 =>
    cases h
    exact ⟨[], .nil (List.forall_mem_nil _), rfl⟩
  | case2 c cs hspace ih =>
    obtain ⟨ls, hls, hws⟩ := ih h
    exact ⟨ls, hls.space hspace, hws⟩
  | case3 => cases h
  | case4 c cs _ w cs' hnext ih =>
    obtain ⟨ws', hscan, rfl⟩ := Option.map_eq_some_iff.mp h
    obtain ⟨l, word, hcs, hspells, rfl⟩ := nextWord_eq_some hnext
    obtain ⟨ls, hls, rfl⟩ := ih hscan
    rw [hcs]
    exact ⟨l :: ls, .cons (List.forall_mem_nil _) hspells hls, rfl⟩

/-! ## Outlines -/

/-- Words of one kind, which differ at most in what a number or a string says. -/
inductive Alike : Lexeme → Lexeme → Prop
  | mark (t : Token) : Alike (.mark t) (.mark t)
  | word (v : Json) : Alike (.word v) (.word v)
  | number (x y : Numeral) : Alike (.number x) (.number y)
  | string (ps qs : List Piece) : Alike (.string ps) (.string qs)

theorem Alike.symm {l l' : Lexeme} (h : Alike l l') : Alike l' l := by
  cases h <;> constructor

/-- A word of the same kind that has a token in any case. -/
def sketch : Lexeme → Lexeme
  | .mark t => .mark t
  | .word v => .word v
  | .number x => .number (if x.value?.isSome then x else ⟨false, ['0'], none, none⟩)
  | .string ps => .string (if (Piece.chars? ps).isSome then ps else [])

theorem alike_sketch (l : Lexeme) : Alike l l.sketch := by
  cases l <;> constructor

/-- Where a word is passed over, it counts as its sketch. -/
theorem token?_sketch (l : Lexeme) : l.sketch.token? = some l.asWord.outline := by
  cases l with
  | mark t => rfl
  | word v => rfl
  | number x =>
    rw [sketch, token?, asWord]
    cases hvalue : x.value? with
    | none => rfl
    | some v => rw [Option.isSome_some, if_pos rfl, hvalue, Option.map_some]; rfl
  | string ps =>
    rw [sketch, token?, asWord]
    cases hchars : Piece.chars? ps with
    | none => rfl
    | some s => rw [Option.isSome_some, if_pos rfl, hchars, Option.map_some]; rfl

theorem Spells.denotes_sketch {l : Lexeme} {cs : List Char} (h : l.Spells cs) :
    l.sketch.Denotes l.asWord.outline := by
  cases h with
  | mark hmark =>
    simp only [marks, List.mem_cons, Prod.mk.injEq, List.not_mem_nil, or_false] at hmark
    rcases hmark with ⟨rfl, rfl⟩ | ⟨rfl, rfl⟩ | ⟨rfl, rfl⟩ | ⟨rfl, rfl⟩ | ⟨rfl, rfl⟩ | ⟨rfl, rfl⟩ <;>
      rfl
  | word hword =>
    simp only [words, List.mem_cons, Prod.mk.injEq, List.not_mem_nil, or_false] at hword
    rcases hword with ⟨rfl, rfl⟩ | ⟨rfl, rfl⟩ | ⟨rfl, rfl⟩
    · exact ⟨.bool true, rfl, rfl⟩
    · exact ⟨.bool false, rfl, rfl⟩
    · exact ⟨.null, rfl, rfl⟩
  | @number x _ _ =>
    rw [sketch, asWord]
    cases hvalue : x.value? with
    | none => exact ⟨.number ⟨false, ['0'], none, none⟩, rfl, rfl⟩
    | some v => exact ⟨.number x, rfl, hvalue⟩
  | @string ps _ _ =>
    rw [sketch, asWord]
    cases hchars : Piece.chars? ps with
    | none => exact ⟨[], rfl, rfl⟩
    | some s => exact ⟨ps, rfl, hchars.trans (by rw [String.toList_ofList])⟩

/-- The words of a text count as their sketches. -/
theorem SpellsAll.denotes_sketch {ls : List Lexeme} {cs : List Char} (h : SpellsAll ls cs) :
    List.Forall₂ Denotes (ls.map sketch) (ls.map fun l => l.asWord.outline) := by
  induction h with
  | nil => exact .nil
  | cons _ hfirst _ ih => exact .cons hfirst.denotes_sketch ih

end Lexeme

namespace Document

open Lexeme (Alike)

theorem exists_append {α β : Type} {R : α → β → Prop} {xs xs' : List α} {ys : List β}
    (h : List.Forall₂ R (xs ++ xs') ys) :
    ∃ zs zs', ys = zs ++ zs' ∧ List.Forall₂ R xs zs ∧ List.Forall₂ R xs' zs' := by
  induction xs generalizing ys with
  | nil => exact ⟨[], ys, rfl, .nil, h⟩
  | cons x xs ih =>
    obtain ⟨y, ys, hx, hxs, rfl⟩ := List.forall₂_cons_left_iff.mp h
    obtain ⟨zs, zs', rfl, hzs, hzs'⟩ := ih hxs
    exact ⟨y :: zs, zs', rfl, .cons hx hzs, hzs'⟩

section Alike

variable {ls ls' : List Lexeme}

theorem alike_singleton {l : Lexeme} (h : List.Forall₂ Alike [l] ls) :
    ∃ l', ls = [l'] ∧ Alike l l' := by
  obtain ⟨l', rest, hl, hrest, rfl⟩ := List.forall₂_cons_left_iff.mp h
  obtain rfl := List.forall₂_nil_left_iff.mp hrest
  exact ⟨l', rfl, hl⟩

theorem alike_mark {t : Token} (h : List.Forall₂ Alike (.mark t :: ls) ls') :
    ∃ rest, ls' = .mark t :: rest ∧ List.Forall₂ Alike ls rest := by
  obtain ⟨l', rest, hl, hrest, rfl⟩ := List.forall₂_cons_left_iff.mp h
  cases hl
  exact ⟨rest, rfl, hrest⟩

/-- Words that are like those between brackets are between the same brackets. -/
theorem alike_between {t t' : Token}
    (h : List.Forall₂ Alike (.mark t :: ls ++ [.mark t']) ls') :
    ∃ inner, ls' = .mark t :: inner ++ [.mark t'] ∧ List.Forall₂ Alike ls inner := by
  obtain ⟨rest, rfl, hrest⟩ := alike_mark h
  obtain ⟨inner, last, rfl, hinner, hlast⟩ := exists_append hrest
  obtain ⟨nothing, rfl, hnothing⟩ := alike_mark hlast
  obtain rfl := List.forall₂_nil_left_iff.mp hnothing
  exact ⟨inner, rfl, hinner⟩

/-- Words that are like those between commas are between commas. -/
theorem alike_intercalate {α : Type} {f : α → List Lexeme} {xs : List α}
    (h : ∀ x ∈ xs, ∀ ls, List.Forall₂ Alike (f x) ls → ∃ y, f y = ls)
    (hls : List.Forall₂ Alike ([Lexeme.mark .comma].intercalate (xs.map f)) ls) :
    ∃ ys : List α, ys.length = xs.length ∧ [Lexeme.mark .comma].intercalate (ys.map f) = ls := by
  induction xs generalizing ls with
  | nil =>
    obtain rfl := List.forall₂_nil_left_iff.mp hls
    exact ⟨[], rfl, rfl⟩
  | cons x xs ih =>
    obtain ⟨hx, hxs⟩ := List.forall_mem_cons.mp h
    cases xs with
    | nil =>
      rw [List.map_singleton, List.intercalate_singleton] at hls
      obtain ⟨y, rfl⟩ := hx ls hls
      exact ⟨[y], rfl, List.intercalate_singleton ..⟩
    | cons x' xs =>
      have hcommas (x y : α) (rest : List α) :
          [Lexeme.mark .comma].intercalate ((x :: y :: rest).map f) =
            f x ++ .mark .comma :: [Lexeme.mark .comma].intercalate ((y :: rest).map f) := by
        simp [List.intercalate_cons_cons]
      rw [hcommas] at hls
      obtain ⟨first, behind, rfl, hfirst, hbehind⟩ := exists_append hls
      obtain ⟨y, rfl⟩ := hx first hfirst
      obtain ⟨rest, rfl, hrest⟩ := alike_mark hbehind
      obtain ⟨ys, hlength, rfl⟩ := ih hxs hrest
      obtain ⟨y', ys, rfl⟩ := List.exists_cons_of_length_eq_add_one hlength
      exact ⟨y :: y' :: ys, congrArg (· + 1) hlength, hcommas y y' ys⟩

end Alike

/-- Words that are like those of a document are those of one. -/
theorem exists_lexemes (d : Document) {ls : List Lexeme}
    (h : List.Forall₂ Alike d.lexemes ls) : ∃ d' : Document, d'.lexemes = ls := by
  induction d using Document.induction generalizing ls with
  | null =>
    obtain ⟨_, rfl, ⟨⟩⟩ := alike_singleton h
    exact ⟨.null, rfl⟩
  | bool b =>
    obtain ⟨_, rfl, ⟨⟩⟩ := alike_singleton h
    exact ⟨.bool b, rfl⟩
  | number x =>
    obtain ⟨_, rfl, hl⟩ := alike_singleton h
    cases hl with
    | number _ y => exact ⟨.number y, rfl⟩
  | string ps =>
    obtain ⟨_, rfl, hl⟩ := alike_singleton h
    cases hl with
    | string _ qs => exact ⟨.string qs, rfl⟩
  | array items ih =>
    rw [lexemes, itemLexemes_eq_map] at h
    obtain ⟨inner, rfl, hinner⟩ := alike_between h
    obtain ⟨items', _, rfl⟩ := alike_intercalate (fun d hd ls hls => ih d hd hls) hinner
    exact ⟨.array items', by rw [lexemes, itemLexemes_eq_map]⟩
  | object members ih =>
    have hmember : ∀ m ∈ members, ∀ ls, List.Forall₂ Alike (memberWords m) ls →
        ∃ m', memberWords m' = ls := by
      intro m hm ls hls
      obtain ⟨_, behind, hkey, hbehind, rfl⟩ := List.forall₂_cons_left_iff.mp hls
      obtain ⟨value, rfl, hvalue⟩ := alike_mark hbehind
      obtain ⟨d, rfl⟩ := ih m hm hvalue
      cases hkey with
      | string _ key => exact ⟨(key, d), rfl⟩
    rw [lexemes, memberLexemes_eq_map] at h
    obtain ⟨inner, rfl, hinner⟩ := alike_between h
    obtain ⟨members', _, rfl⟩ := alike_intercalate hmember hinner
    exact ⟨.object members', by rw [lexemes, memberLexemes_eq_map]⟩

theorem length_le_intercalate {α : Type} {f : α → List Lexeme} {xs : List α} {x : α}
    (h : x ∈ xs) : (f x).length ≤ ([Lexeme.mark .comma].intercalate (xs.map f)).length := by
  induction xs with
  | nil => cases h
  | cons y ys ih =>
    cases ys with
    | nil =>
      obtain rfl := List.mem_singleton.mp h
      rw [List.map_singleton, List.intercalate_singleton]
    | cons z zs =>
      rw [List.map_cons, List.map_cons, List.intercalate_cons_cons, ← List.map_cons,
        List.length_append, List.length_append]
      rcases List.mem_cons.mp h with rfl | h
      · omega
      · have hlength := ih h
        omega

/-- A document has a word for each array and object around its innermost part. -/
theorem nesting_le_length (d : Document) : d.nesting ≤ d.lexemes.length := by
  induction d using Document.induction with
  | array items ih =>
    have hitems : (items.map nesting).foldr max 0 ≤
        ([Lexeme.mark .comma].intercalate (items.map lexemes)).length :=
      List.max_le_of_forall_le _ _ (List.forall_mem_map.mpr fun d hd =>
        (ih d hd).trans (length_le_intercalate hd))
    rw [nesting, itemNesting_eq, lexemes, itemLexemes_eq_map, List.cons_append, List.length_cons,
      List.length_append]
    omega
  | object members ih =>
    have hmember : ∀ m ∈ members, m.2.nesting ≤ (memberWords m).length := fun m hm =>
      (ih m hm).trans (Nat.le_add_right _ 2)
    have hmembers : (members.map fun m => m.2.nesting).foldr max 0 ≤
        ([Lexeme.mark .comma].intercalate (members.map memberWords)).length :=
      List.max_le_of_forall_le _ _ (List.forall_mem_map.mpr fun m hm =>
        (hmember m hm).trans (length_le_intercalate hm))
    rw [nesting, memberNesting_eq, lexemes, memberLexemes_eq_map, List.cons_append,
      List.length_cons, List.length_append]
    omega
  | _ => exact Nat.zero_le _

theorem mapM_sketch (ls : List Lexeme) :
    (ls.map Lexeme.sketch).mapM Lexeme.token? = some (ls.map fun l => l.asWord.outline) := by
  induction ls with
  | nil => rfl
  | cons l ls ih =>
    rw [List.map_cons, mapM_cons_eq, Lexeme.token?_sketch, ih]
    rfl

theorem forall₂_sketch (ls : List Lexeme) : List.Forall₂ Alike ls (ls.map Lexeme.sketch) :=
  List.forall₂_map_right_iff.mpr (List.forall₂_same.mpr fun l _ => l.alike_sketch)

/-- The words of a document are a value by the grammar. -/
theorem isValue_lexemes (d : Document) : Word.isValue (d.lexemes.map Lexeme.asWord) = true := by
  obtain ⟨d', hd'⟩ := d.exists_lexemes (forall₂_sketch d.lexemes)
  have htokens := d'.mapM_lexemes
  rw [hd', mapM_sketch] at htokens
  obtain ⟨v, hv, hwords⟩ := Option.map_eq_some_iff.mp htokens.symm
  have hnesting : v.nesting ≤ d.lexemes.length := by
    rw [nesting_of_value? hv]
    refine d'.nesting_le_length.trans ?_
    rw [hd', List.length_map]
  have hbuild := build_tokens d.lexemes.length v
  rw [if_pos hnesting, hwords] at hbuild
  rw [Word.isValue, List.map_map, List.length_map]
  exact Option.isSome_iff_exists.mpr ⟨v, hbuild⟩

/-- The words of a text that are a value by the grammar are those of a document. -/
theorem exists_of_isValue {ls : List Lexeme} {cs : List Char} (hls : Lexeme.SpellsAll ls cs)
    (h : Word.isValue (ls.map Lexeme.asWord) = true) : ∃ d : Document, d.lexemes = ls := by
  rw [Word.isValue, List.map_map] at h
  obtain ⟨v, hv⟩ := Option.isSome_iff_exists.mp h
  have hstart : Stands (.value false) [] [] := ⟨[], [], rfl, written_value, rfl⟩
  obtain ⟨d, hd, _⟩ := hstart.document hls.denotes_sketch hv
  rw [List.nil_append] at hd
  have halike : List.Forall₂ Alike d.lexemes ls := by
    rw [hd]
    exact (forall₂_sketch ls).flip.imp fun _ _ => Lexeme.Alike.symm
  exact d.exists_lexemes halike

/-! ## Members -/

open Lexeme (asWord)

/-- Words in front of the first part that follows. -/
def attach (ws : List Word) (parts : List (List Word)) : List (List Word) :=
  ws.foldr (fun w parts => match parts with
    | [] => [[w]]
    | part :: parts => (w :: part) :: parts) parts

theorem attach_append (ws ws' : List Word) (parts : List (List Word)) :
    attach (ws ++ ws') parts = attach ws (attach ws' parts) := List.foldr_append

theorem attach_cons (ws part : List Word) (parts : List (List Word)) :
    attach ws (part :: parts) = (ws ++ part) :: parts := by
  induction ws with
  | nil => rfl
  | cons w ws ih => rw [← List.singleton_append, attach_append, ih]; rfl

theorem attach_nil {ws : List Word} (h : ws ≠ []) : attach ws [] = [ws] := by
  obtain ⟨ws, w, rfl⟩ := List.eq_nil_or_concat' ws |>.resolve_left h
  rw [attach_append]
  exact attach_cons ws [w] []

/-- A word that does not end a member belongs to it. -/
theorem cut_word {depth : Nat} {w : Word}
    (h : depth = 0 → w ≠ .token .comma ∧ w ≠ .token .closeObject) (ws : List Word) :
    Word.cut depth (w :: ws) = attach [w] (Word.cut (w.depth depth) ws) := by
  rw [Word.cut]
  · rfl
  · exact fun hdepth => (h hdepth).1
  · exact fun hdepth => (h hdepth).2

/-- Words that stay together, whatever follows. -/
def Whole (depth : Nat) (ws : List Word) : Prop :=
  ∀ rest, Word.cut depth (ws ++ rest) = attach ws (Word.cut depth rest)

section Whole

variable {depth : Nat}

theorem Whole.append {ws ws' : List Word} (h : Whole depth ws) (h' : Whole depth ws') :
    Whole depth (ws ++ ws') := by
  intro rest
  rw [List.append_assoc, h, h', attach_append]

theorem whole_word {w : Word}
    (h : depth = 0 → w ≠ .token .comma ∧ w ≠ .token .closeObject) (hdepth : w.depth depth = depth) :
    Whole depth [w] := by
  intro rest
  rw [List.singleton_append, cut_word h, hdepth]

theorem whole_between {w w' : Word} {ws : List Word} (hfirst : ∀ depth, w.depth depth = depth + 1)
    (hlast : ∀ depth, w'.depth (depth + 1) = depth) (h : Whole (depth + 1) ws) :
    Whole depth (w :: ws ++ [w']) := by
  have hopens : depth = 0 → w ≠ .token .comma ∧ w ≠ .token .closeObject := by
    intro _
    constructor <;> (rintro rfl; cases hfirst 0)
  intro rest
  rw [List.cons_append, List.cons_append, List.append_assoc, List.singleton_append,
    cut_word hopens, hfirst, h, cut_word (fun hzero => (Nat.succ_ne_zero depth hzero).elim), hlast,
    ← attach_append, ← attach_append]
  rfl

theorem whole_intercalate {α : Type} {f : α → List Lexeme} {xs : List α}
    (h : ∀ x ∈ xs, Whole (depth + 1) ((f x).map asWord)) :
    Whole (depth + 1) (([Lexeme.mark .comma].intercalate (xs.map f)).map asWord) := by
  induction xs with
  | nil => exact fun _ => rfl
  | cons x xs ih =>
    obtain ⟨hx, hxs⟩ := List.forall_mem_cons.mp h
    cases xs with
    | nil => rwa [List.map_singleton, List.intercalate_singleton]
    | cons y ys =>
      have hcomma : Whole (depth + 1) ([Lexeme.mark .comma].map asWord) :=
        whole_word (fun hzero => (Nat.succ_ne_zero depth hzero).elim) rfl
      rw [List.map_cons, List.map_cons, List.intercalate_cons_cons, ← List.map_cons,
        List.map_append, List.map_append]
      exact (hx.append hcomma).append (ih hxs)

theorem whole_number (x : Token.Numeral) : Whole depth ([Lexeme.number x].map asWord) := by
  rw [List.map_singleton, asWord]
  cases x.value? <;> exact whole_word (fun _ => by simp) rfl

theorem whole_string (ps : List Piece) : Whole depth ([Lexeme.string ps].map asWord) := by
  rw [List.map_singleton, asWord]
  cases Piece.chars? ps <;> exact whole_word (fun _ => by simp) rfl

theorem whole_member {m : List Piece × Document} (h : Whole depth (m.2.lexemes.map asWord)) :
    Whole depth ((memberWords m).map asWord) := by
  have hcolon : Whole depth ([Lexeme.mark .colon].map asWord) :=
    whole_word (fun _ => by simp [asWord]) rfl
  exact (whole_string m.1).append (hcolon.append h)

/-- The words of a document stay together. -/
theorem whole_lexemes (d : Document) (depth : Nat) : Whole depth (d.lexemes.map asWord) := by
  induction d using Document.induction generalizing depth with
  | null => exact whole_word (fun _ => by simp [asWord]) rfl
  | bool b => exact whole_word (fun _ => by simp [asWord]) rfl
  | number x => exact whole_number x
  | string ps => exact whole_string ps
  | array items ih =>
    rw [lexemes, itemLexemes_eq_map, List.map_append, List.map_cons, List.map_singleton]
    exact whole_between (fun _ => rfl) (fun _ => rfl)
      (whole_intercalate fun d hd => ih d hd (depth + 1))
  | object members ih =>
    rw [lexemes, memberLexemes_eq_map, List.map_append, List.map_cons, List.map_singleton]
    exact whole_between (fun _ => rfl) (fun _ => rfl)
      (whole_intercalate fun m hm => whole_member (ih m hm (depth + 1)))

end Whole

/-- The words of an object behind its opening brace. -/
def innerWords (members : List (List Piece × Document)) : List Word :=
  ([Lexeme.mark .comma].intercalate (members.map memberWords)).map asWord ++ [.token .closeObject]

theorem asWord_object (members : List (List Piece × Document)) :
    (object members).lexemes.map asWord = .token .openObject :: innerWords members := by
  rw [lexemes, memberLexemes_eq_map, List.map_append, List.map_cons]
  rfl

/-- An object is cut into its members. -/
theorem cut_innerWords (members : List (List Piece × Document)) :
    Word.cut 0 (innerWords members) = members.map fun m => (memberWords m).map asWord := by
  induction members with
  | nil => rfl
  | cons m members ih =>
    have hmember : Whole 0 ((memberWords m).map asWord) := whole_member (whole_lexemes m.2 0)
    cases members with
    | nil =>
      rw [innerWords, List.map_singleton, List.intercalate_singleton, hmember, Word.cut]
      exact attach_nil (by simp [memberWords])
    | cons m' members =>
      have hwords : innerWords (m :: m' :: members) =
          (memberWords m).map asWord ++ .token .comma :: innerWords (m' :: members) := by
        simp [innerWords, List.intercalate_cons_cons, asWord]
      rw [hwords, hmember, Word.cut, ih, attach_cons, List.append_nil, List.map_cons (a := m)]

/-! ## What is read -/

/-- The members of an object under the wanted keys, with the values that they denote. All keys have
to be texts, and around the values lies the object. -/
inductive ShowsMembers (keys : List String) :
    List (List Piece × Document) → List (String × Json) → Prop
  | nil : ShowsMembers keys [] []
  | wanted {ps : List Piece} {d : Document} {rest : List (List Piece × Document)} {key : String}
      {v : Json} {members : List (String × Json)} : Piece.chars? ps = some key.toList →
      key ∈ keys → d.nesting + 1 ≤ maxNesting → d.value? = some v →
      ShowsMembers keys rest members → ShowsMembers keys ((ps, d) :: rest) ((key, v) :: members)
  | passed {ps : List Piece} {d : Document} {rest : List (List Piece × Document)} {key : String}
      {members : List (String × Json)} : Piece.chars? ps = some key.toList → key ∉ keys →
      ShowsMembers keys rest members → ShowsMembers keys ((ps, d) :: rest) members

/-- What a document shows if only some members of it are wanted, in case it is an object. -/
inductive Shows (keys : List String) : Document → Json → Prop
  | object {written : List (List Piece × Document)} {members : List (String × Json)} :
      ShowsMembers keys written members → Shows keys (.object written) (.object members)
  | other {d : Document} {v : Json} : (∀ written, d ≠ .object written) →
      d.nesting ≤ maxNesting → d.value? = some v → Shows keys d v

theorem value?_lexemes (limit : Nat) (d : Document) :
    Word.value? limit (d.lexemes.map asWord) = if d.nesting ≤ limit then d.value? else none := by
  have htokens : (d.lexemes.map asWord).mapM Word.token? = d.value?.map tokens := by
    rw [← mapM_lexemes, List.mapM_map]
    exact congrArg (List.mapM · d.lexemes) (funext Lexeme.token?_asWord)
  rw [Word.value?, htokens]
  cases hvalue : d.value? with
  | none => simp
  | some v => rw [Option.map_some, Option.bind_some, build_tokens, nesting_of_value? hvalue]

theorem value?_lexemes_eq_some {limit : Nat} {d : Document} {v : Json} :
    Word.value? limit (d.lexemes.map asWord) = some v ↔ d.nesting ≤ limit ∧ d.value? = some v := by
  rw [value?_lexemes]
  split
  · next h => simp [h]
  · next h => simp [h]

theorem member?_memberWords (m : List Piece × Document) :
    Word.member? ((memberWords m).map asWord) =
      (Piece.chars? m.1).map fun s => (.ofList s, m.2.lexemes.map asWord) := by
  simp only [memberWords, List.map_cons, asWord]
  cases Piece.chars? m.1 <;> rfl

/-- The first member counts if its key is wanted, and has to have a key in any case. -/
theorem members?_cons (keys : List String) (m : List Piece × Document)
    (written : List (List Piece × Document)) :
    Word.members? keys (innerWords (m :: written)) =
      (Piece.chars? m.1).bind fun s => (Word.members? keys (innerWords written)).bind fun members =>
        if String.ofList s ∈ keys then
          (Word.value? (maxNesting - 1) (m.2.lexemes.map asWord)).map fun v =>
            (String.ofList s, v) :: members
        else some members := by
  simp only [Word.members?, cut_innerWords, List.map_cons, mapM_cons_eq, member?_memberWords,
    Option.bind_eq_bind]
  cases Piece.chars? m.1 with
  | none => rfl
  | some s =>
    cases (written.map fun m => (memberWords m).map asWord).mapM Word.member? with
    | none => rfl
    | some named =>
      simp only [Option.map_some, Option.bind_some]
      by_cases hwanted : String.ofList s ∈ keys
      · simp only [if_pos hwanted]
        rw [List.filter_cons_of_pos (by simpa using hwanted), mapM_cons_eq]
        generalize (named.filter (keys.contains ·.1)).mapM (m := Option) _ = others
        cases Word.value? (maxNesting - 1) (m.2.lexemes.map asWord) <;> cases others <;> rfl
      · simp only [if_neg hwanted]
        rw [List.filter_cons_of_neg (by simpa using hwanted), Option.bind_fun_some]

/-- The members that are read are those that an object shows. -/
theorem members?_innerWords {keys : List String} {written : List (List Piece × Document)}
    {members : List (String × Json)} :
    Word.members? keys (innerWords written) = some members ↔
      ShowsMembers keys written members := by
  induction written generalizing members with
  | nil =>
    constructor
    · rintro ⟨⟩
      exact .nil
    · rintro ⟨⟩
      rfl
  | cons m written ih =>
    obtain ⟨ps, d⟩ := m
    simp only [members?_cons, Option.bind_eq_some_iff, ih]
    constructor
    · rintro ⟨s, hs, members, hmembers, h⟩
      have hkey : Piece.chars? ps = some (String.ofList s).toList := by rw [hs, String.toList_ofList]
      split at h
      · next hwanted =>
        obtain ⟨v, hvalue, rfl⟩ := Option.map_eq_some_iff.mp h
        obtain ⟨hnesting, hv⟩ := value?_lexemes_eq_some.mp hvalue
        exact .wanted hkey hwanted (Nat.add_le_of_le_sub (by decide) hnesting) hv hmembers
      · next hunwanted =>
        cases h
        exact .passed hkey hunwanted hmembers
    · intro h
      cases h with
      | @wanted _ _ _ key v _ hkey hwanted hnesting hv hmembers =>
        refine ⟨_, hkey, _, hmembers, ?_⟩
        rw [String.ofList_toList, if_pos hwanted,
          value?_lexemes_eq_some.mpr ⟨Nat.le_sub_of_add_le hnesting, hv⟩, Option.map_some]
      | passed hkey hunwanted hmembers =>
        refine ⟨_, hkey, _, hmembers, ?_⟩
        rw [String.ofList_toList, if_neg hunwanted]

/-- Of a document that is no object all is read. -/
theorem only?_lexemes {keys : List String} {d : Document} (h : ∀ written, d ≠ .object written) :
    Word.only? keys (d.lexemes.map asWord) = Word.value? maxNesting (d.lexemes.map asWord) := by
  cases d with
  | object written => exact (h written rfl).elim
  | number x =>
    rw [lexemes, List.map_singleton, asWord]
    cases x.value? <;> rfl
  | string ps =>
    rw [lexemes, List.map_singleton, asWord]
    cases Piece.chars? ps <;> rfl
  | _ => rfl

theorem only?_eq_some {keys : List String} {d : Document} {v : Json} :
    Word.only? keys (d.lexemes.map asWord) = some v ↔ Shows keys d v := by
  constructor
  · intro h
    by_cases hobject : ∃ written, d = .object written
    · obtain ⟨written, rfl⟩ := hobject
      rw [asWord_object] at h
      obtain ⟨members, hmembers, rfl⟩ := Option.map_eq_some_iff.mp h
      exact .object (members?_innerWords.mp hmembers)
    · have hother : ∀ written, d ≠ .object written := fun written hd => hobject ⟨written, hd⟩
      rw [only?_lexemes hother] at h
      obtain ⟨hnesting, hv⟩ := value?_lexemes_eq_some.mp h
      exact .other hother hnesting hv
  · rintro (hmembers | ⟨hother, hnesting, hv⟩)
    · rw [asWord_object]
      exact congrArg (Option.map Json.object) (members?_innerWords.mpr hmembers)
    · rw [only?_lexemes hother]
      exact value?_lexemes_eq_some.mpr ⟨hnesting, hv⟩

end Document

/-- What a text shows if only some members are wanted. -/
def Shown (keys : List String) (text : String) (v : Json) : Prop :=
  ∃ d : Document, d.Spells text ∧ d.Shows keys v

theorem readOnly_eq_some {keys : List String} {text : String} {v : Json} :
    readOnly keys text = some v ↔ Shown keys text v := by
  constructor
  · intro h
    obtain ⟨ws, hscan, h⟩ := Option.bind_eq_some_iff.mp h
    obtain ⟨ls, hls, rfl⟩ := Lexeme.scanWords_eq_some hscan
    split at h
    · next hvalue =>
      obtain ⟨d, rfl⟩ := Document.exists_of_isValue hls hvalue
      exact ⟨d, hls, Document.only?_eq_some.mp h⟩
    · cases h
  · rintro ⟨d, hspells, hshows⟩
    rw [readOnly, Lexeme.SpellsAll.scanWords_eq hspells d.separated_lexemes, Option.bind_some,
      if_pos d.isValue_lexemes]
    exact Document.only?_eq_some.mpr hshows

theorem Shown.unique {keys : List String} {text : String} {v v' : Json} (h : Shown keys text v)
    (h' : Shown keys text v') : v = v' :=
  Option.some.inj ((readOnly_eq_some.mpr h).symm.trans (readOnly_eq_some.mpr h'))

end ApiTypings.Json
