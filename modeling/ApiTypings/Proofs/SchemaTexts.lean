import ApiTypings.Proofs.BodyFields
import ApiTypings.Proofs.JsonAcceptance

/-!
# Schemas in JSON documents

What becomes of a schema text that is a JSON document; no other text is read. Two depths play a
part. The levels of the schema are counted from its root; what lies below the last of them is left
open, and nothing else is lost. The nesting of the document counts every array and object, whether
it belongs to the schema or not, and a document above that limit is refused as a whole, with all
its properties. A level of a schema takes one or two levels of nesting, so deep schemas come to the
second limit before they come to the first.

Blanks at the ends of a text are dropped before it is read. More characters count as blanks there
than in a document, but no word of a document begins or ends with any of them.
-/

namespace ApiTypings

/-! ## Blanks around a document -/

namespace Text

theorem trimRight_append_cons {c : Char} (hc : isBlank c = false) (cs cs' : List Char) :
    trimRight (cs ++ c :: cs') = cs ++ c :: trimRight cs' := by
  induction cs with
  | nil =>
    cases hrest : trimRight cs' with
    | nil =>
      rw [List.nil_append, trimRight_cons_of_nil hrest, hc]
      rfl
    | cons d ds => rw [List.nil_append, trimRight_cons_of_cons hrest, List.nil_append]
  | cons d cs ih =>
    cases hcs : cs ++ c :: trimRight cs' with
    | nil => simp at hcs
    | cons e es =>
      rw [hcs] at ih
      rw [List.cons_append, trimRight_cons_of_cons ih, List.cons_append, hcs]

theorem isBlank_of_isDigit {c : Char} (h : c.isDigit = true) : isBlank c = false := by
  have hbounds : 48 ≤ c.toNat ∧ c.toNat ≤ 57 := by
    simp only [Char.isDigit, Bool.and_eq_true, decide_eq_true_eq, ge_iff_le,
      UInt32.le_iff_toNat_le] at h
    exact h
  refine Bool.eq_false_iff.mpr fun hblank => ?_
  simp only [isBlank, Bool.or_eq_true, Bool.and_eq_true, decide_eq_true_eq, beq_iff_eq] at hblank
  omega

end Text

namespace Json.Lexeme

open Text (isBlank trimRight trimRight_append_cons)

def StartsSolid (cs : List Char) : Prop := ∃ c cs', cs = c :: cs' ∧ isBlank c = false

def EndsSolid (cs : List Char) : Prop := ∃ cs' c, cs = cs' ++ [c] ∧ isBlank c = false

theorem EndsSolid.append {cs : List Char} (h : EndsSolid cs) (before : List Char) :
    EndsSolid (before ++ cs) := by
  obtain ⟨cs', c, rfl, hc⟩ := h
  exact ⟨before ++ cs', c, (List.append_assoc ..).symm, hc⟩

theorem IsBlank.isBlank {cs : List Char} (h : IsBlank cs) : ∀ c ∈ cs, Text.isBlank c = true := by
  intro c hc
  have hmem := h c hc
  simp only [List.mem_cons, List.not_mem_nil, or_false] at hmem
  rcases hmem with rfl | rfl | rfl | rfl <;> rfl

theorem endsSolid_digits {ds : List Char} (h : Token.Numeral.IsDigits ds) : EndsSolid ds := by
  obtain ⟨init, c, rfl⟩ := List.eq_nil_or_concat' ds |>.resolve_left h.ne_nil
  exact ⟨init, c, rfl, Text.isBlank_of_isDigit (h.digits c (by simp))⟩

/-- The last digit of a number belongs to the last part that is there. -/
theorem endsSolid_number {x : Token.Numeral} {cs : List Char} (h : x.Spells cs) : EndsSolid cs := by
  cases h with
  | mk hwhole _ hfraction hexponent =>
    refine EndsSolid.append ?_ _
    cases hexponent with
    | letter _ _ hds =>
      exact (((endsSolid_digits hds).append _).append [_] |>.append _).append _
    | none =>
      rw [List.append_nil]
      cases hfraction with
      | point hds => exact ((endsSolid_digits hds).append ['.']).append _
      | none =>
        rw [List.append_nil]
        exact endsSolid_digits hwhole

/-- A word neither begins nor ends with a blank. -/
theorem Spells.solid {l : Lexeme} {cs : List Char} (h : l.Spells cs) :
    StartsSolid cs ∧ EndsSolid cs := by
  cases h with
  | @mark c _ hmark =>
    have hc : isBlank c = false := by
      simp only [marks, List.mem_cons, Prod.mk.injEq, List.not_mem_nil, or_false] at hmark
      rcases hmark with ⟨rfl, _⟩ | ⟨rfl, _⟩ | ⟨rfl, _⟩ | ⟨rfl, _⟩ | ⟨rfl, _⟩ | ⟨rfl, _⟩ <;> rfl
    exact ⟨⟨c, [], rfl, hc⟩, [], c, rfl, hc⟩
  | word hword =>
    simp only [words, List.mem_cons, Prod.mk.injEq, List.not_mem_nil, or_false] at hword
    rcases hword with ⟨rfl, _⟩ | ⟨rfl, _⟩ | ⟨rfl, _⟩
    · exact ⟨⟨'t', _, rfl, rfl⟩, ['t', 'r', 'u'], 'e', rfl, rfl⟩
    · exact ⟨⟨'f', _, rfl, rfl⟩, ['f', 'a', 'l', 's'], 'e', rfl, rfl⟩
    · exact ⟨⟨'n', _, rfl, rfl⟩, ['n', 'u', 'l'], 'l', rfl, rfl⟩
  | number hnumber =>
    obtain ⟨c, cs', rfl, hc⟩ := head_number hnumber
    refine ⟨⟨c, cs', rfl, ?_⟩, endsSolid_number hnumber⟩
    rcases hc with hc | rfl
    · exact Text.isBlank_of_isDigit hc
    · rfl
  | @string _ cs _ => exact ⟨⟨'"', _, rfl, rfl⟩, '"' :: cs, '"', rfl, rfl⟩

theorem SpellsAll.trimRight {ls : List Lexeme} {cs : List Char} (h : SpellsAll ls cs) :
    SpellsAll ls (Text.trimRight cs) := by
  induction h with
  | nil hblanks =>
    rw [Text.trimRight_eq_nil_iff.mpr hblanks.isBlank]
    exact .nil (List.forall_mem_nil _)
  | @cons l ls blanks cs cs' hblanks hfirst _ ih =>
    obtain ⟨_, init, c, rfl, hc⟩ := hfirst.solid
    have htrim : Text.trimRight (blanks ++ (init ++ [c] ++ cs')) =
        blanks ++ (init ++ [c] ++ Text.trimRight cs') := by
      have hcut := trimRight_append_cons hc (blanks ++ init) cs'
      simpa using hcut
    rw [htrim]
    exact .cons hblanks hfirst ih

/-- Trimming takes no part of a word away. -/
theorem SpellsAll.trimChars {l : Lexeme} {ls : List Lexeme} {cs : List Char}
    (h : SpellsAll (l :: ls) cs) : SpellsAll (l :: ls) (Text.trimChars cs) := by
  cases h with
  | @cons _ _ blanks cs cs' hblanks hfirst hrest =>
    obtain ⟨⟨c, tail, rfl, hc⟩, _⟩ := hfirst.solid
    have hdrop : (blanks ++ (c :: tail ++ cs')).dropWhile isBlank = [] ++ (c :: tail ++ cs') := by
      rw [List.dropWhile_append_of_pos hblanks.isBlank, List.cons_append,
        List.dropWhile_cons_of_neg (by simp [hc])]
      rfl
    rw [Text.trimChars, hdrop]
    exact (SpellsAll.cons (List.forall_mem_nil _) hfirst hrest).trimRight

end Json.Lexeme

namespace Json.Document

theorem lexemes_ne_nil (d : Document) : d.lexemes ≠ [] := by
  cases d <;> simp [lexemes]

/-- Trimming leaves a document the same document. -/
theorem Spells.trim {d : Document} {text : String} (h : d.Spells text) :
    d.Spells (Text.trim text) := by
  obtain ⟨l, ls, hlexemes⟩ := List.exists_cons_of_ne_nil d.lexemes_ne_nil
  rw [Spells, hlexemes] at h ⊢
  rw [Text.trim, String.toList_ofList]
  exact h.trimChars

end Json.Document

namespace Schema

/-! ## Levels -/

/-- The node with everything unknown that lies the given number of levels below its root. -/
def Node.cut : Nat → Node → Node
  | 0, _ => .unknown
  | levels + 1, .array item => .array (cut levels item)
  | levels + 1, .object properties required =>
    .object (properties.map fun p => { p with node := cut levels p.node }) required
  | _ + 1, node => node

/-- Reading with a limit leaves what lies below it unknown, and nothing else. -/
theorem Node.ofJsonWithin_eq_cut (levels : Nat) (value : Json) :
    ofJsonWithin levels value = (ofJsonUnlimited value).cut levels := by
  induction levels generalizing value with
  | zero => rw [ofJsonWithin, cut]
  | succ levels ih =>
    rw [ofJsonWithin_succ, ofJsonUnlimited_eq]
    cases value with
    | object members =>
      unfold ofLevel
      dsimp only
      cases TypeEntry.of (Assoc.find? "type" members) with
      | malformed => rfl
      | kinds kinds => rfl
      | kind kind =>
        cases kind with
        | array =>
          dsimp only
          split
          · rfl
          · rfl
          · rw [cut, ih]
        | object =>
          dsimp only
          split
          · simp only [cut, List.map_map, Function.comp_def, ih]
          · rfl
        | _ => rfl
    | _ => rfl

/-! ## Documents that declare properties -/

/-- A value that says it is an object, or does not say what it is, and lists some properties. -/
def Declares (v : Json) : Prop :=
  ∃ members properties, v = .object members ∧
    (∀ value, Assoc.last? "type" members = some value →
      ∃ name, value = .text name ∧ Text.lowerAscii (Text.trim name) = "object") ∧
    Assoc.last? "properties" members = some (.object properties) ∧ properties ≠ []

theorem declaresProperties_iff {text : String} :
    (∃ members properties, DeclaresProperties text members properties) ↔
      ∃ v, Json.readRaw (Text.trim text) = some v ∧ Declares v := by
  constructor
  · rintro ⟨members, properties, h⟩
    exact ⟨_, h.reads, members, properties, rfl, h.type, h.listed, h.nonempty⟩
  · rintro ⟨_, hread, members, properties, rfl, htype, hlisted, hne⟩
    exact ⟨members, properties, hread, htype, hlisted, hne⟩

section Document

variable {d : Json.Document} {text : String}

theorem ofText?_document (h : d.Spells text) :
    Node.ofText? text =
      if d.nesting ≤ 127 then d.value?.map fun v => .ofJson v.unique else none := by
  rw [Node.ofText?, Json.read, Json.readRaw, Json.readWithin_document h, Json.maxNesting]
  split
  · rw [Option.map_map]
    rfl
  · rfl

theorem bodyRecord_document (h : d.Spells text) (name : String) :
    (bodyRecord name (some text)).isSome = true ↔
      d.nesting ≤ 127 ∧ ∃ v, d.value? = some v ∧ Declares v := by
  have hdeclares : (bodyRecord name (some text)).isSome = true ↔
      ∃ v, Json.readRaw (Text.trim text) = some v ∧ Declares v := by
    rw [(bodyRecord_follows name (some text)).present, ← declaresProperties_iff]
    simp
  rw [hdeclares, Json.readRaw, Json.readWithin_document h.trim, Json.maxNesting]
  split
  · next hlimit => simp [hlimit]
  · next hlimit => simp [hlimit]

end Document

/-! ## The two limits -/

/-- A schema is read from documents only. Of one that is nested no deeper than the reader follows it
is read, down to its last level, unless there is a number beyond all floating point numbers in it or
half of a surrogate pair. A body has a record exactly if its document is read and declares
properties. -/
theorem Node.ofText?_of_document (text : String) :
    ((ofText? text).isSome = true → ∃ d : Json.Document, d.Spells text) ∧
      ∀ d : Json.Document, d.Spells text →
        ((ofText? text).isSome = true ↔ d.nesting ≤ 127 ∧
          (∀ x, .number x ∈ d.lexemes → x.value?.isSome = true) ∧
          ∀ ps, .string ps ∈ d.lexemes → (Json.Piece.chars? ps).isSome = true) ∧
          (∀ v, d.value? = some v → d.nesting ≤ 127 →
            ofText? text = some ((ofJsonUnlimited v.unique).cut (maxDepth + 1))) ∧
          ∀ name, (bodyRecord name (some text)).isSome = true ↔
            d.nesting ≤ 127 ∧ ∃ v, d.value? = some v ∧ Declares v := by
  refine ⟨fun h => ?_, fun d h => ⟨?_, fun v hv hlimit => ?_, bodyRecord_document h⟩⟩
  · rw [ofText?, Option.isSome_map, Json.read, Option.isSome_map] at h
    obtain ⟨v, hread⟩ := Option.isSome_iff_exists.mp h
    obtain ⟨d, hspells, _⟩ := Json.readWithin_eq_some.mp hread
    exact ⟨d, hspells⟩
  · rw [ofText?_document h, ← d.isSome_value?]
    split
    · next hlimit => simp [hlimit]
    · next hlimit => simp [hlimit]
  · rw [ofText?_document h, if_pos hlimit, hv, Option.map_some, ofJson, ofJsonWithin_eq_cut]

/-! ## Deep documents -/

section Deep

open Json.Lexeme (SpellsAll)

/-- A text of a document, whatever follows. -/
def SpelledBy (d : Json.Document) (text : List Char) : Prop :=
  ∀ (ls : List Json.Lexeme) (cs : List Char), SpellsAll ls cs →
    SpellsAll (d.lexemes ++ ls) (text ++ cs)

theorem SpelledBy.spells {d : Json.Document} {text : List Char} (h : SpelledBy d text) :
    d.Spells (.ofList text) := by
  have hall := h [] [] (.nil (List.forall_mem_nil _))
  rwa [List.append_nil, List.append_nil, ← String.toList_ofList (l := text)] at hall

variable {ls : List Json.Lexeme} {cs : List Char}

theorem spellsAll_word {l : Json.Lexeme} {word : List Char} (hword : l.Spells word)
    (h : SpellsAll ls cs) : SpellsAll (l :: ls) (word ++ cs) :=
  .cons (List.forall_mem_nil _) hword h

theorem spellsAll_mark {c : Char} {t : Json.Token} (hmark : (c, t) ∈ Json.Lexeme.marks)
    (h : SpellsAll ls cs) : SpellsAll (.mark t :: ls) (c :: cs) :=
  spellsAll_word (.mark hmark) h

/-- An empty array in arrays. -/
def arrays : Nat → Json.Document
  | 0 => .array []
  | n + 1 => .array [arrays n]

def arraysText : Nat → List Char
  | 0 => ['[', ']']
  | n + 1 => '[' :: (arraysText n ++ [']'])

theorem spelledBy_arrays (n : Nat) : SpelledBy (arrays n) (arraysText n) := by
  have hopen : ('[', .openArray) ∈ Json.Lexeme.marks := by simp [Json.Lexeme.marks]
  have hclose : (']', .closeArray) ∈ Json.Lexeme.marks := by simp [Json.Lexeme.marks]
  induction n with
  | zero => exact fun _ _ h => spellsAll_mark hopen (spellsAll_mark hclose h)
  | succ n ih =>
    intro ls cs h
    have hlexemes : (arrays (n + 1)).lexemes ++ ls =
        .mark .openArray :: ((arrays n).lexemes ++ .mark .closeArray :: ls) := by
      simp [arrays, Json.Document.lexemes, Json.Document.itemLexemes]
    have htext : arraysText (n + 1) ++ cs = '[' :: (arraysText n ++ ']' :: cs) := by
      simp [arraysText]
    rw [hlexemes, htext]
    exact spellsAll_mark hopen (ih _ _ (spellsAll_mark hclose h))

theorem nesting_arrays (n : Nat) : (arrays n).nesting = n + 1 := by
  induction n with
  | zero => rfl
  | succ n ih => simp [arrays, Json.Document.nesting, Json.Document.itemNesting, ih]

theorem value?_arrays (n : Nat) : ∃ v, (arrays n).value? = some v := by
  induction n with
  | zero => exact ⟨_, rfl⟩
  | succ n ih =>
    obtain ⟨v, hv⟩ := ih
    exact ⟨.array [v], by simp [arrays, Json.Document.value?, Json.Document.itemValues?, hv]⟩

/-- An object with a single member. -/
def single (key : String) (d : Json.Document) : Json.Document :=
  .object [(key.toList.map .char, d)]

def singleText (key : String) (text : List Char) : List Char :=
  '\x7b' :: '"' :: (key.toList ++ '"' :: ':' :: (text ++ ['\x7d']))

/-- Characters that stand for themselves in a string. -/
def isPlain (c : Char) : Bool := c != '"' && c != '\\' && 0x20 ≤ c.toNat

theorem spellsAll_plain {s : List Char} (h : s.all isPlain = true) :
    Json.Piece.SpellsAll (s.map .char) s := by
  induction s with
  | nil => exact .nil
  | cons c s ih =>
    rw [List.all_cons, Bool.and_eq_true] at h
    obtain ⟨hc, hs⟩ := h
    simp only [isPlain, Bool.and_eq_true, bne_iff_ne, decide_eq_true_eq] at hc
    exact .cons (.plain hc.1.1 hc.1.2 hc.2) (ih hs)

theorem SpelledBy.single {key : String} {d : Json.Document} {text : List Char}
    (h : SpelledBy d text) (hkey : key.toList.all isPlain = true) :
    SpelledBy (single key d) (singleText key text) := by
  have hopen : ('\x7b', .openObject) ∈ Json.Lexeme.marks := by simp [Json.Lexeme.marks]
  have hclose : ('\x7d', .closeObject) ∈ Json.Lexeme.marks := by simp [Json.Lexeme.marks]
  have hcolon : (':', .colon) ∈ Json.Lexeme.marks := by simp [Json.Lexeme.marks]
  intro ls cs hrest
  have hlexemes : (Schema.single key d).lexemes ++ ls = .mark .openObject ::
      .string (key.toList.map .char) :: .mark .colon :: (d.lexemes ++ .mark .closeObject :: ls) := by
    simp [Schema.single, Json.Document.lexemes, Json.Document.memberLexemes]
  have htext : singleText key text ++ cs =
      '\x7b' :: (('"' :: (key.toList ++ ['"'])) ++ ':' :: (text ++ '\x7d' :: cs)) := by
    simp [singleText]
  rw [hlexemes, htext]
  exact spellsAll_mark hopen (spellsAll_word (.string (spellsAll_plain hkey))
    (spellsAll_mark hcolon (h _ _ (spellsAll_mark hclose hrest))))

theorem nesting_single (key : String) (d : Json.Document) :
    (single key d).nesting = d.nesting + 1 := by
  simp [single, Json.Document.nesting, Json.Document.memberNesting]

theorem chars?_map_char (s : List Char) : Json.Piece.chars? (s.map .char) = some s := by
  induction s with
  | nil => rfl
  | cons c s ih => rw [List.map_cons, Json.Piece.chars?, ih, Option.map_some]

theorem value?_single {key : String} {d : Json.Document} {v : Json} (h : d.value? = some v) :
    (single key d).value? = some (.object [(key, v)]) := by
  simp [single, Json.Document.value?, Json.Document.memberValues?, chars?_map_char, h]

/-- A schema with a property whose value is nested deep and is no schema itself. -/
def deepSchema (n : Nat) : Json.Document := single "properties" (single "a" (arrays n))

def deepText (n : Nat) : String := .ofList (singleText "properties" (singleText "a" (arraysText n)))

theorem spells_deepText (n : Nat) : (deepSchema n).Spells (deepText n) :=
  ((SpelledBy.single (spelledBy_arrays n) rfl).single rfl).spells

theorem nesting_deepSchema (n : Nat) : (deepSchema n).nesting = n + 3 := by
  rw [deepSchema, nesting_single, nesting_single, nesting_arrays]

theorem value?_deepSchema (n : Nat) : ∃ v, (deepSchema n).value? = some v ∧ Declares v := by
  obtain ⟨v, hv⟩ := value?_arrays n
  refine ⟨_, value?_single (value?_single hv), _, _, rfl, ?_, rfl, List.cons_ne_nil _ _⟩
  intro value hvalue
  simp [Assoc.last?, Assoc.find?] at hvalue

end Deep

/-- A document that declares a property and is refused, since it is nested one level too deep. -/
theorem deepText_refused :
    (deepSchema 125).Spells (deepText 125) ∧
      (∃ v, (deepSchema 125).value? = some v ∧ Declares v) ∧
      Node.ofText? (deepText 125) = none ∧
      ∀ name, (bodyRecord name (some (deepText 125))).isSome = false := by
  have hspells := spells_deepText 125
  have hnesting : ¬ (deepSchema 125).nesting ≤ 127 := by
    rw [nesting_deepSchema]
    omega
  refine ⟨hspells, value?_deepSchema 125, ?_, fun name => ?_⟩
  · rw [ofText?_document hspells, if_neg hnesting]
  · rw [← Bool.not_eq_true, bodyRecord_document hspells]
    exact fun h => hnesting h.1

/-- With one level less the body has its record. -/
theorem Node.ofText?_of_document_deep :
    (deepSchema 124).Spells (deepText 124) ∧ (ofText? (deepText 124)).isSome = true ∧
      (bodyRecord "Body" (some (deepText 124))).isSome = true := by
  have hspells := spells_deepText 124
  have hnesting : (deepSchema 124).nesting ≤ 127 := by
    rw [nesting_deepSchema]
  obtain ⟨v, hv, hdeclares⟩ := value?_deepSchema 124
  obtain ⟨_, hdocument⟩ := Node.ofText?_of_document (deepText 124)
  obtain ⟨_, hread, hbody⟩ := hdocument (deepSchema 124) hspells
  refine ⟨hspells, ?_, (hbody "Body").mpr ⟨hnesting, v, hv, hdeclares⟩⟩
  rw [hread v hv hnesting]
  rfl

end Schema

end ApiTypings
