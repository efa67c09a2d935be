import ApiTypings.Proofs.TypeNormal

/-!
# A reader of type expressions

The reader follows the grammar of types and knows nothing of how they are printed. An
array suffix binds tighter than `&`, and `&` tighter than `|`; parentheses group; a
record lists keys with their types, and a key may be followed by a question mark. A
word is the longest run of letters, digits, underscores and dollar signs. Quoted text
ends at the first quote that is not escaped, and a backslash takes the next character
as it is.

The text is first cut into tokens. Reading a list of tokens consumes one part of the
grammar and gives what is left; fuel bounds the depth of the descent, and four units
for each token are enough.

The second half tells which tokens the text of a type is cut into.
-/

namespace ApiTypings.TypeReader

open TypeExpr (combine)

/-! ## Tokens -/

inductive Token where
  | word (text : String)
  | quoted (text : String)
  | bar
  | ampersand
  | openParen
  | closeParen
  | openBracket
  | closeBracket
  | openBrace
  | closeBrace
  | colon
  | semicolon
  | question
  deriving DecidableEq, Repr

/-- Where in a token scanning stands, with the characters read of it. -/
inductive Mode where
  | between
  | word (read : List Char)
  | quoted (read : List Char)
  /-- Behind a backslash in quoted text. -/
  | escaped (read : List Char)

def symbol? (c : Char) : Option Token :=
  match c with
  | '|' => some .bar
  | '&' => some .ampersand
  | '(' => some .openParen
  | ')' => some .closeParen
  | '[' => some .openBracket
  | ']' => some .closeBracket
  | '\x7b' => some .openBrace
  | '\x7d' => some .closeBrace
  | ':' => some .colon
  | ';' => some .semicolon
  | '?' => some .question
  | _ => none

/-- What a character between tokens is or begins. -/
def start? (c : Char) : Option (List Token × Mode) :=
  if Identifier.isStart c then some ([], .word [c])
  else if c == '\'' then some ([], .quoted [])
  else if c.isWhitespace then some ([], .between)
  else (symbol? c).map fun token => ([token], .between)

/-- The tokens of a text, the first of which may have been read in part. -/
def scan : Mode → List Char → Option (List Token)
  | .between, [] => some []
  | .word read, [] => some [.word (.ofList read)]
  | .quoted _, [] => none
  | .escaped _, [] => none
  | .between, c :: cs =>
    match start? c with
    | some (ts, mode) => (scan mode cs).map (ts ++ ·)
    | none => none
  | .word read, c :: cs =>
    if Identifier.isPart c then scan (.word (read ++ [c])) cs
    else
      match start? c with
      | some (ts, mode) => (scan mode cs).map (.word (.ofList read) :: ts ++ ·)
      | none => none
  | .quoted read, c :: cs =>
    if c == '\'' then (scan .between cs).map (.quoted (.ofList read) :: ·)
    else if c == '\\' then scan (.escaped read) cs
    else scan (.quoted (read ++ [c])) cs
  | .escaped read, c :: cs => scan (.quoted (read ++ [c])) cs

attribute [local simp] scan

/-! ## The grammar -/

/-- A word is a keyword or the name of a type. -/
def ofWord (text : String) : TypeExpr :=
  match [Keyword.string, .number, .boolean, .null, .undefined, .any, .object].find?
    (·.text == text) with
  | some word => .keyword word
  | none => .ref text

def suffixes (t : TypeExpr) : List Token → TypeExpr × List Token
  | .openBracket :: .closeBracket :: rest => suffixes (.array t) rest
  | rest => (t, rest)

/-- Reads the key of a field and whether the field may be absent. -/
def readKey : List Token → Option (String × Bool × List Token)
  | .word name :: .question :: .colon :: rest => some (name, true, rest)
  | .word name :: .colon :: rest => some (name, false, rest)
  | .quoted name :: .question :: .colon :: rest => some (name, true, rest)
  | .quoted name :: .colon :: rest => some (name, false, rest)
  | _ => none

mutual
/-- Reads types between bars. -/
def readAlternatives : Nat → List Token → Option (List TypeExpr × List Token)
  | 0, _ => none
  | fuel + 1, ts =>
    match readParts fuel ts with
    | some (parts, .bar :: rest) =>
      (readAlternatives fuel rest).map fun (more, rest) => (combine .intersection parts :: more, rest)
    | some (parts, rest) => some ([combine .intersection parts], rest)
    | none => none

/-- Reads types between ampersands. -/
def readParts : Nat → List Token → Option (List TypeExpr × List Token)
  | 0, _ => none
  | fuel + 1, ts =>
    match readOperand fuel ts with
    | some (t, .ampersand :: rest) =>
      (readParts fuel rest).map fun (more, rest) => (t :: more, rest)
    | some (t, rest) => some ([t], rest)
    | none => none

def readOperand : Nat → List Token → Option (TypeExpr × List Token)
  | 0, _ => none
  | fuel + 1, ts => (readPrimary fuel ts).map fun (t, rest) => suffixes t rest

/-- Reads a word, a literal, a type in parentheses or a record. -/
def readPrimary : Nat → List Token → Option (TypeExpr × List Token)
  | 0, _ => none
  | fuel + 1, ts =>
    match ts with
    | .word text :: rest => some (ofWord text, rest)
    | .quoted text :: rest => some (.literal text, rest)
    | .openParen :: rest =>
      match readAlternatives fuel rest with
      | some (alternatives, .closeParen :: rest) => some (combine .union alternatives, rest)
      | _ => none
    | .openBrace :: .closeBrace :: rest => some (.record [], rest)
    | .openBrace :: rest =>
      match readFields fuel rest with
      | some (fields, .closeBrace :: rest) => some (.record fields, rest)
      | _ => none
    | _ => none

/-- Reads fields between semicolons. -/
def readFields : Nat → List Token → Option (List Field × List Token)
  | 0, _ => none
  | fuel + 1, ts =>
    match readKey ts with
    | none => none
    | some (name, optional, rest) =>
      match readAlternatives fuel rest with
      | some (alternatives, .semicolon :: rest) =>
        (readFields fuel rest).map fun (more, rest) =>
          (⟨name, combine .union alternatives, optional, none⟩ :: more, rest)
      | some (alternatives, rest) => some ([⟨name, combine .union alternatives, optional, none⟩], rest)
      | none => none
end

/-- The type that a whole text spells. -/
def read (text : String) : Option TypeExpr :=
  match scan .between text.toList with
  | none => none
  | some ts =>
    match readAlternatives (4 * ts.length) ts with
    | some (alternatives, []) => some (combine .union alternatives)
    | _ => none

/-! ## The tokens of the text of a type -/

def parenthesized (needed : Bool) (ts : List Token) : List Token :=
  if needed then .openParen :: ts ++ [.closeParen] else ts

/-- Lists of tokens in order, with a token between neighbours. -/
def separated (sep : Token) : List (List Token) → List Token
  | [] => []
  | [ts] => ts
  | ts :: us :: rest => ts ++ sep :: separated sep (us :: rest)

def keyToken (name : String) : Token :=
  if Identifier.needsQuoting name then .quoted name else .word name

def fieldTokens (name : String) (optional : Bool) (type : List Token) : List Token :=
  keyToken name :: (if optional then [.question] else []) ++ .colon :: type

mutual
def tokens : TypeExpr → List Token
  | .keyword word => [.word word.text]
  | .array item => parenthesized item.isCompound (tokens item) ++ [.openBracket, .closeBracket]
  | .union ts => separated .bar (memberTokens ts)
  | .intersection ts => separated .ampersand (partTokens ts)
  | .record [] => [.openBrace, .closeBrace]
  | .record (f :: fields) =>
    .openBrace :: separated .semicolon (recordTokens (f :: fields)) ++ [.closeBrace]
  | .literal value => [.quoted value]
  | .ref name => [.word name]

def memberTokens : List TypeExpr → List (List Token)
  | [] => []
  | t :: ts => tokens t :: memberTokens ts

def partTokens : List TypeExpr → List (List Token)
  | [] => []
  | t :: ts => parenthesized t.isUnion (tokens t) :: partTokens ts

def recordTokens : List Field → List (List Token)
  | [] => []
  | ⟨name, type, optional, _⟩ :: fs => fieldTokens name optional (tokens type) :: recordTokens fs
end

/-- A text where a word may end. -/
def Ends (cs : List Char) : Prop := ∀ c ∈ cs.head?, Identifier.isPart c = false

/-- The text is cut into the tokens, whatever follows that does not go on with a word. -/
def Scans (s : String) (ts : List Token) : Prop :=
  ∀ rest, Ends rest → scan .between (s.toList ++ rest) = (scan .between rest).map (ts ++ ·)

/-- The text is cut into the tokens, whatever follows. -/
def Delimited (s : String) (ts : List Token) : Prop :=
  ∀ rest, scan .between (s.toList ++ rest) = (scan .between rest).map (ts ++ ·)

theorem Delimited.scans {s : String} {ts : List Token} (h : Delimited s ts) : Scans s ts :=
  fun rest _ => h rest

theorem Delimited.append {s s' : String} {ts ts' : List Token} (h : Delimited s ts)
    (h' : Scans s' ts') : Scans (s ++ s') (ts ++ ts') := by
  intro rest hrest
  rw [String.toList_append, List.append_assoc, h, h' rest hrest, Option.map_map]
  simp only [Function.comp_def, List.append_assoc]

theorem Scans.append {s s' : String} {ts ts' : List Token} (h : Scans s ts)
    (h' : Delimited s' ts') (hends : ∀ rest, Ends (s'.toList ++ rest)) :
    Delimited (s ++ s') (ts ++ ts') := by
  intro rest
  rw [String.toList_append, List.append_assoc, h _ (hends rest), h', Option.map_map]
  simp only [Function.comp_def, List.append_assoc]

theorem scan_word_end (read : List Char) {rest : List Char} (h : Ends rest) :
    scan (.word read) rest = (scan .between rest).map (.word (.ofList read) :: ·) := by
  cases rest with
  | nil => rfl
  | cons c cs =>
    have hc : Identifier.isPart c = false := h c rfl
    simp only [scan, hc, Bool.false_eq_true, if_false]
    cases start? c with
    | none => rfl
    | some begun =>
      simp only [Option.map_map, Function.comp_def, List.cons_append]

theorem scan_word (read : List Char) {cs rest : List Char} (hcs : cs.all Identifier.isPart = true)
    (h : Ends rest) : scan (.word read) (cs ++ rest) =
      (scan .between rest).map (.word (.ofList (read ++ cs)) :: ·) := by
  induction cs generalizing read with
  | nil => rw [List.nil_append, List.append_nil, scan_word_end read h]
  | cons c cs ih =>
    simp only [List.all_cons, Bool.and_eq_true] at hcs
    rw [List.cons_append, scan, if_pos hcs.1, ih _ hcs.2, List.append_assoc, List.singleton_append]

theorem scans_identifier {name : String} (h : Identifier.isIdentifier name.toList = true) :
    Scans name [.word name] := by
  intro rest hrest
  cases hname : name.toList with
  | nil =>
    rw [hname] at h
    cases h
  | cons c cs =>
    rw [hname] at h
    simp only [Identifier.isIdentifier, Bool.and_eq_true] at h
    have hstart : start? c = some ([], .word [c]) := by simp [start?, h.1]
    rw [List.cons_append, scan, hstart]
    simp only [scan_word [c] h.2 hrest, Option.map_map, Function.comp_def, List.nil_append,
      List.singleton_append, ← hname, String.ofList_toList]

theorem scan_escape (read cs rest : List Char) :
    scan (.quoted read) (cs.flatMap Identifier.escapeChar ++ '\'' :: rest) =
      (scan .between rest).map (.quoted (.ofList (read ++ cs)) :: ·) := by
  induction cs generalizing read with
  | nil =>
    rw [List.flatMap_nil, List.nil_append, List.append_nil, scan]
    rfl
  | cons c cs ih =>
    have hsplit : read ++ c :: cs = (read ++ [c]) ++ cs := by simp
    rw [List.flatMap_cons, List.append_assoc, hsplit, ← ih]
    unfold Identifier.escapeChar
    split
    · rfl
    · next hplain =>
      simp only [Bool.or_eq_true, not_or, Bool.not_eq_true] at hplain
      simp only [List.singleton_append, scan, hplain.1, hplain.2, Bool.false_eq_true, if_false]

theorem delimited_literal (value : String) :
    Delimited (Identifier.literal value) [.quoted value] := by
  intro rest
  have hquote : "'".toList = ['\''] := rfl
  have hstart : start? '\'' = some ([], .quoted []) := rfl
  rw [Identifier.literal, Identifier.escape, String.toList_append, String.toList_append, hquote,
    String.toList_ofList, List.append_assoc, List.append_assoc, List.singleton_append,
    List.singleton_append, scan, hstart]
  simp only [scan_escape, Option.map_map, Function.comp_def, List.nil_append,
    List.singleton_append, String.ofList_toList]

/-- The tokens of characters none of which is part of a word or of quoted text. -/
def punctuation : List Char → Option (List Token)
  | [] => some []
  | c :: cs =>
    match start? c with
    | some (ts, .between) => (punctuation cs).map (ts ++ ·)
    | _ => none

theorem scan_punctuation {cs : List Char} {ts : List Token} (h : punctuation cs = some ts)
    (rest : List Char) :
    scan .between (cs ++ rest) = (scan .between rest).map (ts ++ ·) := by
  induction cs generalizing ts with
  | nil =>
    cases h
    simp
  | cons c cs ih =>
    unfold punctuation at h
    split at h
    · next begun hstart =>
      obtain ⟨more, hmore, rfl⟩ := Option.map_eq_some_iff.mp h
      rw [List.cons_append, scan, hstart]
      simp only [ih hmore, Option.map_map, Function.comp_def, List.append_assoc]
    · cases h

theorem delimited_of_punctuation {s : String} {ts : List Token}
    (h : punctuation s.toList = some ts) : Delimited s ts :=
  scan_punctuation h

/-- No word goes on with a text that starts with something else. -/
theorem ends_append {cs : List Char} (h : cs.head?.any (!Identifier.isPart ·) = true)
    (rest : List Char) : Ends (cs ++ rest) := by
  cases cs with
  | nil => cases h
  | cons c cs =>
    intro d hd
    cases hd
    simpa using h

theorem scans_parenthesized {s : String} {ts : List Token} (h : Scans s ts) (needed : Bool) :
    Scans (TypeExpr.parenthesized needed s) (parenthesized needed ts) := by
  cases needed with
  | false => exact h
  | true =>
    have hopen : Delimited "(" [.openParen] := delimited_of_punctuation rfl
    have hclose : Delimited ")" [.closeParen] := delimited_of_punctuation rfl
    exact ((hopen.append h).append hclose (ends_append (by decide))).scans

/-- Texts between separators are cut into their tokens between separators. -/
theorem scans_join {α : Type} {text : String} {sep : Token} (hsep : Delimited text [sep])
    (hends : text.toList.head?.any (!Identifier.isPart ·) = true) {f : α → String}
    {g : α → List Token} {xs : List α} (h : ∀ x ∈ xs, Scans (f x) (g x)) :
    Scans (Text.join text (xs.map f)) (separated sep (xs.map g)) := by
  induction xs with
  | nil =>
    intro rest _
    cases hrest : scan .between rest <;> simp [Text.join, separated, hrest]
  | cons x xs ih =>
    cases xs with
    | nil => exact h x (by simp)
    | cons y xs =>
      have hx : Scans (f x) (g x) := h x (by simp)
      have hrest := ih fun z hz => h z (List.mem_cons_of_mem x hz)
      have hjoined := (hx.append hsep (ends_append hends)).append hrest
      rw [List.append_assoc] at hjoined
      exact hjoined

theorem scans_key (name : String) : Scans (Identifier.key name) [keyToken name] := by
  unfold Identifier.key keyToken
  cases hquoted : Identifier.needsQuoting name with
  | true => exact (delimited_literal name).scans
  | false =>
    apply scans_identifier
    simpa [Identifier.needsQuoting] using hquoted

theorem scans_field {type : String} {ts : List Token} (h : Scans type ts) (name : String)
    (optional : Bool) :
    Scans (TypeExpr.fieldText name optional type) (fieldTokens name optional ts) := by
  have hcolon : Delimited ": " [.colon] := delimited_of_punctuation rfl
  unfold TypeExpr.fieldText fieldTokens
  cases optional with
  | false =>
    have hempty : Identifier.key name ++ "" = Identifier.key name := String.append_empty
    simp only [Bool.false_eq_true, if_false, hempty]
    exact ((scans_key name).append hcolon (ends_append (by decide))).append h
  | true =>
    have hquestion : Delimited "?" [.question] := delimited_of_punctuation rfl
    have hkey := (scans_key name).append hquestion (ends_append (by decide))
    exact (hkey.scans.append hcolon (ends_append (by decide))).append h

theorem emitMembers_eq_map (ts : List TypeExpr) :
    TypeExpr.emitMembers ts = ts.map TypeExpr.emit := by
  induction ts with
  | nil => rfl
  | cons t ts ih => rw [TypeExpr.emitMembers, ih, List.map_cons]

theorem emitParts_eq_map (ts : List TypeExpr) :
    TypeExpr.emitParts ts = ts.map fun t => TypeExpr.parenthesized t.isUnion t.emit := by
  induction ts with
  | nil => rfl
  | cons t ts ih => rw [TypeExpr.emitParts, ih, List.map_cons]

theorem emitFields_eq_map (fs : List Field) :
    TypeExpr.emitFields fs = fs.map fun f => TypeExpr.fieldText f.name f.optional f.type.emit := by
  induction fs with
  | nil => rfl
  | cons f fs ih =>
    cases f with
    | mk name type optional description => rw [TypeExpr.emitFields, ih, List.map_cons]

theorem memberTokens_eq_map (ts : List TypeExpr) : memberTokens ts = ts.map tokens := by
  induction ts with
  | nil => rfl
  | cons t ts ih => rw [memberTokens, ih, List.map_cons]

theorem partTokens_eq_map (ts : List TypeExpr) :
    partTokens ts = ts.map fun t => parenthesized t.isUnion (tokens t) := by
  induction ts with
  | nil => rfl
  | cons t ts ih => rw [partTokens, ih, List.map_cons]

theorem recordTokens_eq_map (fs : List Field) :
    recordTokens fs = fs.map fun f => fieldTokens f.name f.optional (tokens f.type) := by
  induction fs with
  | nil => rfl
  | cons f fs ih =>
    cases f with
    | mk name type optional description => rw [recordTokens, ih, List.map_cons]

theorem scans_emit {t : TypeExpr} (h : t.Wellformed) : Scans t.emit (tokens t) := by
  induction h with
  | keyword word => cases word <;> exact scans_identifier (by decide)
  | @array item _ ih =>
    have hbrackets : Delimited "[]" [.openBracket, .closeBracket] := delimited_of_punctuation rfl
    rw [TypeExpr.emit, tokens]
    exact ((scans_parenthesized ih _).append hbrackets (ends_append (by decide))).scans
  | union _ _ ih =>
    rw [TypeExpr.emit, tokens, emitMembers_eq_map, memberTokens_eq_map]
    exact scans_join (delimited_of_punctuation rfl) (by decide) ih
  | intersection _ _ ih =>
    rw [TypeExpr.emit, tokens, emitParts_eq_map, partTokens_eq_map]
    exact scans_join (delimited_of_punctuation rfl) (by decide) fun t ht =>
      scans_parenthesized (ih t ht) _
  | @record fields _ ih =>
    cases fields with
    | nil =>
      rw [TypeExpr.emit, tokens]
      exact (delimited_of_punctuation rfl).scans
    | cons f fields =>
      have hopen : Delimited "\x7b " [.openBrace] := delimited_of_punctuation rfl
      have hclose : Delimited " \x7d" [.closeBrace] := delimited_of_punctuation rfl
      have hfields := scans_join (delimited_of_punctuation (s := "; ") rfl) (by decide)
        fun g hg => scans_field (ih g hg) g.name g.optional
      rw [TypeExpr.emit, tokens, emitFields_eq_map, recordTokens_eq_map]
      exact ((hopen.append hfields).append hclose (ends_append (by decide))).scans
  | literal value =>
    rw [TypeExpr.emit, tokens]
    exact (delimited_literal value).scans
  | ref hidentifier _ =>
    rw [TypeExpr.emit, tokens]
    exact scans_identifier hidentifier

/-- Scanning the whole text of a type gives its tokens. -/
theorem scan_emit {t : TypeExpr} (h : t.Wellformed) :
    scan .between t.emit.toList = some (tokens t) := by
  have hend : Ends [] := by
    intro c hc
    cases hc
  have hscan := scans_emit h [] hend
  rw [List.append_nil] at hscan
  rw [hscan]
  simp

end ApiTypings.TypeReader
