import ApiTypings.TypeExpr.Emit
import Mathlib.Data.List.Basic

/-!
# Reading quoted text

Text between single quotes ends at the first quote that no backslash takes. A backslash takes
the next character: some letters then stand for control characters, all others for
themselves. In TypeScript a line feed or a carriage return may not stand between the quotes
as it is.

What is written for a key or a literal ends where it should and has the right value, for
every text. It is legal exactly for the texts without line feed and carriage return, since
these two are not escaped.
-/

namespace ApiTypings.Identifier

/-! ## Reading -/

/-- What stands before the first quote that is not escaped, and what stands after it. -/
def splitQuote : List Char → Option (List Char × List Char)
  | [] => none
  | ['\\'] => none
  | '\\' :: c :: rest => (splitQuote rest).map fun (body, after) => ('\\' :: c :: body, after)
  | c :: rest =>
    if c = '\'' then some ([], rest)
    else (splitQuote rest).map fun (body, after) => (c :: body, after)

/-- The character that is meant by one behind a backslash. Digits, `x` and `u` introduce a
number and line ends continue the literal on the next line; these are not read. -/
def escaped? (c : Char) : Option Char :=
  match c with
  | 'n' => some '\n'
  | 'r' => some '\r'
  | 't' => some '\t'
  | 'b' => some '\x08'
  | 'v' => some '\x0b'
  | 'f' => some '\x0c'
  | _ =>
    if c.isDigit || ['x', 'u', '\n', '\r', '\u2028', '\u2029'].contains c then none else some c

/-- The text that is meant by what stands between quotes. -/
def unescape? : List Char → Option (List Char)
  | [] => some []
  | ['\\'] => none
  | '\\' :: c :: rest => (escaped? c).bind fun d => (unescape? rest).map (d :: ·)
  | c :: rest => (unescape? rest).map (c :: ·)

/-- The value of a text that is quoted and has nothing behind its closing quote. -/
def quotedValue? (text : String) : Option String :=
  match text.toList with
  | '\'' :: rest =>
    match splitQuote rest with
    | some (body, []) => (unescape? body).map .ofList
    | _ => none
  | _ => none

/-- The characters that may not stand in a literal as they are. -/
def isLineBreak (c : Char) : Bool := c == '\n' || c == '\r'

/-- The value of a legal literal. -/
def literalValue? (text : String) : Option String :=
  if text.toList.any isLineBreak then none else quotedValue? text

theorem splitQuote_cons {c : Char} (h : c ≠ '\\') (rest : List Char) :
    splitQuote (c :: rest) =
      if c = '\'' then some ([], rest)
      else (splitQuote rest).map fun (body, after) => (c :: body, after) := by
  rw [splitQuote]
  · exact fun hc _ => h hc
  · exact fun _ _ hc _ => h hc

theorem unescape?_cons {c : Char} (h : c ≠ '\\') (rest : List Char) :
    unescape? (c :: rest) = (unescape? rest).map (c :: ·) := by
  rw [unescape?]
  · exact fun hc _ => h hc
  · exact fun _ _ hc _ => h hc

/-! ## What escaping writes -/

/-- Escaping gives a pair to backslash and quote, and leaves every other character alone. -/
theorem escapeChar_cases (c : Char) :
    (c = '\\' ∨ c = '\'') ∧ escapeChar c = ['\\', c] ∨
      (c ≠ '\\' ∧ c ≠ '\'') ∧ escapeChar c = [c] := by
  unfold escapeChar
  by_cases h : c = '\\' ∨ c = '\''
  · exact .inl ⟨h, by simp [h]⟩
  · rw [not_or] at h
    exact .inr ⟨h, by simp [h]⟩

/-- A text with another one in place of each occurrence of a character. -/
def replaced (c : Char) (other : String) (s : String) : String :=
  .ofList (s.toList.flatMap fun d => if d = c then other.toList else [d])

theorem toList_replaced (c : Char) (other s : String) : (replaced c other s).toList =
    s.toList.flatMap fun d => if d = c then other.toList else [d] :=
  String.toList_ofList

/-- Escaping is as good as replacing the backslashes and after them the quotes: the second pass
meets no quote of the first one, and leaves the backslashes of the first one alone. -/
theorem escape_eq_replaced (s : String) :
    escape s = replaced '\'' "\\'" (replaced '\\' "\\\\" s) := by
  rw [replaced, toList_replaced, List.flatMap_assoc, escape]
  congr 2
  funext c
  rcases escapeChar_cases c with ⟨rfl | rfl, _⟩ | ⟨⟨hslash, hquote⟩, halone⟩
  · decide
  · decide
  · simp [halone, hslash, hquote]

/-- In the other order the backslash of an escaped quote would be escaped itself. -/
example : replaced '\\' "\\\\" (replaced '\'' "\\'" "'") ≠ escape "'" := by decide

/-- No quote in an escaped text ends it. -/
theorem splitQuote_escape (cs after : List Char) :
    splitQuote (cs.flatMap escapeChar ++ '\'' :: after) =
      some (cs.flatMap escapeChar, after) := by
  induction cs with
  | nil => exact splitQuote_cons (by decide) after
  | cons c cs ih =>
    rw [List.flatMap_cons, List.append_assoc]
    rcases escapeChar_cases c with ⟨_, hpair⟩ | ⟨⟨hslash, hquote⟩, halone⟩
    · rw [hpair]
      simp only [List.cons_append, List.nil_append, splitQuote, ih, Option.map_some]
    · rw [halone, List.singleton_append, splitQuote_cons hslash, if_neg hquote, ih]
      rfl

/-- Escaping is undone by reading. -/
theorem unescape?_escape (cs : List Char) : unescape? (cs.flatMap escapeChar) = some cs := by
  induction cs with
  | nil => rfl
  | cons c cs ih =>
    rw [List.flatMap_cons]
    rcases escapeChar_cases c with ⟨hpaired, hpair⟩ | ⟨⟨hslash, _⟩, halone⟩
    · have hmeant : escaped? c = some c := by
        rcases hpaired with rfl | rfl <;> decide
      rw [hpair]
      simp [unescape?, hmeant, ih]
    · rw [halone, List.singleton_append, unescape?_cons hslash, ih]
      rfl

/-- Escaping neither adds nor removes line breaks. -/
theorem any_isLineBreak_escape (cs : List Char) :
    (cs.flatMap escapeChar).any isLineBreak = cs.any isLineBreak := by
  have hslash : isLineBreak '\\' = false := by decide
  rw [List.any_flatMap]
  congr 1
  funext c
  rcases escapeChar_cases c with ⟨_, hpair⟩ | ⟨_, halone⟩
  · rw [hpair]
    simp [hslash]
  · rw [halone]
    simp

theorem any_isLineBreak_iff (cs : List Char) :
    cs.any isLineBreak = false ↔ ∀ c ∈ cs, c ≠ '\n' ∧ c ≠ '\r' := by
  simp [isLineBreak]

theorem toList_literal (s : String) :
    (literal s).toList = '\'' :: (s.toList.flatMap escapeChar ++ ['\'']) := by
  have hquote : "'".toList = ['\''] := rfl
  rw [literal, escape, String.toList_append, String.toList_append, hquote, String.toList_ofList]
  rfl

theorem quotedValue?_literal (s : String) : quotedValue? (literal s) = some s := by
  unfold quotedValue?
  rw [toList_literal]
  simp only [splitQuote_escape, unescape?_escape, Option.map_some, String.ofList_toList]

theorem literalValue?_literal (s : String) :
    literalValue? (literal s) = if s.toList.any isLineBreak then none else some s := by
  have hquote : isLineBreak '\'' = false := by decide
  unfold literalValue?
  rw [toList_literal, quotedValue?_literal, List.any_cons, List.any_append,
    any_isLineBreak_escape]
  simp [hquote]

/-- What is written for a text, as a quoted key or as a literal type, is closed by its last
character and has the text as its value. It is a legal literal exactly if the text holds
neither a line feed nor a carriage return. -/
theorem quoted_reads_back (s text : String)
    (h : (needsQuoting s = true ∧ text = key s) ∨ text = (TypeExpr.literal s).emit) :
    quotedValue? text = some s ∧
      (literalValue? text = some s ↔ ∀ c ∈ s.toList, c ≠ '\n' ∧ c ≠ '\r') := by
  have hliteral : text = literal s := by
    rcases h with ⟨hneeds, rfl⟩ | rfl
    · rw [key, if_pos hneeds]
    · rw [TypeExpr.emit]
  rw [hliteral]
  refine ⟨quotedValue?_literal s, ?_⟩
  rw [literalValue?_literal, ← any_isLineBreak_iff]
  cases s.toList.any isLineBreak <;> simp

/-- A key that ends with a backslash and has quotes around what looks like an escape. -/
theorem quoted_reads_back_windows :
    needsQuoting "'\\n' in C:\\" = true ∧ literalValue? (key "'\\n' in C:\\") = some "'\\n' in C:\\" := by
  have hneeds : needsQuoting "'\\n' in C:\\" = true := by decide
  have hbreaks : "'\\n' in C:\\".toList.any isLineBreak = false := by decide
  exact ⟨hneeds, (quoted_reads_back _ _ (.inl ⟨hneeds, rfl⟩)).2.mpr
    ((any_isLineBreak_iff _).mp hbreaks)⟩

/-- A key of two lines is quoted, and the line feed stands in the literal as it is. -/
theorem quoted_line_feed :
    needsQuoting "a\nb" = true ∧ '\n' ∈ (key "a\nb").toList ∧
      literalValue? (key "a\nb") = none ∧ literalValue? (TypeExpr.literal "a\nb").emit = none := by
  decide

end ApiTypings.Identifier
