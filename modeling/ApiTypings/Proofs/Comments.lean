import ApiTypings.Proofs.QuotedText
import ApiTypings.Proofs.Symbols
import ApiTypings.Proofs.TextLaws
import ApiTypings.Proofs.TypeReader

/-!
# Line comments

What is left of a text without its line comments. A comment starts with two slashes that do
not stand in quoted text, and takes the white space before it on its line with it. It reaches
up to the next line end, which is left. Quoted text ends at the first quote that no backslash
takes, on whatever line that is.

Two kinds of text are left as they are: those that begin no comment and stand before
something that begins none, and those that end with a line. The text of a type is of the
first kind.
-/

namespace ApiTypings.LineComment

/-! ## Removing comments -/

/-- The characters that end a line. -/
def isLineEnd (c : Char) : Bool := c == '\n' || c == '\r' || c == '\u2028' || c == '\u2029'

/-- White space inside a line. -/
def isGap (c : Char) : Bool := Text.isBlank c && !isLineEnd c

/-- Whether the next that is not white space inside the line is a comment. -/
def opens (cs : List Char) : Bool := ['/', '/'].isPrefixOf (cs.dropWhile isGap)

inductive Mode where
  | code
  | comment
  | quoted
  /-- Behind a backslash in quoted text. -/
  | escaped

def strip : Mode → List Char → List Char
  | _, [] => []
  | .code, c :: cs =>
    if opens (c :: cs) then strip .comment cs
    else c :: strip (if c == '\'' then .quoted else .code) cs
  | .comment, c :: cs => if isLineEnd c then c :: strip .code cs else strip .comment cs
  | .quoted, c :: cs =>
    c :: strip (if c == '\'' then .code else if c == '\\' then .escaped else .quoted) cs
  | .escaped, c :: cs => c :: strip .quoted cs

attribute [local simp] strip

/-- The text without its line comments and the white space before them. -/
def remove (text : String) : String := .ofList (strip .code text.toList)

example : remove "a: 'it\\'s //'; \t// 'b\r// c\n/d/ // e" = "a: 'it\\'s //';\r\n/d/" := by decide

/-! ## Text in a line -/

/-- A character that begins neither a comment nor quoted text. -/
def isSafe (c : Char) : Bool := c != '/' && c != '\''

/-- The text is left as it is and begins no comment, before anything that begins none. -/
def Plain (text : String) : Prop :=
  ∀ rest, opens rest = false →
    opens (text.toList ++ rest) = false ∧
      strip .code (text.toList ++ rest) = text.toList ++ strip .code rest

theorem opens_cons {c : Char} (hc : c ≠ '/') (rest : List Char) :
    opens (c :: rest) = (isGap c && opens rest) := by
  unfold opens
  cases hgap : isGap c with
  | true => rw [List.dropWhile_cons_of_pos hgap, Bool.true_and]
  | false =>
    rw [List.dropWhile_cons_of_neg (by simp [hgap]), Bool.false_and]
    simp [List.isPrefixOf, Ne.symm hc]

theorem ne_slash_of_isSafe {c : Char} (h : isSafe c = true) : c ≠ '/' := by
  rintro rfl
  exact absurd h (by decide)

theorem strip_safe {c : Char} (hc : isSafe c = true) {rest : List Char}
    (hrest : opens (c :: rest) = false) :
    strip .code (c :: rest) = c :: strip .code rest := by
  simp only [isSafe, Bool.and_eq_true, bne_iff_ne, ne_eq] at hc
  simp [hrest, hc.2]

theorem Plain.append {s t : String} (hs : Plain s) (ht : Plain t) : Plain (s ++ t) := by
  intro rest hrest
  obtain ⟨hopens, hstrip⟩ := ht rest hrest
  obtain ⟨hopens', hstrip'⟩ := hs _ hopens
  rw [String.toList_append, List.append_assoc]
  refine ⟨hopens', ?_⟩
  rw [hstrip', hstrip, List.append_assoc]

theorem strip_safe_append {cs rest : List Char} (h : cs.all isSafe = true)
    (hrest : opens rest = false) :
    opens (cs ++ rest) = false ∧ strip .code (cs ++ rest) = cs ++ strip .code rest := by
  induction cs with
  | nil => exact ⟨hrest, rfl⟩
  | cons c cs ih =>
    rw [List.all_cons, Bool.and_eq_true] at h
    obtain ⟨hopens, hstrip⟩ := ih h.2
    -- The character may be white space, and then what follows it counts.
    have hnone : opens (c :: (cs ++ rest)) = false := by
      rw [opens_cons (ne_slash_of_isSafe h.1), hopens, Bool.and_false]
    exact ⟨hnone, (strip_safe h.1 hnone).trans (congrArg (c :: ·) hstrip)⟩

theorem plain_of_safe {s : String} (h : s.toList.all isSafe = true) : Plain s :=
  fun _ hrest => strip_safe_append h hrest

theorem strip_escape (cs rest : List Char) :
    strip .quoted (cs.flatMap Identifier.escapeChar ++ '\'' :: rest) =
      cs.flatMap Identifier.escapeChar ++ '\'' :: strip .code rest := by
  induction cs with
  | nil => rfl
  | cons c cs ih =>
    rw [List.flatMap_cons, List.append_assoc, List.append_assoc, ← ih]
    rcases Identifier.escapeChar_cases c with ⟨_, hpair⟩ | ⟨⟨hslash, hquote⟩, halone⟩
    · rw [hpair]
      rfl
    · rw [halone]
      simp [hslash, hquote]

theorem plain_literal (value : String) : Plain (Identifier.literal value) := by
  intro rest _
  have hgap : isGap '\'' = false := by decide
  have hopens : ∀ cs, opens ('\'' :: cs) = false := by
    intro cs
    rw [opens_cons (by decide), hgap, Bool.false_and]
  rw [Identifier.toList_literal, List.cons_append]
  refine ⟨hopens _, ?_⟩
  rw [strip, hopens]
  simp only [Bool.false_eq_true, if_false, beq_self_eq_true, if_true, List.append_assoc,
    strip_escape, List.cons_append, List.nil_append]

theorem Plain.join {sep : String} (hsep : Plain sep) {xs : List String} (h : ∀ x ∈ xs, Plain x) :
    Plain (Text.join sep xs) := by
  induction xs with
  | nil =>
    change Plain ""
    exact plain_of_safe (by decide)
  | cons x xs ih =>
    rw [List.forall_mem_cons] at h
    cases xs with
    | nil => exact h.1
    | cons y xs => exact (h.1.append hsep).append (ih h.2)

/-! ## The text of a type -/

theorem plain_identifier {name : String} (h : Identifier.isIdentifier name.toList = true) :
    Plain name := by
  have hsafe : ∀ c, Identifier.isPart c = true → isSafe c = true := by
    intro c hc
    exact Text.ascii_forall
      (P := fun c => Identifier.isPart c = true → isSafe c = true) (by decide)
      (Identifier.toNat_lt_of_isPart hc) hc
  apply plain_of_safe
  rw [List.all_eq_true]
  exact fun c hc => hsafe c (Identifier.isPart_of_isIdentifier h c hc)

theorem plain_key (name : String) : Plain (Identifier.key name) := by
  unfold Identifier.key
  cases hquoted : Identifier.needsQuoting name with
  | true => exact plain_literal name
  | false =>
    apply plain_identifier
    simpa [Identifier.needsQuoting] using hquoted

theorem plain_field (name : String) (optional : Bool) {type : String} (h : Plain type) :
    Plain (TypeExpr.fieldText name optional type) := by
  have hmark : Plain (if optional then "?" else "") := by
    cases optional <;> exact plain_of_safe (by decide)
  have hcolon : Plain ": " := plain_of_safe (by decide)
  exact (((plain_key name).append hmark).append hcolon).append h

theorem plain_parenthesized (needed : Bool) {text : String} (h : Plain text) :
    Plain (TypeExpr.parenthesized needed text) := by
  cases needed with
  | false => exact h
  | true =>
    have hopen : Plain "(" := plain_of_safe (by decide)
    have hclose : Plain ")" := plain_of_safe (by decide)
    exact (hopen.append h).append hclose

theorem plain_emit {t : TypeExpr} (h : t.Wellformed) : Plain t.emit := by
  induction h with
  | keyword word => cases word <;> exact plain_of_safe (by decide)
  | array _ ih =>
    rw [TypeExpr.emit]
    exact (plain_parenthesized _ ih).append (plain_of_safe (by decide))
  | union _ _ ih =>
    rw [TypeExpr.emit, TypeReader.emitMembers_eq_map]
    apply Plain.join (plain_of_safe (by decide))
    exact List.forall_mem_map.mpr ih
  | intersection _ _ ih =>
    rw [TypeExpr.emit, TypeReader.emitParts_eq_map]
    apply Plain.join (plain_of_safe (by decide))
    exact List.forall_mem_map.mpr fun t ht => plain_parenthesized _ (ih t ht)
  | @record fields _ ih =>
    cases fields with
    | nil =>
      rw [TypeExpr.emit]
      exact plain_of_safe (by decide)
    | cons f fields =>
      have hopen : Plain "\x7b " := plain_of_safe (by decide)
      have hclose : Plain " \x7d" := plain_of_safe (by decide)
      have hsep : Plain "; " := plain_of_safe (by decide)
      have hfields : ∀ text ∈ (f :: fields).map fun g =>
          TypeExpr.fieldText g.name g.optional g.type.emit, Plain text :=
        List.forall_mem_map.mpr fun g hg => plain_field g.name g.optional (ih g hg)
      rw [TypeExpr.emit, TypeReader.emitFields_eq_map]
      exact (hopen.append (hsep.join hfields)).append hclose
  | literal value =>
    rw [TypeExpr.emit]
    exact plain_literal value
  | ref hidentifier _ =>
    rw [TypeExpr.emit]
    exact plain_identifier hidentifier

/-! ## Whole lines -/

/-- What is left of the text, whatever follows. -/
def Leaves (text code : String) : Prop :=
  ∀ rest, strip .code (text.toList ++ rest) = code.toList ++ strip .code rest

theorem Leaves.remove_eq {text code : String} (h : Leaves text code) : remove text = code := by
  have hwhole := h []
  rw [List.append_nil] at hwhole
  rw [remove, hwhole]
  simp

theorem Leaves.append {s s' c c' : String} (h : Leaves s c) (h' : Leaves s' c') :
    Leaves (s ++ s') (c ++ c') := by
  intro rest
  rw [String.toList_append, List.append_assoc, h, h', String.toList_append, List.append_assoc]

theorem leaves_empty : Leaves "" "" := fun _ => rfl

theorem Leaves.join {α : Type} {f g : α → String} {xs : List α} (h : ∀ x ∈ xs, Leaves (f x) (g x)) :
    Leaves (Text.join "" (xs.map f)) (Text.join "" (xs.map g)) := by
  induction xs with
  | nil => exact leaves_empty
  | cons x xs ih =>
    rw [List.forall_mem_cons] at h
    cases xs with
    | nil => exact h.1
    | cons y xs => exact (h.1.append leaves_empty).append (ih h.2)

/-- Characters of a line after which no comment can begin. -/
def closes (cs : List Char) : Bool :=
  cs.all isSafe && cs.getLast?.any fun c => !isGap c

theorem strip_closes_append {cs : List Char} (h : closes cs = true) (rest : List Char) :
    opens (cs ++ rest) = false ∧ strip .code (cs ++ rest) = cs ++ strip .code rest := by
  rcases List.eq_nil_or_concat' cs with rfl | ⟨front, c, rfl⟩
  · cases h
  · simp only [closes, List.all_append, List.all_cons, List.all_nil, Bool.and_true,
      List.getLast?_append, List.getLast?_singleton, Option.some_or, Option.any_some,
      Bool.and_eq_true, Bool.not_eq_true'] at h
    obtain ⟨⟨hfront, hc⟩, hgap⟩ := h
    have hnone : opens (c :: rest) = false := by
      rw [opens_cons (ne_slash_of_isSafe hc), hgap, Bool.false_and]
    obtain ⟨hopens, hstrip⟩ := strip_safe_append hfront hnone
    rw [List.append_assoc, List.append_assoc, List.singleton_append]
    exact ⟨hopens, hstrip.trans (congrArg (front ++ ·) (strip_safe hc hnone))⟩

/-- A line, or the part of one before its comment, is left as it is. -/
theorem Plain.line {s ending : String} (h : Plain s) (hending : closes ending.toList = true) :
    Leaves (s ++ ending) (s ++ ending) := by
  intro rest
  obtain ⟨hopens, hstrip⟩ := strip_closes_append hending rest
  rw [String.toList_append, List.append_assoc, (h _ hopens).2, hstrip, List.append_assoc]

theorem leaves_of_closes {s : String} (h : closes s.toList = true) : Leaves s s :=
  fun rest => (strip_closes_append h rest).2

/-! ## Comment lines -/

/-- The text ends no line. -/
def OneLine (text : String) : Prop := ∀ c ∈ text.toList, isLineEnd c = false

instance : DecidablePred OneLine :=
  fun text => List.decidableBAll (fun c => isLineEnd c = false) text.toList

theorem OneLine.append {s t : String} (hs : OneLine s) (ht : OneLine t) : OneLine (s ++ t) := by
  intro c hc
  rw [String.toList_append, List.mem_append] at hc
  exact hc.elim (hs c) (ht c)

theorem oneLine_identifier {name : String} (h : Identifier.isIdentifier name.toList = true) :
    OneLine name := by
  intro c hc
  have hpart := Identifier.isPart_of_isIdentifier h c hc
  exact Text.ascii_forall (P := fun c => Identifier.isPart c = true → isLineEnd c = false)
    (by decide) (Identifier.toNat_lt_of_isPart hpart) hpart

theorem strip_comment {cs : List Char} (h : ∀ c ∈ cs, isLineEnd c = false) (rest : List Char) :
    strip .comment (cs ++ '\n' :: rest) = '\n' :: strip .code rest := by
  induction cs with
  | nil => rfl
  | cons c cs ih =>
    rw [List.forall_mem_cons] at h
    rw [List.cons_append, strip, h.1]
    exact ih h.2

/-- A comment stays one when something is put behind it. -/
theorem opens_append {cs : List Char} (h : opens cs = true) (rest : List Char) :
    opens (cs ++ rest) = true := by
  unfold opens at h ⊢
  rw [List.isPrefixOf_iff_prefix] at h ⊢
  rw [List.dropWhile_append]
  split
  · next hempty =>
    rw [List.isEmpty_iff.mp hempty] at h
    exact absurd (List.prefix_nil.mp h) (by simp)
  · exact h.trans (List.prefix_append _ _)

/-- Of a line that is a comment only its end is left. -/
theorem leaves_comment {s : String} (h : OneLine s)
    (hopens : opens s.toList = true) : Leaves (s ++ "\n") "\n" := by
  have hend : "\n".toList = ['\n'] := rfl
  intro rest
  rw [String.toList_append, hend, List.append_assoc, List.singleton_append, List.singleton_append]
  have hcomment := opens_append hopens ('\n' :: rest)
  cases hs : s.toList with
  | nil =>
    rw [hs] at hopens
    cases hopens
  | cons c cs =>
    have hcs : ∀ d ∈ cs, isLineEnd d = false := fun d hd => h d (hs ▸ List.mem_cons_of_mem c hd)
    rw [hs, List.cons_append] at hcomment
    rw [List.cons_append, strip, if_pos hcomment, strip_comment hcs]

/-- A line that is a comment from its start to its end. -/
def IsCommentLine (line : String) : Prop := ['/', '/'] <+: line.toList ∧ OneLine line

instance : DecidablePred IsCommentLine :=
  fun line => inferInstanceAs (Decidable (['/', '/'] <+: line.toList ∧ OneLine line))

theorem IsCommentLine.append {line text : String} (h : IsCommentLine line) (ht : OneLine text) :
    IsCommentLine (line ++ text) := by
  refine ⟨?_, h.2.append ht⟩
  rw [String.toList_append]
  exact h.1.trans (List.prefix_append _ _)

theorem IsCommentLine.leaves {line : String} (h : IsCommentLine line) :
    Leaves (line ++ "\n") "\n" := by
  apply leaves_comment h.2
  obtain ⟨rest, hrest⟩ := h.1
  rw [← hrest]
  exact opens_append (by decide) rest

end ApiTypings.LineComment
