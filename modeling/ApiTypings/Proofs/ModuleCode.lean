import ApiTypings.Proofs.Comments
import ApiTypings.Proofs.Undescribed

/-!
# What a module is without its comments

Free text of an interface stands in comments only: its title, path and method in the four
lines at the top, the descriptions of its parameters and of the properties at the root of its
schemas behind the fields. Without its line comments a module is a text that is made of the
symbols, the keys and the types of its declarations. Interfaces that come to the same but for
free text therefore have the same code.
-/

namespace ApiTypings

open LineComment

/-! ## Free text in a line -/

theorem isBlank_of_isLineEnd {c : Char} (h : isLineEnd c = true) :
    Text.isBlank c = true ∧ c ≠ ' ' := by
  simp only [isLineEnd, Bool.or_eq_true, beq_iff_eq] at h
  rcases h with ((rfl | rfl) | rfl) | rfl <;> decide

/-- Free text on a single line ends no comment. -/
theorem oneLine_singleLine (s : String) : OneLine (Text.singleLine s) := by
  intro c hc
  by_contra hend
  obtain ⟨hblank, hspace⟩ := isBlank_of_isLineEnd (eq_true_of_ne_false hend)
  rcases Text.mem_singleLine hc with heq | hnot
  · exact hspace heq
  · exact absurd hblank (by simp [hnot])

theorem oneLine_upper_singleLine (s : String) : OneLine (Text.upper (Text.singleLine s)) := by
  intro c hc
  rw [Text.upper, String.toList_ofList] at hc
  obtain ⟨d, hd, hcd⟩ := List.mem_flatMap.mp hc
  by_contra hend
  obtain ⟨hblank, hspace⟩ := isBlank_of_isLineEnd (eq_true_of_ne_false hend)
  rcases Text.mem_singleLine hd with rfl | hnot
  · have hupper : Text.upperChar ' ' = [' '] := by decide
    rw [hupper, List.mem_singleton] at hcd
    exact hspace hcd
  · exact absurd hblank (by simp [Text.isBlank_upperChar hnot hcd])

/-! ## Declarations -/

/-- A field on a line of its own, without its description. -/
def Field.codeLine (f : Field) : String := "  " ++ f.emit ++ ";" ++ "\n"

/-- A description is left out with the white space before it. -/
theorem Field.leaves_line {f : Field} (h : f.type.Wellformed) : Leaves f.line f.codeLine := by
  have hindent : Plain "  " := plain_of_safe (by decide)
  have hfield : Plain ("  " ++ f.emit) :=
    hindent.append (plain_field f.name f.optional (plain_emit h))
  unfold Field.line Field.codeLine
  -- Cut behind the semicolon: the space after it goes with the description.
  rw [String.append_assoc]
  refine (hfield.line (by decide)).append ?_
  cases f.description with
  | none => exact leaves_of_closes (by decide)
  | some d =>
    have hslashes : OneLine " // " := by decide
    apply leaves_comment (hslashes.append (oneLine_singleLine d))
    rw [String.toList_append]
    exact opens_append (by decide) _

namespace Declaration

/-- The text of a declaration without its comments. -/
def code (d : Declaration) : String :=
  match d.shape with
  | .interface (f :: fields) =>
    "export interface " ++ d.name ++ " \x7b\n" ++ Text.join "" ((f :: fields).map Field.codeLine) ++
      "\x7d\n"
  | .marker combines =>
    (if combines.isEmpty then "" else "\n" ++ "\n") ++ ("export interface " ++ d.name ++ " \x7b\x7d\n")
  | _ => d.emit

/-- Of the two lines about what is combined only the ends are left. -/
theorem leaves_combinesComment {names : List String}
    (h : ∀ name ∈ names, Identifier.isIdentifier name.toList = true) :
    Leaves (combinesComment names) (if names.isEmpty then "" else "\n" ++ "\n") := by
  have hcombines : IsCommentLine "// Combines: " := by decide
  have hpick : IsCommentLine
      "// Each part is sent through its own channel; pick one with the selector type." := by decide
  have hend : "// Each part is sent through its own channel; pick one with the selector type.\n" =
      "// Each part is sent through its own channel; pick one with the selector type." ++ "\n" := by
    decide
  have hnames : OneLine (Text.join ", " names) := by
    have hcomma : OneLine ", " := by decide
    intro c hc
    rcases Text.mem_join hc with hsep | ⟨name, hname, hmem⟩
    · exact hcomma c hsep
    · exact oneLine_identifier (h name hname) c hmem
  unfold combinesComment
  split
  · exact leaves_empty
  · rw [hend]
    exact (hcombines.append hnames).leaves.append hpick.leaves

theorem leaves_branchLine {param : String} (hparam : Identifier.isIdentifier param.toList = true)
    {branch : String × TypeExpr} (h : branch.2.Wellformed) :
    Leaves (branchLine param branch) (branchLine param branch) := by
  have hindent : Plain "  " := plain_of_safe (by decide)
  have hextends : Plain " extends " := plain_of_safe (by decide)
  have hquestion : Plain " ? " := plain_of_safe (by decide)
  have hcondition := ((hindent.append (plain_identifier hparam)).append hextends).append
    (plain_literal branch.1)
  exact ((hcondition.append hquestion).append (plain_emit h)).line (by decide)

theorem leaves_emit {d : Declaration} (h : d.Wellformed) : Leaves d.emit d.code := by
  have hname : Plain d.name := plain_identifier h.name
  have hinterface : Plain ("export interface " ++ d.name) :=
    (plain_of_safe (by decide)).append hname
  have htype : Plain ("export type " ++ d.name) := (plain_of_safe (by decide)).append hname
  have hindent : Plain "  " := plain_of_safe (by decide)
  obtain ⟨name, shape⟩ := d
  -- Each line is plain up to an ending after which no comment can begin.
  match shape, h.shape with
  | .interface [], _ => exact hinterface.line (by decide)
  | .interface (f :: fields), hshape =>
    have hlines : Leaves (Text.join "" ((f :: fields).map Field.line))
        (Text.join "" ((f :: fields).map Field.codeLine)) :=
      Leaves.join fun g hg => Field.leaves_line (hshape g hg)
    exact ((hinterface.line (by decide)).append hlines).append (leaves_of_closes (by decide))
  | .alias type, hshape =>
    have hequals : Plain " = " := plain_of_safe (by decide)
    exact ((htype.append hequals).append (plain_emit hshape)).line (by decide)
  | .marker combines, hshape =>
    have hclosing : closes " \x7b\x7d\n".toList = true := by decide
    have hall := (leaves_combinesComment hshape).append (hinterface.line hclosing)
    simpa only [emit, code, String.append_assoc] using hall
  | .selector param discriminants branches fallback, ⟨hparam, hbranches, hfallback⟩ =>
    have hliterals : ∀ text ∈ discriminants.map Identifier.literal, Plain text :=
      List.forall_mem_map.mpr fun value _ => plain_literal value
    have hbar : Plain " | " := plain_of_safe (by decide)
    have hopen : Plain "<" := plain_of_safe (by decide)
    have hextends : Plain " extends " := plain_of_safe (by decide)
    have hhead := (((htype.append hopen).append (plain_identifier hparam)).append hextends).append
      (hbar.join hliterals)
    have hlines : Leaves (Text.join "" (branches.map (branchLine param)))
        (Text.join "" (branches.map (branchLine param))) :=
      Leaves.join fun b hb => leaves_branchLine hparam (hbranches b hb)
    have hlast : Leaves ("  " ++ fallback.emit ++ ";\n") ("  " ++ fallback.emit ++ ";\n") :=
      (hindent.append (plain_emit hfallback)).line (by decide)
    have hclosing : closes "> =\n".toList = true := by decide
    have hall := ((hhead.line hclosing).append hlines).append hlast
    simpa only [emit, code, String.append_assoc] using hall

theorem code_undescribed (d : Declaration) : d.undescribed.code = d.code := by
  have hlines : ∀ fields : List Field, (fields.map Field.undescribed).map Field.codeLine =
      fields.map Field.codeLine := by
    intro fields
    rw [List.map_map]
    apply List.map_congr_left
    intro f _
    rw [Function.comp_apply, Field.codeLine, Field.codeLine, Field.emit_undescribed]
  obtain ⟨name, shape⟩ := d
  match shape with
  | .interface [] => rfl
  | .interface (f :: fields) =>
    have hall := hlines (f :: fields)
    simp only [undescribed, Shape.undescribed, List.map_cons, code] at hall ⊢
    rw [hall]
  | .alias type =>
    simp only [undescribed, Shape.undescribed, code, emit, TypeExpr.emit_undescribed]
  | .marker combines => rfl
  | .selector param discriminants branches fallback =>
    have hbranches : (branches.map fun b => (b.1, b.2.undescribed)).map (branchLine param) =
        branches.map (branchLine param) := by
      rw [List.map_map]
      apply List.map_congr_left
      intro b _
      rw [Function.comp_apply, branchLine, branchLine, TypeExpr.emit_undescribed]
    simp only [undescribed, Shape.undescribed, code, emit, TypeExpr.emit_undescribed, hbranches]

end Declaration

/-! ## Modules -/

namespace Module

def headerLines (m : Module) : List String :=
  ["// Generated by yapi2ts from a YAPI interface definition.",
    "// Title: " ++ Text.singleLine m.title,
    "// Path: " ++ Text.singleLine m.path,
    "// Method: " ++ Text.upper (Text.singleLine m.method)]

theorem header_eq (m : Module) : m.header = Text.join "" (m.headerLines.map (· ++ "\n")) := by
  have hfirst : "// Generated by yapi2ts from a YAPI interface definition.\n" =
      "// Generated by yapi2ts from a YAPI interface definition." ++ "\n" := by decide
  unfold header headerLines
  simp only [hfirst, List.map_cons, List.map_nil, Text.join, String.append_empty,
    String.append_assoc]

/-- Whatever the title, the path and the method are, the lines at the top are comments. -/
theorem isCommentLine_headerLines (m : Module) : ∀ line ∈ m.headerLines, IsCommentLine line := by
  have hgenerated : IsCommentLine "// Generated by yapi2ts from a YAPI interface definition." := by
    decide
  have htitle : IsCommentLine "// Title: " := by decide
  have hpath : IsCommentLine "// Path: " := by decide
  have hmethod : IsCommentLine "// Method: " := by decide
  intro line hline
  simp only [headerLines, List.mem_cons, List.not_mem_nil, or_false] at hline
  rcases hline with rfl | rfl | rfl | rfl
  · exact hgenerated
  · exact htitle.append (oneLine_singleLine m.title)
  · exact hpath.append (oneLine_singleLine m.path)
  · exact hmethod.append (oneLine_upper_singleLine m.method)

/-- The text starts with exactly four comments, each of which is a line. -/
def HasFourLineHeader (text : String) : Prop :=
  ∃ (lines : List String) (body : String), text = Text.join "" (lines.map (· ++ "\n")) ++ body ∧ lines.length = 4 ∧
    (∀ line ∈ lines, IsCommentLine line) ∧ (body = "" ∨ ['\n'] <+: body.toList)

theorem hasFourLineHeader_emit (m : Module) : HasFourLineHeader m.emit := by
  refine ⟨m.headerLines, Text.join "" (m.declarations.map block), by rw [emit, header_eq], rfl,
    isCommentLine_headerLines m, ?_⟩
  have hblock : ∀ d, ['\n'] <+: (block d).toList := by
    intro d
    have hblank : "\n".toList = ['\n'] := rfl
    rw [block, String.append_assoc, String.append_assoc, String.toList_append, hblank]
    exact List.prefix_append _ _
  match m.declarations with
  | [] => exact .inl rfl
  | [d] => exact .inr (hblock d)
  | d :: e :: rest =>
    refine .inr ((hblock d).trans ?_)
    rw [List.map_cons, List.map_cons, Text.join, String.append_assoc, String.toList_append]
    exact List.prefix_append _ _

/-- The text of a module without its comments. -/
def code (m : Module) : String :=
  "\n\n\n\n" ++ Text.join "" (m.declarations.map fun d => "\n" ++ "\n" ++ d.2.code)

theorem isCommentLine_comment (role : Role) : IsCommentLine role.comment := by
  cases role <;> decide

theorem leaves_emit {m : Module} (h : ∀ d ∈ m.declarations, d.2.Wellformed) :
    Leaves m.emit m.code := by
  have hheader : Leaves m.header "\n\n\n\n" := by
    have hlines : Leaves (Text.join "" (m.headerLines.map (· ++ "\n")))
        (Text.join "" (m.headerLines.map fun _ => "\n")) :=
      Leaves.join fun line hline => (isCommentLine_headerLines m line hline).leaves
    rw [header_eq]
    exact hlines
  have hblocks : Leaves (Text.join "" (m.declarations.map block))
      (Text.join "" (m.declarations.map fun d => "\n" ++ "\n" ++ d.2.code)) := by
    apply Leaves.join
    intro d hd
    have hblank : Leaves "\n" "\n" := leaves_of_closes (by decide)
    have hcomment := (isCommentLine_comment d.1).leaves
    have hblock := hblank.append (hcomment.append (Declaration.leaves_emit (h d hd)))
    unfold block
    simpa only [String.append_assoc] using hblock
  exact hheader.append hblocks

/-- What is left of a generated module without its comments. -/
theorem remove_emit (d : Detail) : remove (ofDetail d).emit = (ofDetail d).code :=
  (leaves_emit (wellformed_declarations d)).remove_eq

theorem code_eq_of_undescribed {m m' : Module}
    (h : m.declarations.map (fun d => (d.1, d.2.undescribed)) =
      m'.declarations.map (fun d => (d.1, d.2.undescribed))) : m.code = m'.code := by
  have hcode : ∀ m : Module, m.code = "\n\n\n\n" ++ Text.join ""
      ((m.declarations.map fun d => (d.1, d.2.undescribed)).map
        fun d => "\n" ++ "\n" ++ d.2.code) := by
    intro m
    simp only [code, List.map_map, Function.comp_def, Declaration.code_undescribed]
  rw [hcode m, h, ← hcode m']

/-- Two interfaces that come to the same but for free text have modules that are the same but
for their comments. Each module starts with exactly four lines of comment. -/
theorem free_text_in_comments (d d' : Detail) (h : d.Alike d') :
    remove (ofDetail d).emit = remove (ofDetail d').emit ∧
      HasFourLineHeader (ofDetail d).emit ∧ HasFourLineHeader (ofDetail d').emit := by
  refine ⟨?_, hasFourLineHeader_emit _, hasFourLineHeader_emit _⟩
  rw [remove_emit, remove_emit]
  exact code_eq_of_undescribed (declarations_undescribed h)

/-- An interface without any free text. -/
def silentDetail : Detail :=
  ⟨1, "", "/list", "GET", [⟨"id", .integer, true, ""⟩], [⟨"it's", .other "?", false, " "⟩],
    some "\x7b\"properties\":\x7b\"a//b\":\x7b\x7d\x7d\x7d", none⟩

/-- The same interface, with texts that try to leave their comments. -/
def noisyDetail : Detail :=
  ⟨2, "Users\nexport \x7b\x7d;", "/x\u2028()/ list ", "get\r\n// \u2029",
    [⟨"id", .integer, true, "the\n\x7d\rid' */"⟩], [⟨"it's", .other "?", false, "// \u2028'"⟩],
    some "\x7b\"properties\":\x7b\"a//b\":\x7b\"description\":\"\u2028\x7d\"\x7d\x7d\x7d",
    some "not JSON"⟩

theorem free_text_in_comments_noisy : silentDetail.Alike noisyDetail ∧
    remove (ofDetail silentDetail).emit = remove (ofDetail noisyDetail).emit := by
  have halike : silentDetail.Alike noisyDetail := by decide +kernel
  exact ⟨halike, (free_text_in_comments silentDetail noisyDetail halike).1⟩

end Module

end ApiTypings
