import ApiTypings.Module
import ApiTypings.Proofs.TextLaws
import ApiTypings.Proofs.TypeNormal

/-!
# The symbols of a module

Every symbol of a module is the stem of its interface with an ending. A stem with an ending
is an identifier, whatever the name of the interface is: of the name only the characters are
kept that may stand in identifiers, capitalizing gives such characters again, and a digit
does not come first. So every declaration of a module has a text.
-/

namespace ApiTypings

namespace Identifier

/-! ## Stems -/

theorem toNat_lt_of_isPart {c : Char} (h : isPart c = true) : c.toNat < 0x80 := by
  simp only [isPart, Bool.or_eq_true, beq_iff_eq] at h
  rcases h with (h | rfl) | rfl
  · exact Text.toNat_lt_of_isAlphanum h
  · decide
  · decide

theorem isPart_capitalize {word : String} (h : ∀ c ∈ word.toList, isPart c = true) :
    ∀ c ∈ (Text.capitalize word).toList, isPart c = true := by
  unfold Text.capitalize
  cases hword : word.toList with
  | nil => simp
  | cons first rest =>
    rw [hword, List.forall_mem_cons] at h
    have hfirst := toNat_lt_of_isPart h.1
    have hupper : isPart first = true → isPart first.toUpper = true :=
      Text.ascii_forall (P := fun c => isPart c = true → isPart c.toUpper = true) (by decide) hfirst
    have hchar : Text.upperChar first = [first.toUpper] := if_pos hfirst
    rw [String.toList_ofList, hchar, List.singleton_append, List.forall_mem_cons]
    exact ⟨hupper h.1, h.2⟩

/-- The characters of the words of a name, before anything is put in front. -/
theorem isPart_words (name : String) :
    ∀ c ∈ (((Text.split (!isPart ·) name).map Text.capitalize).foldr (· ++ ·) "").toList,
      isPart c = true := by
  have hpieces : ∀ piece ∈ Text.split (!isPart ·) name, ∀ c ∈ piece.toList, isPart c = true := by
    intro piece hpiece
    obtain ⟨cs, hcs, rfl⟩ := List.mem_map.mp hpiece
    rw [String.toList_ofList]
    exact fun c hc => by simpa using Text.splitChars_not_sep hcs c hc
  generalize Text.split (!isPart ·) name = pieces at hpieces
  induction pieces with
  | nil => simp
  | cons piece pieces ih =>
    rw [List.forall_mem_cons] at hpieces
    intro c hc
    rw [List.map_cons, List.foldr_cons, String.toList_append, List.mem_append] at hc
    rcases hc with hc | hc
    · exact isPart_capitalize hpieces.1 c hc
    · exact ih hpieces.2 c hc

theorem isStart_of_isPart {c : Char} (h : isPart c = true) (hdigit : c.isDigit = false) :
    isStart c = true := by
  simpa [isPart, isStart, Char.isAlphanum, hdigit] using h

theorem isPart_of_isStart {c : Char} (h : isStart c = true) : isPart c = true := by
  simp only [isStart, Bool.or_eq_true] at h
  simp only [isPart, Char.isAlphanum, Bool.or_eq_true]
  exact h.imp_left (.imp_left .inl)

theorem isPart_of_isIdentifier {cs : List Char} (h : isIdentifier cs = true) :
    ∀ c ∈ cs, isPart c = true := by
  cases cs with
  | nil => cases h
  | cons c cs =>
    simp only [isIdentifier, Bool.and_eq_true, List.all_eq_true] at h
    exact List.forall_mem_cons.mpr ⟨isPart_of_isStart h.1, h.2⟩

theorem isIdentifier_symbolStem (name : String) :
    isIdentifier (symbolStem name).toList = true := by
  have hpart := isPart_words name
  unfold symbolStem
  generalize ((Text.split (!isPart ·) name).map Text.capitalize).foldr (· ++ ·) "" = words at hpart
  dsimp only
  split
  · decide
  · next c cs hwords =>
    rw [hwords, List.forall_mem_cons] at hpart
    cases hdigit : c.isDigit with
    | false =>
      have hstart := isStart_of_isPart hpart.1 hdigit
      simpa [hwords, isIdentifier, hstart] using hpart.2
    | true =>
      have hunderscore : isStart '_' = true := by decide
      simpa [hwords, isIdentifier, hunderscore] using hpart

theorem isIdentifier_append {cs ds : List Char} (h : isIdentifier cs = true)
    (hds : ds.all isPart = true) : isIdentifier (cs ++ ds) = true := by
  cases cs with
  | nil => cases h
  | cons c cs =>
    simp only [isIdentifier, Bool.and_eq_true] at h
    simp [isIdentifier, h.1, List.all_append, h.2, hds]

/-- A stem with an ending is an identifier. -/
theorem isIdentifier_symbol (name : String) {ending : String}
    (h : ending.toList.all isPart = true) :
    isIdentifier (symbolStem name ++ ending).toList = true := by
  rw [String.toList_append]
  exact isIdentifier_append (isIdentifier_symbolStem name) h

end Identifier

open Identifier

/-! ## Declarations -/

/-- A symbol that does not begin like a keyword may be referred to. -/
theorem TypeExpr.wellformed_ref (name : String) {ending : String}
    (h : ending.toList.all isPart = true) (hkeyword : 'R' ∈ ending.toList) :
    (TypeExpr.ref (symbolStem name ++ ending)).Wellformed := by
  have hwords : ∀ word : Keyword, 'R' ∉ word.text.toList := by
    intro word
    cases word <;> decide
  refine .ref (isIdentifier_symbol name h) ?_
  intro word heq
  apply hwords word
  rw [← heq, String.toList_append]
  exact List.mem_append_right _ hkeyword

theorem TypeExpr.Wellformed.of_fields? {t : TypeExpr} (h : t.Wellformed) {fields : List Field}
    (hfields : t.fields? = some fields) : ∀ f ∈ fields, f.type.Wellformed := by
  obtain ⟨rfl, _⟩ := fields?_eq_some.mp hfields
  cases h with
  | record hall => exact hall

/-- Shapes whose types have a text and whose other names are identifiers. -/
def Shape.Wellformed : Shape → Prop
  | .interface fields => ∀ f ∈ fields, f.type.Wellformed
  | .alias type => type.Wellformed
  | .marker combines => ∀ name ∈ combines, isIdentifier name.toList = true
  | .selector param _ branches fallback =>
    isIdentifier param.toList = true ∧ (∀ b ∈ branches, b.2.Wellformed) ∧ fallback.Wellformed

structure Declaration.Wellformed (d : Declaration) : Prop where
  name : isIdentifier d.name.toList = true
  shape : d.shape.Wellformed

theorem parameterRecord_spec {name : String} {parameters : List Parameter} {d : Declaration}
    (h : parameterRecord name parameters = some d) : d.name = name ∧ d.shape.Wellformed := by
  unfold parameterRecord at h
  split at h
  · cases h
  · cases h
    refine ⟨rfl, ?_⟩
    intro f hf
    obtain ⟨p, _, rfl⟩ := List.mem_map.mp hf
    exact (TypeExpr.ofNodeWithin_spec _ _).1

theorem bodyRecord_spec {name : String} {text : Option String} {d : Declaration}
    (h : bodyRecord name text = some d) : d.name = name ∧ d.shape.Wellformed := by
  obtain ⟨fields, hfields, rfl⟩ := Option.map_eq_some_iff.mp h
  refine ⟨rfl, ?_⟩
  unfold BodySchema.fields? at hfields
  split at hfields
  · exact (TypeExpr.ofNodeWithin_spec _ _).1.of_fields? hfields
  · cases hfields

/-- A record of an interface is declared under a symbol that may be referred to. -/
structure Declaration.Referable (d : Declaration) : Prop where
  wellformed : d.Wellformed
  ref : (TypeExpr.ref d.name).Wellformed

theorem Declaration.referable_of_symbol {name ending : String}
    (h : ending.toList.all isPart = true) (hkeyword : 'R' ∈ ending.toList) {d : Declaration}
    (hd : d.name = symbolStem name ++ ending ∧ d.shape.Wellformed) : d.Referable := by
  obtain ⟨hname, hshape⟩ := hd
  refine ⟨⟨?_, hshape⟩, ?_⟩
  · exact hname ▸ isIdentifier_symbol name h
  · exact hname ▸ TypeExpr.wellformed_ref name h hkeyword

namespace Module

theorem mem_requestParts {s : ParameterSet} {p : RequestPart} (h : p ∈ requestParts s) :
    s.params = some p.declaration ∨ s.query = some p.declaration ∨
      s.body = some p.declaration := by
  obtain ⟨⟨discriminant, role, declaration⟩, hmem, hp⟩ := List.mem_filterMap.mp h
  obtain ⟨d, hd, rfl⟩ := Option.map_eq_some_iff.mp hp
  simp only [List.mem_cons, Prod.mk.injEq, List.not_mem_nil, or_false] at hmem
  rcases hmem with ⟨_, _, heq⟩ | ⟨_, _, heq⟩ | ⟨_, _, heq⟩
  · exact .inl (heq ▸ hd)
  · exact .inr (.inl (heq ▸ hd))
  · exact .inr (.inr (heq ▸ hd))

theorem referable_of_mem_requestParts {d : Detail} {name : String} {p : RequestPart}
    (h : p ∈ requestParts (.ofDetail d (symbolStem name))) : p.declaration.Referable := by
  rcases mem_requestParts h with hparams | hquery | hbody
  · exact Declaration.referable_of_symbol (by decide) (by decide) (parameterRecord_spec hparams)
  · exact Declaration.referable_of_symbol (by decide) (by decide) (parameterRecord_spec hquery)
  · exact Declaration.referable_of_symbol (by decide) (by decide) (bodyRecord_spec hbody)

theorem wellformed_combining (name : String) {parts : List RequestPart} (hparts : parts ≠ [])
    (h : ∀ p ∈ parts, p.declaration.Referable) :
    ∀ d ∈ combining (symbolStem name) parts, d.2.Wellformed := by
  have hfull : (TypeExpr.ref (symbolStem name ++ "FullRequest")).Wellformed :=
    TypeExpr.wellformed_ref name (by decide) (by decide)
  simp only [combining, List.forall_mem_cons]
  refine ⟨⟨isIdentifier_symbol name (by decide), ?_⟩, ⟨isIdentifier_symbol name (by decide), ?_⟩,
    ⟨isIdentifier_symbol name (by decide), by decide, ?_, hfull⟩, List.forall_mem_nil _⟩
  · intro combined hcombined
    obtain ⟨p, hp, rfl⟩ := List.mem_map.mp hcombined
    exact (h p hp).wellformed.name
  · refine .intersection (by simpa using hparts) ?_
    intro t ht
    obtain ⟨combined, hcombined, rfl⟩ := List.mem_map.mp ht
    obtain ⟨p, hp, rfl⟩ := List.mem_map.mp hcombined
    exact (h p hp).ref
  · intro branch hbranch
    obtain ⟨p, hp, rfl⟩ := List.mem_map.mp hbranch
    exact (h p hp).ref

/-- Every declaration of a generated module has a text. -/
theorem wellformed_declarations (d : Detail) :
    ∀ declaration ∈ (ofDetail d).declarations, declaration.2.Wellformed := by
  intro declaration hmem
  have hparts : ∀ p ∈ requestParts (.ofDetail d (symbolStem d.name)), p.declaration.Referable :=
    fun p hp => referable_of_mem_requestParts hp
  change declaration ∈ declarationsOf _ (.ofDetail d (symbolStem d.name)) at hmem
  unfold declarationsOf at hmem
  generalize hrequest : requestParts (.ofDetail d (symbolStem d.name)) = parts at hparts hmem
  rw [List.mem_append, List.mem_append] at hmem
  rcases hmem with (hmem | hmem) | hmem
  · obtain ⟨p, hp, rfl⟩ := List.mem_map.mp hmem
    exact (hparts p hp).wellformed
  · split at hmem
    · next htwo =>
      have hne : parts ≠ [] := by
        rintro rfl
        simp at htwo
      exact wellformed_combining d.name hne hparts declaration hmem
    · cases hmem
  · rw [Option.mem_toList] at hmem
    obtain ⟨response, hresponse, rfl⟩ := Option.map_eq_some_iff.mp hmem
    obtain ⟨hname, hshape⟩ := bodyRecord_spec hresponse
    exact ⟨hname ▸ isIdentifier_symbol d.name (by decide), hshape⟩

end Module

end ApiTypings
