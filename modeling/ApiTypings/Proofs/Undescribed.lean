import ApiTypings.Module
import ApiTypings.Proofs.TypeNormal
import ApiTypings.Proofs.TypeReader

/-!
# Descriptions

Everything that is generated keeps its descriptions beside the rest. Erasing them from a
schema and generating is generating and erasing them there, for nodes and types, for
parameter sets, and for the declarations of a module. So declarations that come from inputs
which differ in descriptions only differ in descriptions only. The text of a type does not
show them.
-/

namespace ApiTypings

/-! ## Erasing descriptions -/

namespace Schema

mutual
/-- The node without the descriptions of its properties, unchanged in all else. -/
def Node.undescribed : Node → Node
  | .primitive kind => .primitive kind
  | .array item => .array item.undescribed
  | .object properties required => .object (undescribedProperties properties) required
  | .union kinds => .union kinds
  | .unknown => .unknown

def undescribedProperties : List Property → List Property
  | [] => []
  | ⟨name, node, _⟩ :: ps => ⟨name, node.undescribed, none⟩ :: undescribedProperties ps
end

theorem undescribedProperties_eq_map (ps : List Property) :
    undescribedProperties ps = ps.map fun p => ⟨p.name, p.node.undescribed, none⟩ := by
  induction ps with
  | nil => rfl
  | cons p ps ih =>
    cases p with
    | mk name node description => rw [undescribedProperties, ih, List.map_cons]

mutual
/-- Whether two nodes are the same but for descriptions. -/
def Node.alike : Node → Node → Bool
  | .primitive kind, .primitive kind' => kind = kind'
  | .array item, .array item' => item.alike item'
  | .object properties required, .object properties' required' =>
    alikeProperties properties properties' && required = required'
  | .union kinds, .union kinds' => kinds = kinds'
  | .unknown, .unknown => true
  | _, _ => false

def alikeProperties : List Property → List Property → Bool
  | [], [] => true
  | ⟨name, node, _⟩ :: ps, ⟨name', node', _⟩ :: ps' =>
    name = name' && node.alike node' && alikeProperties ps ps'
  | _, _ => false
end

/-- A property holds of all nodes if it passes from the nodes inside a node to the node. -/
@[elab_as_elim]
theorem Node.induction {P : Node → Prop} (primitive : ∀ kind, P (.primitive kind))
    (array : ∀ item, P item → P (.array item))
    (object : ∀ (properties : List Property) required, (∀ p ∈ properties, P p.node) →
      P (.object properties required))
    (union : ∀ kinds, P (.union kinds)) (unknown : P .unknown) (node : Node) : P node :=
  @Node.rec P (fun p => P p.node) (fun ps => ∀ p ∈ ps, P p.node)
    primitive array (fun properties required h => object properties required h) union unknown
    (fun _ _ _ hnode => hnode) (List.forall_mem_nil _)
    (fun _ _ hp hps => List.forall_mem_cons.mpr ⟨hp, hps⟩) node

theorem alikeProperties_iff {ps ps' : List Property}
    (h : ∀ p ∈ ps, ∀ node', p.node.alike node' = true ↔ p.node.undescribed = node'.undescribed) :
    alikeProperties ps ps' = true ↔ undescribedProperties ps = undescribedProperties ps' := by
  induction ps generalizing ps' with
  | nil =>
    rcases ps' with _ | ⟨⟨_, _, _⟩, _⟩ <;> simp [alikeProperties, undescribedProperties]
  | cons p ps ih =>
    rw [List.forall_mem_cons] at h
    obtain ⟨hnode, hrest⟩ := h
    obtain ⟨name, node, _⟩ := p
    rcases ps' with _ | ⟨⟨name', node', _⟩, ps'⟩
    · simp [alikeProperties, undescribedProperties]
    · simp [alikeProperties, undescribedProperties, ih hrest, hnode]

theorem Node.alike_iff (node node' : Node) :
    node.alike node' = true ↔ node.undescribed = node'.undescribed := by
  induction node using Node.induction generalizing node' with
  | primitive kind => cases node' <;> simp [alike, undescribed]
  | array item ih => cases node' <;> simp [alike, undescribed, ih]
  | object properties required ih =>
    cases node' <;> simp [alike, undescribed, alikeProperties_iff ih]
  | union kinds => cases node' <;> simp [alike, undescribed]
  | unknown => cases node' <;> simp [alike, undescribed]

end Schema

def Parameter.undescribed (p : Parameter) : Parameter := { p with description := "" }

def Field.undescribed (f : Field) : Field := ⟨f.name, f.type.undescribed, f.optional, none⟩

def Shape.undescribed : Shape → Shape
  | .interface fields => .interface (fields.map Field.undescribed)
  | .alias type => .alias type.undescribed
  | .marker combines => .marker combines
  | .selector param discriminants branches fallback =>
    .selector param discriminants (branches.map fun b => (b.1, b.2.undescribed)) fallback.undescribed

def Declaration.undescribed (d : Declaration) : Declaration := ⟨d.name, d.shape.undescribed⟩

def RequestPart.undescribed (p : RequestPart) : RequestPart :=
  { p with declaration := p.declaration.undescribed }

def ParameterSet.undescribed (s : ParameterSet) : ParameterSet :=
  { params := s.params.map Declaration.undescribed
    query := s.query.map Declaration.undescribed
    body := s.body.map Declaration.undescribed
    response := s.response.map Declaration.undescribed }

/-! ## Types -/

namespace TypeExpr

theorem undescribed_record (fields : List Field) :
    (TypeExpr.record fields).undescribed = .record (fields.map Field.undescribed) := by
  rw [undescribed, undescribedFields_eq_map]
  rfl

theorem undescribed_ofAlternatives {ts : List TypeExpr} (h : ∀ t ∈ ts, t.undescribed = t) :
    (ofAlternatives ts).undescribed = ofAlternatives ts := by
  refine ofAlternatives_cases (P := fun t => t.undescribed = t) rfl h ?_
  intro _
  have hmap : ts.map undescribed = ts := List.map_congr_left h |>.trans (List.map_id _)
  rw [undescribed, undescribedMembers_eq_map, hmap]

/-- The description of a property goes to the field and nowhere else. -/
theorem ofNodeWithin_undescribed (levels : Nat) (node : Schema.Node) :
    ofNodeWithin levels node.undescribed = (ofNodeWithin levels node).undescribed := by
  induction levels generalizing node with
  | zero => rfl
  | succ levels ih =>
    cases node with
    | primitive kind =>
      rw [Schema.Node.undescribed, ofNodeWithin]
      cases hkind : ofKind? kind with
      | none => rfl
      | some t => exact (ofKind?_spec hkind).2.2.1.symm
    | union kinds =>
      have hkinds : ∀ t ∈ kinds.filterMap ofKind?, t.undescribed = t := by
        intro t ht
        obtain ⟨kind, _, hkind⟩ := List.mem_filterMap.mp ht
        exact (ofKind?_spec hkind).2.2.1
      rw [Schema.Node.undescribed, ofNodeWithin]
      exact (undescribed_ofAlternatives hkinds).symm
    | array item => rw [Schema.Node.undescribed, ofNodeWithin, ofNodeWithin, undescribed, ih]
    | object properties required =>
      rw [Schema.Node.undescribed, ofNodeWithin, ofNodeWithin, undescribed_record,
        Schema.undescribedProperties_eq_map, List.map_map, List.map_map]
      congr 1
      apply List.map_congr_left
      intro p _
      simp only [Function.comp_apply, Field.described, Field.undescribed, ih, Option.bind_none]
    | unknown => rfl

theorem isCompound_undescribed (t : TypeExpr) : t.undescribed.isCompound = t.isCompound := by
  cases t <;> rfl

theorem isUnion_undescribed (t : TypeExpr) : t.undescribed.isUnion = t.isUnion := by
  cases t <;> rfl

/-- The text of a type shows no descriptions. -/
theorem emit_undescribed (t : TypeExpr) : t.undescribed.emit = t.emit := by
  induction t using induction with
  | keyword word => rfl
  | array item ih => rw [undescribed, emit, emit, isCompound_undescribed, ih]
  | union members ih =>
    rw [undescribed, emit, emit, undescribedMembers_eq_map, TypeReader.emitMembers_eq_map,
      TypeReader.emitMembers_eq_map, List.map_map]
    congr 1
    exact List.map_congr_left ih
  | intersection members ih =>
    rw [undescribed, emit, emit, undescribedMembers_eq_map, TypeReader.emitParts_eq_map,
      TypeReader.emitParts_eq_map, List.map_map]
    congr 1
    apply List.map_congr_left
    intro t ht
    rw [Function.comp_apply, isUnion_undescribed, ih t ht]
  | record fields ih =>
    rw [undescribed_record]
    cases fields with
    | nil => rfl
    | cons f fields =>
      rw [emit, List.map_cons, emit, ← List.map_cons, TypeReader.emitFields_eq_map,
        TypeReader.emitFields_eq_map, List.map_map]
      congr 3
      apply List.map_congr_left
      intro g hg
      rw [Function.comp_apply, Field.undescribed, ih g hg]
  | literal value => rfl
  | ref name => rfl

theorem fields?_undescribed (t : TypeExpr) :
    t.undescribed.fields? = t.fields?.map (List.map Field.undescribed) := by
  cases t with
  | record fields =>
    rw [undescribed_record]
    cases fields <;> rfl
  | _ => rfl

end TypeExpr

theorem Field.emit_undescribed (f : Field) : f.undescribed.emit = f.emit := by
  unfold emit undescribed
  rw [TypeExpr.emit_undescribed]

/-! ## Parameter sets -/

theorem Parameter.toField_undescribed (p : Parameter) :
    p.undescribed.toField.undescribed = p.toField.undescribed := rfl

/-- Two schema texts that come to the same but for descriptions: neither declares anything,
or they are the same node when the descriptions are erased. -/
def SameBody (text text' : Option String) : Prop :=
  (BodySchema.of text).fields? = none ∧ (BodySchema.of text').fields? = none ∨
    ∃ node node', BodySchema.of text = .node node ∧ BodySchema.of text' = .node node' ∧
      node.undescribed = node'.undescribed

/-- Whether two schema texts come to the same. -/
def sameBody (text text' : Option String) : Bool :=
  match BodySchema.of text, BodySchema.of text' with
  | .node node, .node node' =>
    node.alike node' ||
      (BodySchema.node node).fields?.isNone && (BodySchema.node node').fields?.isNone
  | schema, schema' => schema.fields?.isNone && schema'.fields?.isNone

theorem sameBody_iff (text text' : Option String) :
    sameBody text text' = true ↔ SameBody text text' := by
  unfold sameBody SameBody
  cases BodySchema.of text <;> cases BodySchema.of text' <;>
    simp [Schema.Node.alike_iff, or_comm]

instance (text text' : Option String) : Decidable (SameBody text text') :=
  decidable_of_iff _ (sameBody_iff text text')

theorem SameBody.fields? {text text' : Option String} (h : SameBody text text') :
    (BodySchema.of text).fields?.map (List.map Field.undescribed) =
      (BodySchema.of text').fields?.map (List.map Field.undescribed) := by
  rcases h with ⟨hnone, hnone'⟩ | ⟨node, node', hnode, hnode', hsame⟩
  · rw [hnone, hnone']
  · rw [hnode, hnode', BodySchema.fields?, BodySchema.fields?, ← TypeExpr.fields?_undescribed,
      ← TypeExpr.fields?_undescribed, TypeExpr.ofNode, TypeExpr.ofNode,
      ← TypeExpr.ofNodeWithin_undescribed, hsame, TypeExpr.ofNodeWithin_undescribed]

theorem parameterRecord_undescribed (name : String) {ps ps' : List Parameter}
    (h : ps.map Parameter.undescribed = ps'.map Parameter.undescribed) :
    (parameterRecord name ps).map Declaration.undescribed =
      (parameterRecord name ps').map Declaration.undescribed := by
  have hfields : ∀ ps : List Parameter, (ps.map Parameter.toField).map Field.undescribed =
      ((ps.map Parameter.undescribed).map Parameter.toField).map Field.undescribed := by
    intro ps
    simp only [List.map_map]
    exact List.map_congr_left fun p _ => p.toField_undescribed.symm
  have hempty : ps.isEmpty = ps'.isEmpty := by
    rw [← List.isEmpty_map, h, List.isEmpty_map]
  unfold parameterRecord
  rw [hempty]
  split
  · rfl
  · simp only [Option.map_some, Declaration.undescribed, Shape.undescribed]
    rw [hfields ps, h, ← hfields ps']

theorem bodyRecord_undescribed (name : String) {text text' : Option String}
    (h : SameBody text text') :
    (bodyRecord name text).map Declaration.undescribed =
      (bodyRecord name text').map Declaration.undescribed := by
  have hrecord : ∀ text, (bodyRecord name text).map Declaration.undescribed =
      ((BodySchema.of text).fields?.map (List.map Field.undescribed)).map
        fun fields => ⟨name, .interface fields⟩ := by
    intro text
    rw [bodyRecord, Option.map_map, Option.map_map]
    rfl
  rw [hrecord, hrecord, h.fields?]

/-- Two details that come to the same but for free text. -/
structure Detail.Alike (d d' : Detail) : Prop where
  name : d.name = d'.name
  pathParameters : d.pathParameters.map Parameter.undescribed =
    d'.pathParameters.map Parameter.undescribed
  queryParameters : d.queryParameters.map Parameter.undescribed =
    d'.queryParameters.map Parameter.undescribed
  requestBody : SameBody d.requestBody d'.requestBody
  responseBody : SameBody d.responseBody d'.responseBody

instance (d d' : Detail) : Decidable (d.Alike d') :=
  decidable_of_iff
    (d.name = d'.name ∧
      d.pathParameters.map Parameter.undescribed = d'.pathParameters.map Parameter.undescribed ∧
      d.queryParameters.map Parameter.undescribed = d'.queryParameters.map Parameter.undescribed ∧
      SameBody d.requestBody d'.requestBody ∧ SameBody d.responseBody d'.responseBody)
    ⟨fun ⟨hname, hpath, hquery, hrequest, hresponse⟩ => ⟨hname, hpath, hquery, hrequest, hresponse⟩,
      fun h => ⟨h.name, h.pathParameters, h.queryParameters, h.requestBody, h.responseBody⟩⟩

theorem ParameterSet.ofDetail_undescribed {d d' : Detail} (h : d.Alike d') (stem : String) :
    (ofDetail d stem).undescribed = (ofDetail d' stem).undescribed := by
  unfold ofDetail ParameterSet.undescribed
  rw [parameterRecord_undescribed _ h.pathParameters, parameterRecord_undescribed _ h.queryParameters,
    bodyRecord_undescribed _ h.requestBody, bodyRecord_undescribed _ h.responseBody]

/-! ## Modules -/

namespace Module

theorem requestParts_undescribed (s : ParameterSet) :
    requestParts s.undescribed = (requestParts s).map RequestPart.undescribed := by
  cases s with
  | mk params query body response =>
    cases params <;> cases query <;> cases body <;> rfl

theorem combining_undescribed (stem : String) (parts : List RequestPart) :
    (combining stem parts).map (fun d => (d.1, d.2.undescribed)) =
      combining stem (parts.map RequestPart.undescribed) := by
  simp only [combining, List.map_cons, List.map_nil, Declaration.undescribed, Shape.undescribed,
    TypeExpr.undescribed, TypeExpr.undescribedMembers_eq_map, List.map_map]
  rfl

theorem declarationsOf_undescribed (stem : String) (s : ParameterSet) :
    (declarationsOf stem s).map (fun d => (d.1, d.2.undescribed)) =
      declarationsOf stem s.undescribed := by
  unfold declarationsOf
  dsimp only
  rw [requestParts_undescribed, List.map_append, List.map_append, List.length_map]
  congr 1
  · congr 1
    · simp only [List.map_map]
      rfl
    · rw [apply_ite (List.map _), combining_undescribed, List.map_nil]
  · unfold ParameterSet.undescribed
    cases s.response <;> rfl

/-- Modules of interfaces that come to the same have the same declarations, but for
descriptions. -/
theorem declarations_undescribed {d d' : Detail} (h : d.Alike d') :
    (ofDetail d).declarations.map (fun d => (d.1, d.2.undescribed)) =
      (ofDetail d').declarations.map (fun d => (d.1, d.2.undescribed)) := by
  unfold ofDetail
  rw [declarationsOf_undescribed, declarationsOf_undescribed, h.name,
    ParameterSet.ofDetail_undescribed h]

end Module

end ApiTypings
