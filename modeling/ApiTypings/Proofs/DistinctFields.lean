import ApiTypings.Payload.Detail
import ApiTypings.Proofs.BodyFields
import ApiTypings.Proofs.JsonParts
import ApiTypings.Proofs.ModuleScope

/-!
# Fields that are declared once

The fields of a record come from the properties of a schema or from a parameter list. The keys
of a schema text are merged before anything is read from them, at every depth, so no record of a
schema declares a field twice. Nothing merges the parameters of a list: its record is the list
as it is, and a name that is listed twice is declared twice.

To follow a record back to the object it comes from, the records inside a type and the objects
inside a node are listed.
-/

namespace ApiTypings

/-! ## Records inside a type -/

namespace TypeExpr

mutual
/-- The fields of every record inside a type, outer records before inner ones. -/
def recordTypes : TypeExpr → List (List Field)
  | .record fields => fields :: fieldRecordTypes fields
  | .array item => item.recordTypes
  | .union members | .intersection members => memberRecordTypes members
  | .keyword _ | .literal _ | .ref _ => []

def memberRecordTypes : List TypeExpr → List (List Field)
  | [] => []
  | t :: rest => t.recordTypes ++ memberRecordTypes rest

def fieldRecordTypes : List Field → List (List Field)
  | [] => []
  | ⟨_, type, _, _⟩ :: rest => type.recordTypes ++ fieldRecordTypes rest
end

theorem memberRecordTypes_eq_flatMap (ts : List TypeExpr) :
    memberRecordTypes ts = ts.flatMap recordTypes := by
  induction ts with
  | nil => rfl
  | cons t rest ih => rw [memberRecordTypes, ih, List.flatMap_cons]

theorem fieldRecordTypes_eq_flatMap (fields : List Field) :
    fieldRecordTypes fields = fields.flatMap (·.type.recordTypes) := by
  induction fields with
  | nil => rfl
  | cons f rest ih =>
    cases f with
    | mk name type optional description => rw [fieldRecordTypes, ih, List.flatMap_cons]

theorem mem_recordTypes_record {fields inner : List Field} :
    inner ∈ (record fields).recordTypes ↔
      inner = fields ∨ ∃ f ∈ fields, inner ∈ f.type.recordTypes := by
  rw [recordTypes, fieldRecordTypes_eq_flatMap, List.mem_cons, List.mem_flatMap]

theorem recordTypes_ofKind? {kind : Schema.Kind} {t : TypeExpr} (h : ofKind? kind = some t) :
    t.recordTypes = [] := by
  cases kind <;> cases h <;> rfl

theorem recordTypes_ofAlternatives {ts : List TypeExpr} (h : ∀ t ∈ ts, t.recordTypes = []) :
    (ofAlternatives ts).recordTypes = [] := by
  refine ofAlternatives_cases (P := fun t => t.recordTypes = []) rfl h ?_
  intro _
  rw [recordTypes, memberRecordTypes_eq_flatMap, List.flatMap_eq_nil_iff]
  exact h

end TypeExpr

/-! ## Objects inside a node -/

namespace Schema

mutual
/-- The properties of every object inside a node, outer objects before inner ones. -/
def Node.objects : Node → List (List Property)
  | .object properties _ => properties :: propertyObjects properties
  | .array item => item.objects
  | .primitive _ | .union _ | .unknown => []

def Node.propertyObjects : List Property → List (List Property)
  | [] => []
  | ⟨_, node, _⟩ :: rest => node.objects ++ propertyObjects rest
end

theorem Node.propertyObjects_eq_flatMap (properties : List Property) :
    propertyObjects properties = properties.flatMap (·.node.objects) := by
  induction properties with
  | nil => rfl
  | cons p rest ih =>
    cases p with
    | mk name node description => rw [propertyObjects, ih, List.flatMap_cons]

theorem Node.mem_objects_object {properties inner : List Property} {required : List String} :
    inner ∈ (object properties required).objects ↔
      inner = properties ∨ ∃ p ∈ properties, inner ∈ p.node.objects := by
  rw [objects, propertyObjects_eq_flatMap, List.mem_cons, List.mem_flatMap]

/-- The properties of a node are the members of an object inside the value it was read from. -/
theorem Node.objects_ofJsonWithin {levels : Nat} {value : Json} {properties : List Property}
    (h : properties ∈ (ofJsonWithin levels value).objects) :
    ∃ members, .object members ∈ value.parts ∧
      properties.map Property.name = members.map Prod.fst := by
  induction levels generalizing value with
  | zero => cases h
  | succ levels ih =>
    rw [ofJsonWithin_succ] at h
    cases hnode : ofLevel (ofJsonWithin levels) value with
    | object written required =>
      rw [hnode, mem_objects_object] at h
      obtain ⟨members, listed, rfl, _, hlisted, rfl, _⟩ := ofLevel_eq_object.mp hnode
      have hinside : ∀ v, v ∈ (Json.object listed).parts → v ∈ (Json.object members).parts :=
        fun v hv => Json.mem_parts_object.mpr (.inr ⟨_, Assoc.mem_of_find? hlisted, hv⟩)
      rcases h with rfl | ⟨p, hp, hinner⟩
      · refine ⟨listed, hinside _ (Json.mem_parts_self _), ?_⟩
        rw [List.map_map]
        rfl
      · obtain ⟨⟨name, value⟩, hmember, rfl⟩ := List.mem_map.mp hp
        obtain ⟨inner, hparts, hnames⟩ := ih hinner
        exact ⟨inner, hinside _ (Json.mem_parts_object.mpr (.inr ⟨_, hmember, hparts⟩)), hnames⟩
    | array item =>
      rw [hnode, objects] at h
      obtain ⟨members, listed, rfl, _, hlisted, _, rfl⟩ := ofLevel_eq_array.mp hnode
      obtain ⟨inner, hparts, hnames⟩ := ih h
      exact ⟨inner, Json.mem_parts_object.mpr (.inr ⟨_, Assoc.mem_of_find? hlisted, hparts⟩),
        hnames⟩
    | _ => simp [hnode, objects] at h

end Schema

open Schema

/-- The fields of a record are the properties of an object inside the node. -/
theorem TypeExpr.recordTypes_ofNodeWithin {levels : Nat} {node : Node} {fields : List Field}
    (h : fields ∈ (ofNodeWithin levels node).recordTypes) :
    ∃ properties ∈ node.objects, fields.map Field.name = properties.map Property.name := by
  induction levels generalizing node with
  | zero => cases h
  | succ levels ih =>
    rw [ofNodeWithin_succ] at h
    cases node with
    | primitive kind =>
      rw [ofLevel] at h
      cases hkind : ofKind? kind with
      | none => simp [hkind, recordTypes] at h
      | some t => simp [hkind, recordTypes_ofKind? hkind] at h
    | union kinds =>
      have hnone : (ofAlternatives (kinds.filterMap ofKind?)).recordTypes = [] := by
        apply recordTypes_ofAlternatives
        intro t ht
        obtain ⟨kind, _, hkind⟩ := List.mem_filterMap.mp ht
        exact recordTypes_ofKind? hkind
      rw [ofLevel, hnone] at h
      cases h
    | array item =>
      rw [ofLevel, recordTypes] at h
      rw [Node.objects]
      exact ih h
    | object properties required =>
      rw [ofLevel, mem_recordTypes_record] at h
      rcases h with rfl | ⟨f, hf, hinner⟩
      · refine ⟨properties, Node.mem_objects_object.mpr (.inl rfl), ?_⟩
        rw [List.map_map]
        rfl
      · obtain ⟨p, hp, rfl⟩ := List.mem_map.mp hf
        obtain ⟨inner, hobjects, hnames⟩ := ih hinner
        exact ⟨inner, Node.mem_objects_object.mpr (.inr ⟨p, hp, hobjects⟩), hnames⟩
    | unknown => cases h

/-- No record of a schema text declares a field twice, however often the text has a key. -/
theorem BodySchema.nodup_fields {text : Option String} {fields inner : List Field}
    (hfields : (BodySchema.of text).fields? = some fields)
    (h : inner ∈ (TypeExpr.record fields).recordTypes) : (inner.map Field.name).Nodup := by
  simp only [fields?_of, Option.bind_eq_some_iff] at hfields
  obtain ⟨t, _, value, hread, hvalue⟩ := hfields
  obtain ⟨raw, _, rfl⟩ := Option.map_eq_some_iff.mp hread
  rw [← (TypeExpr.fields?_eq_some.mp hvalue).1] at h
  obtain ⟨properties, hobjects, hnames⟩ := TypeExpr.recordTypes_ofNodeWithin h
  obtain ⟨members, hparts, hkeys⟩ := Node.objects_ofJsonWithin hobjects
  rw [hnames, hkeys]
  exact Json.repeatsNoKey_unique raw members hparts

/-! ## Records of a declaration -/

/-- The fields of every record inside a shape, those of an interface among them. -/
def Shape.recordTypes : Shape → List (List Field)
  | .interface fields => (TypeExpr.record fields).recordTypes
  | .alias type => type.recordTypes
  | .marker _ => []
  | .selector _ _ branches fallback =>
    branches.flatMap (·.2.recordTypes) ++ fallback.recordTypes

/-- Whether the declaration and the records inside it have no two fields of one name. -/
def Declaration.RepeatsNoField (d : Declaration) : Prop :=
  ∀ fields ∈ d.shape.recordTypes, (fields.map Field.name).Nodup

instance (d : Declaration) : Decidable d.RepeatsNoField :=
  inferInstanceAs (Decidable (∀ fields ∈ d.shape.recordTypes, (fields.map Field.name).Nodup))

/-- The record of a parameter list is the list as it is, and has no records inside. -/
theorem parameterRecord_recordTypes {name : String} {parameters : List Parameter}
    {x : Declaration} (h : parameterRecord name parameters = some x) :
    ∃ fields, x.shape = .interface fields ∧ x.shape.recordTypes = [fields] ∧
      fields.map Field.name = parameters.map Parameter.name := by
  have hflat : ∀ kind, (TypeExpr.ofNode (.primitive kind)).recordTypes = [] := by
    intro kind
    cases kind <;> rfl
  unfold parameterRecord at h
  split at h
  · cases h
  · cases h
    refine ⟨_, rfl, ?_, ?_⟩
    · rw [Shape.recordTypes, TypeExpr.recordTypes, TypeExpr.fieldRecordTypes_eq_flatMap,
        List.flatMap_map, List.flatMap_eq_nil_iff.mpr fun p _ => hflat p.kind]
    · rw [List.map_map]
      rfl

/-- The record of a parameter list repeats a field exactly when the list repeats a name. -/
theorem parameterRecord_repeatsNoField (name : String) {parameters : List Parameter} :
    (∀ x, parameterRecord name parameters = some x → x.RepeatsNoField) ↔
      (parameters.map Parameter.name).Nodup := by
  cases hrecord : parameterRecord name parameters with
  | none =>
    have hempty : parameters = [] := by simpa [parameterRecord] using hrecord
    simp [hempty]
  | some x =>
    obtain ⟨fields, _, hrecords, hnames⟩ := parameterRecord_recordTypes hrecord
    simp [Declaration.RepeatsNoField, hrecords, hnames]

theorem bodyRecord_repeatsNoField {name : String} {text : Option String} {x : Declaration}
    (h : bodyRecord name text = some x) : x.RepeatsNoField := by
  obtain ⟨fields, hfields, rfl⟩ := Option.map_eq_some_iff.mp h
  exact fun inner hinner => BodySchema.nodup_fields hfields hinner

namespace Module

/-- What combines the parts of a request only refers to them. -/
theorem recordTypes_of_combining {stem : String} {parts : List RequestPart}
    {x : Role × Declaration} (h : x ∈ combining stem parts) : x.2.shape.recordTypes = [] := by
  have hrefs : ∀ names : List String,
      (TypeExpr.intersection (names.map .ref)).recordTypes = [] := by
    intro names
    rw [TypeExpr.recordTypes, TypeExpr.memberRecordTypes_eq_flatMap, List.flatMap_map,
      List.flatMap_eq_nil_iff]
    exact fun _ _ => rfl
  simp only [combining, List.mem_cons, List.not_mem_nil, or_false] at h
  rcases h with rfl | rfl | rfl
  · rfl
  · exact hrefs _
  · rw [Shape.recordTypes, List.flatMap_map, List.append_eq_nil_iff, List.flatMap_eq_nil_iff]
    exact ⟨fun _ _ => rfl, rfl⟩

/-- A field is declared twice only by the interface of a parameter list, which repeats what
the list repeats. -/
theorem repeated_of_mem {d : Detail} {x : Role × Declaration} {fields : List Field}
    (hx : x ∈ (ofDetail d).declarations) (hfields : fields ∈ x.2.shape.recordTypes)
    (hrepeated : ¬ (fields.map Field.name).Nodup) :
    x.2.shape = .interface fields ∧
      (x.1 = .paramsShape ∧ fields.map Field.name = d.pathParameters.map Parameter.name ∨
        x.1 = .queryShape ∧ fields.map Field.name = d.queryParameters.map Parameter.name) := by
  have hlist : ∀ {name parameters}, parameterRecord name parameters = some x.2 →
      x.2.shape = .interface fields ∧ fields.map Field.name = parameters.map Parameter.name := by
    intro name parameters hrecord
    obtain ⟨listed, hshape, hrecords, hnames⟩ := parameterRecord_recordTypes hrecord
    rw [hrecords, List.mem_singleton] at hfields
    rw [hfields]
    exact ⟨hshape, hnames⟩
  have hbody : ∀ {name text}, bodyRecord name text ≠ some x.2 :=
    fun hrecord => hrepeated (bodyRecord_repeatsNoField hrecord fields hfields)
  obtain ⟨role, x⟩ := x
  rcases mem_declarationsOf.mp hx with hrecord | ⟨_, hcombining⟩
  · cases role with
    | paramsShape => exact (hlist hrecord).imp_right fun hnames => .inl ⟨rfl, hnames⟩
    | queryShape => exact (hlist hrecord).imp_right fun hnames => .inr ⟨rfl, hnames⟩
    | bodyShape | response => exact (hbody hrecord).elim
    | _ => cases hrecord
  · rw [recordTypes_of_combining hcombining] at hfields
    cases hfields

/-- No declaration of a module declares a field twice, at any depth, exactly when neither list
of parameters names one twice. The bodies never do, whatever their texts are; what is declared
twice stands in the outermost record of the path or query parameters, as it stands in the list. -/
theorem ofDetail_repeats_no_field (d : Detail) :
    ((∀ x ∈ (ofDetail d).declarations, x.2.RepeatsNoField) ↔
      (d.pathParameters.map Parameter.name).Nodup ∧
        (d.queryParameters.map Parameter.name).Nodup) ∧
    ∀ x ∈ (ofDetail d).declarations, ∀ fields ∈ x.2.shape.recordTypes,
      ¬ (fields.map Field.name).Nodup →
        x.2.shape = .interface fields ∧
          (x.1 = .paramsShape ∧ fields.map Field.name = d.pathParameters.map Parameter.name ∨
            x.1 = .queryShape ∧
              fields.map Field.name = d.queryParameters.map Parameter.name) := by
  refine ⟨⟨fun h => ⟨?_, ?_⟩, ?_⟩, fun x hx fields hfields => repeated_of_mem hx hfields⟩
  · rw [← parameterRecord_repeatsNoField (Identifier.symbolStem d.name ++ "RequestParams")]
    intro x hrecord
    exact h (.paramsShape, x) (mem_declarationsOf.mpr (.inl hrecord))
  · rw [← parameterRecord_repeatsNoField (Identifier.symbolStem d.name ++ "RequestQuery")]
    intro x hrecord
    exact h (.queryShape, x) (mem_declarationsOf.mpr (.inl hrecord))
  · rintro ⟨hpath, hquery⟩ x hx fields hfields
    by_contra hrepeated
    rcases (repeated_of_mem hx hfields hrepeated).2 with ⟨_, hnames⟩ | ⟨_, hnames⟩
    · exact hrepeated (hnames ▸ hpath)
    · exact hrepeated (hnames ▸ hquery)

/-- The schema of the body repeats a key at the root and another inside, which costs nothing. -/
theorem ofDetail_repeats_no_field_repeated_keys :
    let d : Detail := ⟨1, "Save", "/api/save", "POST", [⟨"id", .integer, true, ""⟩],
      [⟨"id", .integer, true, ""⟩, ⟨"q", .string, false, ""⟩],
      some "\x7b\"properties\": \x7b\"a\": \"string\", \"a\": \x7b\"properties\": \x7b\"b\": \"string\", \"b\": \"number\"\x7d\x7d\x7d\x7d",
      none⟩
    (ofDetail d).declarations.length = 6 ∧
      ∀ x ∈ (ofDetail d).declarations, x.2.RepeatsNoField := by
  intro d
  exact ⟨by decide +kernel, (ofDetail_repeats_no_field d).1.mpr (by decide)⟩

/-- A payload that lists a query parameter twice gives a module that declares it twice. -/
theorem repeated_query_parameter :
    let parameter : Json := .object [("name", .text "q")]
    ∃ d, Payload.detail? 1 (.object [("path", .text "/api/user/get"),
        ("req_query", .array [parameter, parameter])]) = some d ∧
      ¬ ∀ x ∈ (ofDetail d).declarations, x.2.RepeatsNoField := by
  refine ⟨_, rfl, ?_⟩
  decide +kernel

end Module

end ApiTypings
