import ApiTypings.ParameterSet
import ApiTypings.Proofs.DepthLimit

/-!
# What a body schema declares

The text of a body schema may be anything. It declares properties when it is a JSON object
that calls itself an object, or does not say what it is, and lists some properties. Exactly
then the body has a record, and the record says what the text says: one field for each key,
where the key first stands and with the value that was written for it last.

Texts are taken as they are written, with repeated keys. White space at the ends of a text
does not count. The four records of an interface come from four different parts of it, and
none is touched by the parts of the others.
-/

namespace ApiTypings

namespace Schema

/-! ## Names of kinds and of required properties -/

theorem ofName_eq_object {name : String} :
    Kind.ofName name = .object ↔ Text.lowerAscii (Text.trim name) = "object" := by
  unfold Kind.ofName
  split <;> simp_all

/-- An entry that lets a schema be that of an object, or no entry at all. -/
theorem typeEntry_eq_object {entry : Option Json} :
    TypeEntry.of entry = .kind .object ↔
      ∀ value, entry = some value →
        ∃ name, value = .text name ∧ Text.lowerAscii (Text.trim name) = "object" := by
  cases entry with
  | none => simp [TypeEntry.of]
  | some value => cases value <;> simp [TypeEntry.of, ofName_eq_object]

theorem mem_insertName {name n : String} {names : List String} :
    n ∈ insertName name names ↔ n = name ∨ n ∈ names := by
  induction names with
  | nil => simp [insertName]
  | cons m rest ih =>
    unfold insertName
    split
    · next heq => simp [heq]
    · split
      · simp
      · simp only [List.mem_cons, ih]
        exact or_left_comm

theorem mem_sortNames {n : String} {names : List String} : n ∈ sortNames names ↔ n ∈ names := by
  induction names with
  | nil => rfl
  | cons name rest ih =>
    rw [sortNames, List.foldr_cons, ← sortNames, mem_insertName, ih, List.mem_cons]

/-- The texts among the elements of a list that is required; anything but a list has none. -/
def textsOf : Option Json → List String
  | some (.array elements) => elements.filterMap Json.asText?
  | _ => []

theorem mem_requiredNames {n : String} {entry : Option Json} :
    n ∈ requiredNames (entry.map Json.unique) ↔ n ∈ textsOf entry := by
  have hasText : Json.asText? ∘ Json.unique = Json.asText? := funext Json.asText?_unique
  cases entry with
  | none => rfl
  | some value =>
    cases value with
    | array elements =>
      rw [Option.map_some, Json.unique, Json.uniqueItems_eq_map, requiredNames, mem_sortNames,
        List.filterMap_map, hasText]
      rfl
    | _ => rfl

/-! ## Schemas of objects -/

/-- The first level of a value is an object exactly when the value says so and lists its
properties. -/
theorem ofLevel_eq_object {below : Json → Node} {value : Json} {properties : List Property}
    {required : List String} :
    Node.ofLevel below value = .object properties required ↔
      ∃ members listed, value = .object members ∧
        TypeEntry.of (Assoc.find? "type" members) = .kind .object ∧
        Assoc.find? "properties" members = some (.object listed) ∧
        (properties = listed.map fun (name, value) =>
          ⟨name, below value, (value.get? "description").bind Json.asText?⟩) ∧
        required = requiredNames (Assoc.find? "required" members) := by
  cases value with
  | object members =>
    unfold Node.ofLevel
    dsimp only
    cases htype : TypeEntry.of (Assoc.find? "type" members) with
    | malformed => simp [htype]
    | kinds kinds => simp [htype]
    | kind kind =>
      cases kind with
      | array =>
        dsimp only
        split <;> simp [htype]
      | object =>
        dsimp only
        split
        · next listed hlisted => simp [htype, hlisted, eq_comm]
        · next hnone =>
          refine iff_of_false (by simp) ?_
          rintro ⟨_, listed, hvalue, _, hlisted, _⟩
          cases hvalue
          exact hnone listed hlisted
      | _ => simp [htype]
  | _ => simp [Node.ofLevel]

/-- The first level of a value is an array with items exactly when the value says so and tells
of its items. -/
theorem ofLevel_eq_array {below : Json → Node} {value : Json} {item : Node} :
    Node.ofLevel below value = .array item ↔
      ∃ members listed, value = .object members ∧
        TypeEntry.of (Assoc.find? "type" members) = .kind .array ∧
        Assoc.find? "items" members = some listed ∧ listed ≠ .null ∧ item = below listed := by
  cases value with
  | object members =>
    unfold Node.ofLevel
    dsimp only
    cases htype : TypeEntry.of (Assoc.find? "type" members) with
    | malformed => simp [htype]
    | kinds kinds => simp [htype]
    | kind kind =>
      cases kind with
      | array =>
        dsimp only
        split
        · next hnone => simp [htype, hnone]
        · next hnull => simp [htype, hnull]
        · next listed hnull hlisted =>
          have hne : listed ≠ .null := hnull
          rw [Node.array.injEq]
          constructor
          · rintro rfl
            exact ⟨members, listed, rfl, htype, hlisted, hne, rfl⟩
          · rintro ⟨_, listed', hvalue, _, hlisted', _, rfl⟩
            cases hvalue
            cases hlisted.symm.trans hlisted'
            rfl
      | object =>
        dsimp only
        split <;> simp [htype]
      | _ => simp [htype]
  | _ => simp [Node.ofLevel]

end Schema

open Schema

/-- The fields of a type are those of a node that is an object. -/
theorem TypeExpr.fields?_ofLevel {below : Node → TypeExpr} {node : Node} {fields : List Field} :
    (ofLevel below node).fields? = some fields ↔
      ∃ properties required, node = .object properties required ∧ properties ≠ [] ∧
        fields = properties.map fun p =>
          .described p.name (below p.node) (!required.contains p.name) p.description := by
  have hkind : ∀ kind t, ofKind? kind = some t → t.fields? = none := by
    intro kind t ht
    cases kind <;> cases ht <;> rfl
  cases node with
  | primitive kind =>
    rw [ofLevel]
    cases h : ofKind? kind with
    | none => simp [fields?]
    | some t => simp [hkind kind t h]
  | union kinds =>
    have halternatives : (ofAlternatives (kinds.filterMap ofKind?)).fields? = none := by
      refine ofAlternatives_cases (P := fun t => t.fields? = none) rfl ?_ fun _ => rfl
      intro t ht
      obtain ⟨kind, _, hmeaning⟩ := List.mem_filterMap.mp ht
      exact hkind kind t hmeaning
    simp [ofLevel, halternatives]
  | array item => simp [ofLevel, fields?]
  | unknown => simp [ofLevel, fields?]
  | object properties required =>
    cases properties with
    | nil => simp [ofLevel, fields?]
    | cons p rest => simp [ofLevel, fields?, eq_comm]

/-! ## Texts that declare properties -/

/-- A text that declares properties, with the members of the schema and with the properties
as they are written. -/
structure DeclaresProperties (text : String) (members properties : List (String × Json)) :
    Prop where
  reads : Json.readRaw (Text.trim text) = some (.object members)
  /-- Without an entry for its type a schema is that of an object. -/
  type : ∀ value, Assoc.last? "type" members = some value →
    ∃ name, value = .text name ∧ Text.lowerAscii (Text.trim name) = "object"
  listed : Assoc.last? "properties" members = some (.object properties)
  nonempty : properties ≠ []

/-- The field of a property at the root of a schema. -/
def propertyField (required : List String) (name : String) (value : Json) : Field :=
  .described name (.ofNodeWithin maxDepth (.ofJsonWithin maxDepth value)) (!required.contains name)
    ((value.get? "description").bind Json.asText?)

/-- The fields of the properties of a schema, each key once. -/
def declaredFields (members properties : List (String × Json)) : List Field :=
  (Json.merged properties).map fun (name, value) =>
    propertyField (requiredNames ((Assoc.last? "required" members).map Json.unique)) name value

/-- The schema of a body has fields exactly when its value is an object with properties. -/
theorem fields?_ofJson {value : Json} {fields : List Field} :
    (TypeExpr.ofNode (.ofJson value)).fields? = some fields ↔
      ∃ members properties, value = .object members ∧
        TypeEntry.of (Assoc.find? "type" members) = .kind .object ∧
        Assoc.find? "properties" members = some (.object properties) ∧ properties ≠ [] ∧
        fields = properties.map fun (name, value) =>
          propertyField (requiredNames (Assoc.find? "required" members)) name value := by
  rw [TypeExpr.ofNode, Node.ofJson, TypeExpr.ofNodeWithin_succ, Node.ofJsonWithin_succ,
    TypeExpr.fields?_ofLevel]
  constructor
  · rintro ⟨properties, required, hnode, hne, rfl⟩
    obtain ⟨members, listed, rfl, htype, hlisted, rfl, rfl⟩ := ofLevel_eq_object.mp hnode
    refine ⟨members, listed, rfl, htype, hlisted, by simpa using hne, ?_⟩
    rw [List.map_map]
    rfl
  · rintro ⟨members, listed, rfl, htype, hlisted, hne, rfl⟩
    refine ⟨_, _, ofLevel_eq_object.mpr ⟨members, listed, rfl, htype, hlisted, rfl, rfl⟩,
      by simpa using hne, ?_⟩
    rw [List.map_map]
    rfl

theorem BodySchema.fields?_of (text : Option String) :
    (BodySchema.of text).fields? =
      text.bind fun t => (Json.read (Text.trim t)).bind fun value =>
        (TypeExpr.ofNode (.ofJson value)).fields? := by
  have hempty : Json.read "" = none := by decide +kernel
  cases text with
  | none => rfl
  | some t =>
    unfold BodySchema.of Node.ofText?
    rw [Option.map_some, Option.bind_some]
    by_cases ht : Text.trim t = ""
    · rw [ht, hempty]
      rfl
    · split
      · next h => cases h
      · next h => exact (ht (Option.some.inj h)).elim
      · next t' _ h =>
        cases Option.some.inj h
        cases hread : Json.read (Text.trim t) with
        | none => rfl
        | some value => rfl

/-- Only a text that declares properties gives a body fields, and these are the declared
ones. -/
theorem BodySchema.fields?_eq_some {text : Option String} {fields : List Field} :
    (BodySchema.of text).fields? = some fields ↔
      ∃ t members properties, text = some t ∧ DeclaresProperties t members properties ∧
        fields = declaredFields members properties := by
  rw [fields?_of]
  simp only [Option.bind_eq_some_iff, fields?_ofJson]
  constructor
  · rintro ⟨t, rfl, value, hread, members, properties, rfl, htype, hproperties, hne, rfl⟩
    obtain ⟨raw, hraw, hunique⟩ := Option.map_eq_some_iff.mp hread
    obtain ⟨written, rfl, rfl⟩ := Json.unique_eq_object.mp hunique
    rw [Json.find?_merged] at htype hproperties
    obtain ⟨listed, hlisted, hobject⟩ := Option.map_eq_some_iff.mp hproperties
    obtain ⟨properties, rfl, rfl⟩ := Json.unique_eq_object.mp hobject
    refine ⟨t, written, properties, rfl, ⟨hraw, ?_, hlisted, mt Json.merged_eq_nil.mpr hne⟩, ?_⟩
    · intro value hvalue
      obtain ⟨name, hname, hkind⟩ :=
        typeEntry_eq_object.mp htype value.unique (by rw [hvalue, Option.map_some])
      exact ⟨name, Json.unique_eq_text.mp hname, hkind⟩
    · rw [declaredFields, Json.find?_merged]
  · rintro ⟨t, members, properties, rfl, h, rfl⟩
    refine ⟨t, rfl, .object (Json.merged members), ?_, Json.merged members,
      Json.merged properties, rfl, ?_, ?_, mt Json.merged_eq_nil.mp h.nonempty, ?_⟩
    · rw [Json.read, h.reads]
      rfl
    · rw [typeEntry_eq_object, Json.find?_merged]
      intro value hvalue
      obtain ⟨raw, hraw, rfl⟩ := Option.map_eq_some_iff.mp hvalue
      obtain ⟨name, rfl, hkind⟩ := h.type raw hraw
      exact ⟨name, rfl, hkind⟩
    · rw [Json.find?_merged, h.listed]
      rfl
    · rw [declaredFields, Json.find?_merged]

/-! ## What the fields say -/

/-- How a field follows from the value that is written for its key. -/
structure Field.Follows (required : List String) (value : Json) (f : Field) : Prop where
  optional : f.optional = true ↔ f.name ∉ required
  description : ∀ text, f.description = some text ↔
    ∃ members, value = .object members ∧
      Assoc.last? "description" members = some (.text text) ∧ Text.isBlankText text = false
  /-- The type looks one level less far down than that of the whole schema. -/
  type : f.type = .ofNodeWithin maxDepth (.ofJsonWithin maxDepth value.unique)
  /-- This does not matter for values of so few levels that nothing is left out. -/
  shallow : (Node.ofJsonUnlimited value.unique).nesting < maxDepth →
    f.type = .ofNode (.ofJson value.unique)

theorem bind_nonBlank? {entry : Option String} {text : String} :
    entry.bind Text.nonBlank? = some text ↔ entry = some text ∧ Text.isBlankText text = false := by
  have hsome : ∀ s, Text.nonBlank? s = some text ↔ s = text ∧ Text.isBlankText text = false := by
    intro s
    unfold Text.nonBlank?
    split
    · next hs =>
      refine iff_of_false (by simp) ?_
      rintro ⟨rfl, hnot⟩
      rw [hs] at hnot
      cases hnot
    · next hs =>
      rw [Option.some.injEq]
      refine ⟨?_, And.left⟩
      rintro rfl
      exact ⟨rfl, Bool.eq_false_iff.mpr hs⟩
  simp only [Option.bind_eq_some_iff, hsome]
  constructor
  · rintro ⟨_, hentry, rfl, hnot⟩
    exact ⟨hentry, hnot⟩
  · rintro ⟨hentry, hnot⟩
    exact ⟨text, hentry, rfl, hnot⟩

theorem description_of_unique {value : Json} {text : String} :
    (value.unique.get? "description").bind Json.asText? = some text ↔
      ∃ members, value = .object members ∧
        Assoc.last? "description" members = some (.text text) := by
  cases value with
  | object members =>
    have hget : (Json.object members).unique.get? "description" =
        (Assoc.last? "description" members).map Json.unique := Json.find?_merged _ members
    rw [hget]
    cases hentry : Assoc.last? "description" members with
    | none => simp [hentry]
    | some entry => cases entry <;> simp [hentry, Json.unique, Json.asText?]
  | _ => simp [Json.unique, Json.get?]

theorem propertyField_follows {entry : Option Json} (name : String) (value : Json) :
    (propertyField (requiredNames (entry.map Json.unique)) name value.unique).Follows
      (textsOf entry) value where
  optional := by
    simp [propertyField, Field.described, mem_requiredNames]
  description text := by
    simp only [propertyField, Field.described, bind_nonBlank?, description_of_unique,
      ← exists_and_right, and_assoc]
  type := rfl
  shallow h := by
    change TypeExpr.ofNodeWithin maxDepth (.ofJsonWithin maxDepth value.unique) = _
    rw [TypeExpr.ofNode, Node.ofJson, TypeExpr.ofNodeWithin_ofJsonWithin,
      TypeExpr.ofNodeWithin_ofJsonWithin, TypeExpr.ofNodeWithin_eq_unlimited h,
      TypeExpr.ofNodeWithin_eq_unlimited (Nat.lt_succ_of_lt h)]

/-- The declared fields have the keys of the properties as names, each once, and follow
from what was written for the keys last. -/
theorem declaredFields_spec (members properties : List (String × Json)) :
    (declaredFields members properties).map Field.name = (properties.map Prod.fst).eraseDups ∧
      ∀ f ∈ declaredFields members properties, ∃ value,
        Assoc.last? f.name properties = some value ∧
          f.Follows (textsOf (Assoc.last? "required" members)) value := by
  unfold declaredFields
  constructor
  · rw [List.map_map, ← Json.keys_merged]
    rfl
  · intro f hf
    obtain ⟨⟨name, value⟩, hmember, rfl⟩ := List.mem_map.mp hf
    have hkeys : ((Json.merged properties).map Prod.fst).Nodup := Json.nodup_keys_uniqueKeys _
    have hfind := Assoc.find?_of_mem hkeys hmember
    rw [Json.find?_merged] at hfind
    obtain ⟨raw, hraw, rfl⟩ := Option.map_eq_some_iff.mp hfind
    exact ⟨raw, hraw, propertyField_follows name raw⟩

/-! ## Records -/

/-- A record that is there exactly when a schema text declares properties, and that then
says what the text says. -/
structure FollowsSchema (name : String) (text : Option String) (record : Option Declaration) :
    Prop where
  present : record.isSome = true ↔
    ∃ t members properties, text = some t ∧ DeclaresProperties t members properties
  fields : ∀ t members properties, text = some t → DeclaresProperties t members properties →
    ∃ fields, record = some ⟨name, .interface fields⟩ ∧
      fields.map Field.name = (properties.map Prod.fst).eraseDups ∧
      ∀ f ∈ fields, ∃ value, Assoc.last? f.name properties = some value ∧
        f.Follows (textsOf (Assoc.last? "required" members)) value

theorem bodyRecord_follows (name : String) (text : Option String) :
    FollowsSchema name text (bodyRecord name text) where
  present := by
    rw [bodyRecord, Option.isSome_map, Option.isSome_iff_exists]
    simp only [BodySchema.fields?_eq_some]
    constructor
    · rintro ⟨_, t, members, properties, htext, hdeclares, _⟩
      exact ⟨t, members, properties, htext, hdeclares⟩
    · rintro ⟨t, members, properties, htext, hdeclares⟩
      exact ⟨_, t, members, properties, htext, hdeclares, rfl⟩
  fields t members properties htext hdeclares := by
    have hfields := BodySchema.fields?_eq_some.mpr ⟨t, members, properties, htext, hdeclares, rfl⟩
    obtain ⟨hnames, hfollows⟩ := declaredFields_spec members properties
    refine ⟨declaredFields members properties, ?_, hnames, hfollows⟩
    rw [bodyRecord, hfields, Option.map_some]

namespace ParameterSet

/-- The records of the two bodies of an interface follow their schema texts. The record of
the path parameters, that of the query parameters and those of the bodies each come from
one part of the interface: changing a part changes no other record. -/
theorem bodies_follow_schemas (d : Detail) (stem : String) :
    FollowsSchema (stem ++ "RequestBody") d.requestBody (ofDetail d stem).body ∧
      FollowsSchema (stem ++ "Response") d.responseBody (ofDetail d stem).response ∧
      ∀ d' : Detail,
        (d'.pathParameters = d.pathParameters →
          (ofDetail d' stem).params = (ofDetail d stem).params) ∧
        (d'.queryParameters = d.queryParameters →
          (ofDetail d' stem).query = (ofDetail d stem).query) ∧
        (d'.requestBody = d.requestBody → (ofDetail d' stem).body = (ofDetail d stem).body) ∧
        (d'.responseBody = d.responseBody →
          (ofDetail d' stem).response = (ofDetail d stem).response) := by
  refine ⟨bodyRecord_follows _ _, bodyRecord_follows _ _, ?_⟩
  intro d'
  unfold ofDetail
  refine ⟨?_, ?_, ?_, ?_⟩
  · intro h
    rw [h]
  · intro h
    rw [h]
  · intro h
    rw [h]
  · intro h
    rw [h]

/-- The text of a body that is spelled in many odd ways at once: white space around it, a
type in mixed case, a number among the required names and a key that stands twice. -/
def looseText : String :=
  "\n \x7b\"type\": \" Object\", \"required\": [7, \"id\"], " ++
    "\"properties\": \x7b\"id\": 1, \"tag\": \"text\", \"id\": \"string\"\x7d\x7d "

def looseDetail : Detail := ⟨1, "Loose", "/loose", "POST", [], [], some looseText, none⟩

theorem bodies_follow_schemas_loose :
    (∃ members properties, DeclaresProperties looseText members properties) ∧
      (ofDetail looseDetail "Loose").body.map Declaration.emit = some
        "export interface LooseRequestBody \x7b\n  id: string;\n  tag?: any;\n\x7d\n" ∧
      (ofDetail looseDetail "Loose").response.isNone = true := by
  have hemit : (ofDetail looseDetail "Loose").body.map Declaration.emit = some
      "export interface LooseRequestBody \x7b\n  id: string;\n  tag?: any;\n\x7d\n" := by
    decide +kernel
  have hbody : (ofDetail looseDetail "Loose").body.isSome = true := by
    rw [← Option.isSome_map (f := Declaration.emit), hemit]
    rfl
  obtain ⟨text, members, properties, htext, hdeclares⟩ :=
    (bodies_follow_schemas looseDetail "Loose").1.present.mp hbody
  cases htext
  exact ⟨⟨members, properties, hdeclares⟩, hemit, rfl⟩

end ParameterSet

end ApiTypings
