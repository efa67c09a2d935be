import ApiTypings.Json.Basic
import ApiTypings.TypeExpr.OfSchema
import Mathlib.Data.List.Basic

/-!
# Values of schemas and values of types

A schema node accepts some JSON values, and a type expression admits some. What a node
accepts is admitted by the type of the node, so nothing that fits a schema is refused by
the type generated for it. The converse fails only for whole numbers, which types do not
tell from other numbers, and below the depth at which nodes are no longer looked at.

A member of an object is what looking up its name finds. No JSON value is undefined, so
a property of that kind has to be absent.
-/

namespace ApiTypings

open Schema

/-! ## Values of schemas -/

/-- Whether a number is an integer. -/
def Number.Binary64.isWhole (x : Number.Binary64) : Bool :=
  let (n, d) := x.ratio
  n % d == 0

namespace Schema

/-- The values of a kind; a kind without a meaning leaves every value possible. -/
def Kind.accepts : Kind → Json → Bool
  | .string, .text _ => true
  | .number, .int _ => true
  | .number, .double _ => true
  | .integer, .int _ => true
  | .integer, .double x => x.isWhole
  | .boolean, .bool _ => true
  | .array, .array _ => true
  | .object, .object _ => true
  | .null, .null => true
  | .other _, _ => true
  | _, _ => false

/-- Whether a kind has a meaning. -/
def Kind.isKnown : Kind → Bool
  | .other _ => false
  | _ => true

/-- The values of those kinds of a list that have a meaning; if none has one, every value
is possible. -/
def Kind.acceptsAny (kinds : List Kind) (v : Json) : Bool :=
  let known := kinds.filter isKnown
  known.isEmpty || known.any (accepts · v)

mutual
def Node.accepts : Node → Json → Bool
  | .primitive kind, v => kind.accepts v
  | .array item, v =>
    match v with
    | .array items => items.all item.accepts
    | _ => false
  | .object properties required, v =>
    match v with
    | .object members => acceptsMembers required members properties
    | _ => false
  | .union kinds, v => Kind.acceptsAny kinds v
  | .unknown, _ => true

/-- Whether each declared property is accepted where it is present, and is present where
it is required. -/
def acceptsMembers (required : List String) (members : List (String × Json)) :
    List Property → Bool
  | [] => true
  | ⟨name, node, _⟩ :: rest =>
    (Assoc.find? name members).elim (!required.contains name) node.accepts &&
      acceptsMembers required members rest
end

mutual
/-- How many levels there are below the root of a node. -/
def Node.nesting : Node → Nat
  | .array item => item.nesting + 1
  | .object properties _ => nestingBelow properties
  | _ => 0

def nestingBelow : List Property → Nat
  | [] => 0
  | ⟨_, node, _⟩ :: rest => max (node.nesting + 1) (nestingBelow rest)
end

mutual
/-- Whether a kind occurs anywhere in a node. -/
def Node.mentions (kind : Kind) : Node → Bool
  | .primitive k => k == kind
  | .array item => item.mentions kind
  | .object properties _ => mentionedBelow kind properties
  | .union kinds => kinds.contains kind
  | .unknown => false

def mentionedBelow (kind : Kind) : List Property → Bool
  | [] => false
  | ⟨_, node, _⟩ :: rest => node.mentions kind || mentionedBelow kind rest
end

attribute [local simp] Node.accepts acceptsMembers

theorem acceptsMembers_iff {required : List String} {members : List (String × Json)}
    {properties : List Property} :
    acceptsMembers required members properties = true ↔
      ∀ p ∈ properties,
        (Assoc.find? p.name members).elim (!required.contains p.name) p.node.accepts = true := by
  induction properties with
  | nil => simp
  | cons p rest ih =>
    obtain ⟨name, node, description⟩ := p
    rw [acceptsMembers, Bool.and_eq_true, ih, List.forall_mem_cons]

theorem accepts_array {item : Node} {v : Json} :
    (Node.array item).accepts v = true ↔
      ∃ items, v = .array items ∧ ∀ w ∈ items, item.accepts w = true := by
  cases v <;> simp

theorem accepts_object {properties : List Property} {required : List String} {v : Json} :
    (Node.object properties required).accepts v = true ↔
      ∃ members, v = .object members ∧ ∀ p ∈ properties,
        (Assoc.find? p.name members).elim (!required.contains p.name) p.node.accepts = true := by
  cases v <;> simp [acceptsMembers_iff]

theorem acceptsAny_iff {kinds : List Kind} {v : Json} :
    Kind.acceptsAny kinds v = true ↔
      (∀ k ∈ kinds, k.isKnown = false) ∨
        ∃ k ∈ kinds, k.isKnown = true ∧ k.accepts v = true := by
  simp [Kind.acceptsAny]

theorem nesting_lt_of_mem {properties : List Property} {p : Property} (h : p ∈ properties) :
    p.node.nesting < nestingBelow properties := by
  induction properties with
  | nil => cases h
  | cons q rest ih =>
    obtain ⟨name, node, description⟩ := q
    rw [nestingBelow]
    rcases List.mem_cons.mp h with rfl | h
    · exact Nat.lt_of_succ_le (Nat.le_max_left _ _)
    · exact Nat.lt_of_lt_of_le (ih h) (Nat.le_max_right _ _)

theorem mentions_of_mem {kind : Kind} {properties : List Property} {p : Property}
    (h : p ∈ properties) (hmentions : p.node.mentions kind = true) :
    mentionedBelow kind properties = true := by
  induction properties with
  | nil => cases h
  | cons q rest ih =>
    obtain ⟨name, node, description⟩ := q
    rw [mentionedBelow, Bool.or_eq_true]
    rcases List.mem_cons.mp h with rfl | h
    · exact .inl hmentions
    · exact .inr (ih h)

end Schema

/-! ## Values of types -/

def Keyword.admits : Keyword → Json → Bool
  | .string, .text _ => true
  | .number, .int _ => true
  | .number, .double _ => true
  | .boolean, .bool _ => true
  | .null, .null => true
  | .object, .object _ => true
  | .any, _ => true
  | _, _ => false

namespace TypeExpr

variable (named : String → Json → Bool)

mutual
/-- The values of a type, given those of the types that it names. -/
def admits : TypeExpr → Json → Bool
  | .keyword word, v => word.admits v
  | .array item, v =>
    match v with
    | .array items => items.all item.admits
    | _ => false
  | .union members, v => admitsSome v members
  | .intersection members, v => admitsEach v members
  | .record fields, v =>
    match v with
    | .object members => admitsMembers members fields
    | _ => false
  | .literal value, v => v.asText? == some value
  | .ref name, v => named name v

def admitsSome (v : Json) : List TypeExpr → Bool
  | [] => false
  | t :: rest => t.admits v || admitsSome v rest

def admitsEach (v : Json) : List TypeExpr → Bool
  | [] => true
  | t :: rest => t.admits v && admitsEach v rest

/-- Whether each field is admitted where it is present, and is present unless it is
optional. -/
def admitsMembers (members : List (String × Json)) : List Field → Bool
  | [] => true
  | ⟨name, type, optional, _⟩ :: rest =>
    (Assoc.find? name members).elim optional type.admits && admitsMembers members rest
end

variable {named}

attribute [local simp] admits admitsSome admitsEach admitsMembers

theorem admitsSome_iff {v : Json} {ts : List TypeExpr} :
    admitsSome named v ts = true ↔ ∃ t ∈ ts, t.admits named v = true := by
  induction ts with
  | nil => simp
  | cons t rest ih => simp only [admitsSome, Bool.or_eq_true, ih, List.mem_cons, exists_eq_or_imp]

theorem admitsMembers_iff {members : List (String × Json)} {fields : List Field} :
    admitsMembers named members fields = true ↔
      ∀ f ∈ fields, (Assoc.find? f.name members).elim f.optional (f.type.admits named) = true := by
  induction fields with
  | nil => simp
  | cons f rest ih =>
    obtain ⟨name, type, optional, description⟩ := f
    rw [admitsMembers, Bool.and_eq_true, ih, List.forall_mem_cons]

theorem admits_array {item : TypeExpr} {v : Json} :
    (TypeExpr.array item).admits named v = true ↔
      ∃ items, v = .array items ∧ ∀ w ∈ items, item.admits named w = true := by
  cases v <;> simp

theorem admits_record {fields : List Field} {v : Json} :
    (TypeExpr.record fields).admits named v = true ↔
      ∃ members, v = .object members ∧ ∀ f ∈ fields,
        (Assoc.find? f.name members).elim f.optional (f.type.admits named) = true := by
  cases v <;> simp [admitsMembers_iff]

theorem admits_any (named : String → Json → Bool) (v : Json) : any.admits named v = true := by
  simp [Keyword.admits]

/-! ## From schemas to types -/

/-- A kind with a meaning has a type, and the type admits what the kind accepts. Only
whole numbers are not told from other numbers. -/
theorem ofKind?_admits (named : String → Json → Bool) (kind : Kind) :
    (kind.isKnown = false ∧ ofKind? kind = none) ∨
      kind.isKnown = true ∧ ∃ t, ofKind? kind = some t ∧
        (∀ v, kind.accepts v = true → t.admits named v = true) ∧
        (kind ≠ .integer → ∀ v, t.admits named v = true → kind.accepts v = true) := by
  cases kind with
  | other name => exact .inl ⟨rfl, rfl⟩
  | array =>
    refine .inr ⟨rfl, _, rfl, ?_, ?_⟩
    · intro v hv
      cases v <;> simp_all [Kind.accepts, admits, Keyword.admits]
    · intro _ v hv
      cases v <;> simp_all [Kind.accepts, admits]
  | _ =>
    refine .inr ⟨rfl, _, rfl, ?_, ?_⟩
    · intro v hv
      cases v <;> simp_all [Kind.accepts, admits, Keyword.admits]
    · intro hkind v hv
      cases v <;> simp_all [Kind.accepts, admits, Keyword.admits]

theorem ofAlternatives_admits {ts : List TypeExpr} {v : Json} :
    (ofAlternatives ts).admits named v = true ↔ ts = [] ∨ ∃ t ∈ ts, t.admits named v = true := by
  match ts with
  | [] => simp [ofAlternatives, any, Keyword.admits]
  | [t] => simp [ofAlternatives]
  | t :: u :: rest => simp [ofAlternatives, admitsSome_iff]

theorem admits_union_of_accepts {kinds : List Kind} {v : Json}
    (h : Kind.acceptsAny kinds v = true) :
    (ofAlternatives (kinds.filterMap ofKind?)).admits named v = true := by
  rw [ofAlternatives_admits]
  rcases acceptsAny_iff.mp h with hunknown | ⟨k, hk, hknown, haccepts⟩
  · left
    rw [List.filterMap_eq_nil_iff]
    intro k hk
    rcases ofKind?_admits named k with ⟨_, hnone⟩ | ⟨hknown, _⟩
    · exact hnone
    · rw [hunknown k hk] at hknown
      cases hknown
  · right
    rcases ofKind?_admits named k with ⟨hunknown, _⟩ | ⟨_, t, ht, hadmits, _⟩
    · rw [hknown] at hunknown
      cases hunknown
    · exact ⟨t, List.mem_filterMap.mpr ⟨k, hk, ht⟩, hadmits v haccepts⟩

theorem accepts_of_admits_union {kinds : List Kind} {v : Json} (hinteger : Kind.integer ∉ kinds)
    (h : (ofAlternatives (kinds.filterMap ofKind?)).admits named v = true) :
    Kind.acceptsAny kinds v = true := by
  rw [acceptsAny_iff]
  rcases ofAlternatives_admits.mp h with hnone | ⟨t, ht, hadmits⟩
  · left
    intro k hk
    rcases ofKind?_admits named k with ⟨hunknown, _⟩ | ⟨_, t, ht, _⟩
    · exact hunknown
    · rw [List.filterMap_eq_nil_iff.mp hnone k hk] at ht
      cases ht
  · right
    obtain ⟨k, hk, hkt⟩ := List.mem_filterMap.mp ht
    rcases ofKind?_admits named k with ⟨_, hnone⟩ | ⟨hknown, u, hu, _, haccepts⟩
    · rw [hnone] at hkt
      cases hkt
    · rw [hkt] at hu
      cases hu
      exact ⟨k, hk, hknown, haccepts (fun heq => hinteger (heq ▸ hk)) v hadmits⟩

/-- What a node accepts is admitted by its type, however far down the type looks. -/
theorem admits_of_accepts {levels : Nat} {node : Node} {v : Json} (h : node.accepts v = true) :
    (ofNodeWithin levels node).admits named v = true := by
  -- The types of the parts look one level less far down than that of the whole.
  induction levels generalizing node v with
  | zero => exact admits_any named v
  | succ levels ih =>
    cases node with
    | primitive kind =>
      rw [ofNodeWithin]
      rcases ofKind?_admits named kind with ⟨_, hnone⟩ | ⟨_, t, ht, hadmits, _⟩
      · rw [hnone]
        exact admits_any named v
      · rw [ht]
        exact hadmits v h
    | union kinds => exact admits_union_of_accepts h
    | unknown => exact admits_any named v
    | array item =>
      obtain ⟨items, rfl, hitems⟩ := accepts_array.mp h
      exact admits_array.mpr ⟨items, rfl, fun w hw => ih (hitems w hw)⟩
    | object properties required =>
      obtain ⟨members, rfl, hmembers⟩ := accepts_object.mp h
      refine admits_record.mpr ⟨members, rfl, ?_⟩
      intro f hf
      obtain ⟨p, hp, rfl⟩ := List.mem_map.mp hf
      have hp := hmembers p hp
      simp only [Field.described]
      cases hfound : Assoc.find? p.name members with
      | none =>
        rw [hfound] at hp
        exact hp
      | some w =>
        rw [hfound] at hp
        exact ih hp

/-- What the type of a node admits is accepted by the node, when the type looks down to
the leaves and the node does not ask for whole numbers. -/
theorem accepts_of_admits {levels : Nat} {node : Node} {v : Json} (hlevels : node.nesting < levels)
    (hinteger : node.mentions .integer = false)
    (h : (ofNodeWithin levels node).admits named v = true) : node.accepts v = true := by
  induction levels generalizing node v with
  | zero => cases hlevels
  | succ levels ih =>
    cases node with
    | primitive kind =>
      rw [ofNodeWithin] at h
      rcases ofKind?_admits named kind with ⟨hunknown, _⟩ | ⟨_, t, ht, _, haccepts⟩
      · cases kind <;> first | rfl | cases hunknown
      · rw [ht] at h
        exact haccepts (by simpa [Node.mentions] using hinteger) v h
    | union kinds =>
      exact accepts_of_admits_union (by simpa [Node.mentions] using hinteger) h
    | unknown => rfl
    | array item =>
      obtain ⟨items, rfl, hitems⟩ := admits_array.mp h
      have hitem : item.nesting < levels := Nat.lt_of_succ_lt_succ hlevels
      exact accepts_array.mpr ⟨items, rfl, fun w hw => ih hitem hinteger (hitems w hw)⟩
    | object properties required =>
      obtain ⟨members, rfl, hmembers⟩ := admits_record.mp h
      refine accepts_object.mpr ⟨members, rfl, ?_⟩
      intro p hp
      have hfield := hmembers _ (List.mem_map_of_mem hp)
      simp only [Field.described] at hfield
      cases hfound : Assoc.find? p.name members with
      | none =>
        rw [hfound] at hfield
        exact hfield
      | some w =>
        rw [hfound] at hfield
        have hbelow : p.node.nesting < levels :=
          Nat.lt_of_lt_of_le (nesting_lt_of_mem hp) (Nat.le_of_lt_succ hlevels)
        have hmentions : p.node.mentions .integer = false := by
          rw [← Bool.not_eq_true]
          intro hm
          rw [Node.mentions, mentions_of_mem hp hm] at hinteger
          cases hinteger
        exact ih hbelow hmentions hfield

theorem isAny_ofKind? {kind : Kind} {t : TypeExpr} (h : ofKind? kind = some t) :
    t.isAny = false := by
  cases kind <;> cases h <;> rfl

/-- The type of every value stands only for nodes that accept every value. -/
theorem accepts_of_isAny {node : Node} (h : (ofNode node).isAny = true) (v : Json) :
    node.accepts v = true := by
  cases node with
  | primitive kind =>
    cases kind with
    | other name => rfl
    | _ => cases h
  | union kinds =>
    apply acceptsAny_iff.mpr
    left
    intro k hk
    rcases ofKind?_admits (fun _ _ => false) k with ⟨hunknown, _⟩ | ⟨_, t, ht, _⟩
    · exact hunknown
    · have hmem : t ∈ kinds.filterMap ofKind? := List.mem_filterMap.mpr ⟨k, hk, ht⟩
      have hany : (ofAlternatives (kinds.filterMap ofKind?)).isAny = true := h
      match hts : kinds.filterMap ofKind? with
      | [] =>
        rw [hts] at hmem
        cases hmem
      | [u] =>
        rw [hts] at hmem hany
        rw [ofAlternatives, ← List.mem_singleton.mp hmem, isAny_ofKind? ht] at hany
        cases hany
      | u :: w :: rest =>
        rw [hts] at hany
        cases hany
  | unknown => rfl
  | array item => cases h
  | object properties required => cases h

/-- Types keep the meaning of schemas. What a node accepts is admitted by its type. What
its type admits is accepted by the node, unless the node reaches below the depth that is
looked at or asks for whole numbers. A node whose type is that of every value accepts
every value. -/
theorem ofNode_keeps_meaning (named : String → Json → Bool) (node : Node) (v : Json) :
    (node.accepts v = true → (ofNode node).admits named v = true) ∧
      (node.nesting ≤ maxDepth → node.mentions .integer = false →
        (ofNode node).admits named v = true → node.accepts v = true) ∧
      ((ofNode node).isAny = true → node.accepts v = true) := by
  refine ⟨admits_of_accepts, ?_, fun h => accepts_of_isAny h v⟩
  intro hnesting hinteger h
  exact accepts_of_admits (Nat.lt_succ_of_le hnesting) hinteger h

/-- A node with a property declared twice, a list of kinds one of which has no meaning, and
a name that is required but not declared. -/
def articleNode : Node :=
  .object [⟨"id", .primitive .number, none⟩, ⟨"id", .union [.number, .null], none⟩,
    ⟨"tags", .array (.union [.string, .other "date", .null]), none⟩] ["id", "title"]

theorem ofNode_keeps_meaning_article :
    articleNode.nesting ≤ maxDepth ∧ articleNode.mentions .integer = false ∧
      articleNode.accepts (.object [("tags", .array [.text "a", .null]), ("id", .int 7)]) = true := by
  have hnesting : articleNode.nesting ≤ maxDepth := by decide
  have hinteger : articleNode.mentions .integer = false := by decide
  have hadmits : (ofNode articleNode).admits (fun _ _ => false)
      (.object [("tags", .array [.text "a", .null]), ("id", .int 7)]) = true := by decide
  exact ⟨hnesting, hinteger, (ofNode_keeps_meaning _ _ _).2.1 hnesting hinteger hadmits⟩

/-- One and a half is a number but no whole number, so types say less here. -/
example : (ofNode (.primitive .integer)).admits (fun _ _ => false) (.double ⟨false, 3, -1⟩) = true ∧
    (Node.primitive .integer).accepts (.double ⟨false, 3, -1⟩) = false := by decide

end TypeExpr

end ApiTypings
