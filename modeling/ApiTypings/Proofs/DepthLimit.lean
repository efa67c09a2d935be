import ApiTypings.Proofs.Conformance
import ApiTypings.Proofs.UniqueKeys
import ApiTypings.Schema.Document

/-!
# The depth limit

Values are read and types are built down to the same depth, each with a count of its own.
Here are both without a limit. One limit is enough: whichever of the two is left out, the
type stays the same, and it is the type without any limit in which everything is left open
that lies below the depth.

A value and the types that come from it are taken apart level by level, so all of this
follows from what happens at one level. The notes on where types are lost are left out;
they do depend on the limits.
-/

namespace ApiTypings

namespace Schema

/-! ## Reading all the way down -/

theorem sizeOf_lt_of_mem {key : String} {value : Json} {members : List (String × Json)}
    (h : (key, value) ∈ members) : sizeOf value < sizeOf (Json.object members) := by
  have hmember := List.sizeOf_lt_of_mem h
  rw [Prod.mk.sizeOf_spec] at hmember
  rw [Json.object.sizeOf_spec]
  omega

theorem sizeOf_lt_of_find? {key : String} {value : Json} {members : List (String × Json)}
    (h : Assoc.find? key members = some value) : sizeOf value < sizeOf (Json.object members) :=
  sizeOf_lt_of_mem (Assoc.mem_of_find? h)

/-- Reads a value as `ofJsonWithin` does, but all the way down. -/
def Node.ofJsonUnlimited : Json → Node
  | .text name => .primitive (.ofName name)
  | .object members =>
    match TypeEntry.of (Assoc.find? "type" members) with
    | .malformed => .unknown
    | .kinds kinds => .union kinds
    | .kind .array =>
      match _hitem : Assoc.find? "items" members with
      | none | some .null => .primitive .array
      | some item => .array (ofJsonUnlimited item)
    | .kind .object =>
      match _hproperties : Assoc.find? "properties" members with
      | some (.object properties) =>
        .object
          (properties.attach.map fun ⟨(name, value), _hproperty⟩ =>
            ⟨name, ofJsonUnlimited value, (value.get? "description").bind Json.asText?⟩)
          (requiredNames (Assoc.find? "required" members))
      | _ => .primitive .object
    | .kind kind => .primitive kind
  | _ => .unknown
termination_by value => sizeOf value
decreasing_by
  · exact sizeOf_lt_of_find? _hitem
  · exact Nat.lt_trans (sizeOf_lt_of_mem _hproperty) (sizeOf_lt_of_find? _hproperties)

/-- Reads the first level of a value, the values below it being read in the given way. -/
def Node.ofLevel (below : Json → Node) : Json → Node
  | .text name => .primitive (.ofName name)
  | .object members =>
    match TypeEntry.of (Assoc.find? "type" members) with
    | .malformed => .unknown
    | .kinds kinds => .union kinds
    | .kind .array =>
      match Assoc.find? "items" members with
      | none | some .null => .primitive .array
      | some item => .array (below item)
    | .kind .object =>
      match Assoc.find? "properties" members with
      | some (.object properties) =>
        .object
          (properties.map fun (name, value) =>
            ⟨name, below value, (value.get? "description").bind Json.asText?⟩)
          (requiredNames (Assoc.find? "required" members))
      | _ => .primitive .object
    | .kind kind => .primitive kind
  | _ => .unknown

theorem Node.ofJsonWithin_succ (levels : Nat) (value : Json) :
    ofJsonWithin (levels + 1) value = ofLevel (ofJsonWithin levels) value := by
  cases value <;> rfl

theorem Node.ofJsonUnlimited_eq (value : Json) :
    ofJsonUnlimited value = ofLevel ofJsonUnlimited value := by
  cases value with
  | object members =>
    rw [ofJsonUnlimited, ofLevel]
    cases TypeEntry.of (Assoc.find? "type" members) with
    | malformed => rfl
    | kinds kinds => rfl
    | kind kind =>
      cases kind with
      | array =>
        dsimp only
        split <;> simp_all
      | object =>
        dsimp only
        split
        · next properties hproperties =>
          simp only [hproperties, List.map_attach_eq_pmap, List.pmap_eq_map]
        · simp_all
      | _ => rfl
  | _ => rw [ofJsonUnlimited, ofLevel] <;> simp

end Schema

open Schema

namespace TypeExpr

/-! ## Types all the way down -/

mutual
/-- The type of a node as `ofNodeWithin` gives it, but all the way down. -/
def ofNodeUnlimited : Node → TypeExpr
  | .primitive kind => (ofKind? kind).getD any
  | .union kinds => ofAlternatives (kinds.filterMap ofKind?)
  | .array item => .array (ofNodeUnlimited item)
  | .object properties required => .record (fieldsUnlimited required properties)
  | .unknown => any

def fieldsUnlimited (required : List String) : List Property → List Field
  | [] => []
  | ⟨name, node, description⟩ :: rest =>
    .described name (ofNodeUnlimited node) (!required.contains name) description ::
      fieldsUnlimited required rest
end

/-- The type of a node, the nodes below it having types in the given way. -/
def ofLevel (below : Node → TypeExpr) : Node → TypeExpr
  | .primitive kind => (ofKind? kind).getD any
  | .union kinds => ofAlternatives (kinds.filterMap ofKind?)
  | .array item => .array (below item)
  | .object properties required =>
    .record (properties.map fun p =>
      .described p.name (below p.node) (!required.contains p.name) p.description)
  | .unknown => any

theorem ofNodeWithin_succ (levels : Nat) (node : Node) :
    ofNodeWithin (levels + 1) node = ofLevel (ofNodeWithin levels) node := by
  cases node <;> rfl

theorem fieldsUnlimited_eq_map (required : List String) (properties : List Property) :
    fieldsUnlimited required properties = properties.map fun p =>
      .described p.name (ofNodeUnlimited p.node) (!required.contains p.name) p.description := by
  induction properties with
  | nil => rfl
  | cons p rest ih =>
    cases p with
    | mk name node description => rw [fieldsUnlimited, ih, List.map_cons]

theorem ofNodeUnlimited_eq (node : Node) : ofNodeUnlimited node = ofLevel ofNodeUnlimited node := by
  cases node with
  | object properties required => rw [ofNodeUnlimited, ofLevel, fieldsUnlimited_eq_map]
  | _ => rfl

/-! ## One limit is enough -/

/-- At one level it does not matter where reading ends and building types begins, only
what becomes of the values below. -/
theorem ofLevel_congr {read read' : Json → Node} {build build' : Node → TypeExpr}
    (h : ∀ value, build (read value) = build' (read' value)) (value : Json) :
    ofLevel build (Node.ofLevel read value) = ofLevel build' (Node.ofLevel read' value) := by
  cases value with
  | object members =>
    unfold Node.ofLevel
    dsimp only
    cases TypeEntry.of (Assoc.find? "type" members) with
    | malformed => rfl
    | kinds kinds => rfl
    | kind kind =>
      cases kind with
      | array =>
        dsimp only
        split
        · rfl
        · rfl
        · simp only [ofLevel, h]
      | object =>
        dsimp only
        split
        · simp only [ofLevel, List.map_map, Function.comp_def, h]
        · rfl
      | _ => rfl
  | _ => rfl

/-- A type that is built with a limit is not changed by a limit on reading. -/
theorem ofNodeWithin_ofJsonWithin (levels : Nat) (value : Json) :
    ofNodeWithin levels (Node.ofJsonWithin levels value) =
      ofNodeWithin levels (Node.ofJsonUnlimited value) := by
  induction levels generalizing value with
  | zero => rfl
  | succ levels ih =>
    rw [ofNodeWithin_succ, ofNodeWithin_succ, Node.ofJsonWithin_succ, Node.ofJsonUnlimited_eq]
    exact ofLevel_congr ih value

/-- What was read with a limit needs none when its type is built. -/
theorem ofNodeUnlimited_ofJsonWithin (levels : Nat) (value : Json) :
    ofNodeUnlimited (Node.ofJsonWithin levels value) =
      ofNodeWithin levels (Node.ofJsonWithin levels value) := by
  induction levels generalizing value with
  | zero => rfl
  | succ levels ih =>
    rw [ofNodeUnlimited_eq, ofNodeWithin_succ, Node.ofJsonWithin_succ]
    exact ofLevel_congr ih value

/-! ## What the limit leaves open -/

mutual
/-- The type with everything left open that lies the given number of steps below its root.
A step leads from an array to its items or from a record to a field; members of unions and
intersections lie where these do. -/
def cut : Nat → TypeExpr → TypeExpr
  | 0, _ => any
  | steps + 1, .array item => .array (cut steps item)
  | steps + 1, .record fields => .record (cutFields steps fields)
  | steps + 1, .union members => .union (cutMembers (steps + 1) members)
  | steps + 1, .intersection members => .intersection (cutMembers (steps + 1) members)
  | _ + 1, t => t
termination_by structural _ t => t

def cutMembers : Nat → List TypeExpr → List TypeExpr
  | _, [] => []
  | steps, t :: rest => cut steps t :: cutMembers steps rest
termination_by structural _ ts => ts

def cutFields : Nat → List Field → List Field
  | _, [] => []
  | steps, ⟨name, type, optional, description⟩ :: rest =>
    ⟨name, cut steps type, optional, description⟩ :: cutFields steps rest
termination_by structural _ fields => fields
end

theorem cutMembers_eq_map (steps : Nat) (ts : List TypeExpr) :
    cutMembers steps ts = ts.map (cut steps) := by
  induction ts with
  | nil => rfl
  | cons t rest ih => rw [cutMembers, ih, List.map_cons]

theorem cutFields_eq_map (steps : Nat) (fields : List Field) :
    cutFields steps fields = fields.map fun f => { f with type := cut steps f.type } := by
  induction fields with
  | nil => rfl
  | cons f rest ih =>
    cases f with
    | mk name type optional description => rw [cutFields, ih, List.map_cons]

theorem cut_any (steps : Nat) : cut steps any = any := by
  cases steps <;> rfl

/-- Of the type of a kind nothing is cut off but what is open already. -/
theorem cut_ofKind? {kind : Kind} {t : TypeExpr} (h : ofKind? kind = some t) (steps : Nat) :
    cut (steps + 1) t = t := by
  cases kind with
  | array =>
    cases h
    rw [cut, cut_any]
  | other name => cases h
  | _ =>
    cases h
    rfl

theorem cut_ofAlternatives {steps : Nat} {ts : List TypeExpr}
    (h : ∀ t ∈ ts, cut (steps + 1) t = t) :
    cut (steps + 1) (ofAlternatives ts) = ofAlternatives ts := by
  refine ofAlternatives_cases (P := fun t => cut (steps + 1) t = t) rfl h ?_
  intro _
  have hmap : ts.map (cut (steps + 1)) = ts := List.map_congr_left h |>.trans (List.map_id _)
  rw [cut, cutMembers_eq_map, hmap]

/-- A limit on building types cuts off what lies below it, and nothing else. -/
theorem ofNodeWithin_eq_cut (levels : Nat) (node : Node) :
    ofNodeWithin levels node = (ofNodeUnlimited node).cut levels := by
  induction levels generalizing node with
  | zero => rw [ofNodeWithin, cut]
  | succ levels ih =>
    cases node with
    | primitive kind =>
      rw [ofNodeWithin, ofNodeUnlimited]
      cases hkind : ofKind? kind with
      | none => rfl
      | some t => exact (cut_ofKind? hkind levels).symm
    | union kinds =>
      rw [ofNodeWithin, ofNodeUnlimited, cut_ofAlternatives]
      intro t ht
      obtain ⟨kind, _, hkind⟩ := List.mem_filterMap.mp ht
      exact cut_ofKind? hkind levels
    | array item => rw [ofNodeWithin, ofNodeUnlimited, cut, ih]
    | object properties required =>
      rw [ofNodeWithin, ofNodeUnlimited, cut, cutFields_eq_map, fieldsUnlimited_eq_map,
        List.map_map]
      congr 1
      apply List.map_congr_left
      intro p _
      rw [ih]
      rfl
    | unknown => rfl

/-- Above its limit a type is not cut. -/
theorem ofNodeWithin_eq_unlimited {levels : Nat} {node : Node} (h : node.nesting < levels) :
    ofNodeWithin levels node = ofNodeUnlimited node := by
  induction levels generalizing node with
  | zero => cases h
  | succ levels ih =>
    rw [ofNodeWithin_succ, ofNodeUnlimited_eq]
    cases node with
    | array item => rw [ofLevel, ofLevel, ih (Nat.lt_of_succ_lt_succ h)]
    | object properties required =>
      rw [ofLevel, ofLevel]
      congr 1
      apply List.map_congr_left
      intro p hp
      rw [ih (Nat.lt_of_lt_of_le (nesting_lt_of_mem hp) (Nat.le_of_lt_succ h))]
    | _ => rfl

/-- Reading and building types may each go on without a limit as long as the other has
one: the type of a value stays the same. It is the type without any limit, cut off below
the depth. -/
theorem one_depth_limit_suffices (value : Json) :
    ofNode (.ofJson value) = ofNode (.ofJsonUnlimited value) ∧
      ofNode (.ofJson value) = ofNodeUnlimited (.ofJson value) ∧
      ofNode (.ofJson value) = (ofNodeUnlimited (.ofJsonUnlimited value)).cut (maxDepth + 1) := by
  have hread : ofNode (.ofJson value) = ofNode (.ofJsonUnlimited value) :=
    ofNodeWithin_ofJsonWithin (maxDepth + 1) value
  refine ⟨hread, (ofNodeUnlimited_ofJsonWithin (maxDepth + 1) value).symm, ?_⟩
  rw [hread]
  exact ofNodeWithin_eq_cut (maxDepth + 1) (.ofJsonUnlimited value)

/-- Two steps below the root everything is left open, in a member of a union as well. -/
example : cut 2 (.union [.keyword .null, .array (.array (.keyword .string))]) =
    .union [.keyword .null, .array (.array any)] := rfl

end TypeExpr

end ApiTypings
