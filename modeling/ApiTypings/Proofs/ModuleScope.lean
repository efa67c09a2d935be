import ApiTypings.Proofs.DepthLimit
import ApiTypings.Proofs.Symbols

/-!
# The scope of a module

A module needs nothing but itself. Whatever its interface is, its symbols are identifiers and
all different, and a declaration mentions symbols of earlier declarations only. Records mention
nothing; the declarations that combine them mention the records, and the selector mentions the
full request as well. The parameter of the selector is a symbol of nothing, so it hides none.

What is declared follows from which parts the request has. The selector is read here as a
chain of branches that are tried one after the other.
-/

namespace ApiTypings

/-! ## Names that are mentioned -/

namespace TypeExpr

mutual
/-- The names a type refers to, from left to right. -/
def refs : TypeExpr → List String
  | .ref name => [name]
  | .array item => item.refs
  | .union members | .intersection members => memberRefs members
  | .record fields => fieldRefs fields
  | .keyword _ | .literal _ => []

def memberRefs : List TypeExpr → List String
  | [] => []
  | t :: rest => t.refs ++ memberRefs rest

def fieldRefs : List Field → List String
  | [] => []
  | ⟨_, type, _, _⟩ :: rest => type.refs ++ fieldRefs rest
end

theorem memberRefs_eq_flatMap (ts : List TypeExpr) : memberRefs ts = ts.flatMap refs := by
  induction ts with
  | nil => rfl
  | cons t rest ih => rw [memberRefs, ih, List.flatMap_cons]

theorem fieldRefs_eq_flatMap (fields : List Field) :
    fieldRefs fields = fields.flatMap (·.type.refs) := by
  induction fields with
  | nil => rfl
  | cons f rest ih =>
    cases f with
    | mk name type optional description => rw [fieldRefs, ih, List.flatMap_cons]

theorem refs_ofKind? {kind : Schema.Kind} {t : TypeExpr} (h : ofKind? kind = some t) :
    t.refs = [] := by
  cases kind <;> cases h <;> rfl

theorem refs_ofAlternatives {ts : List TypeExpr} (h : ∀ t ∈ ts, t.refs = []) :
    (ofAlternatives ts).refs = [] := by
  refine ofAlternatives_cases (P := fun t => t.refs = []) rfl h ?_
  intro _
  rw [refs, memberRefs_eq_flatMap, List.flatMap_eq_nil_iff]
  exact h

/-- The type of a schema stands for itself. -/
theorem refs_ofNodeWithin (levels : Nat) (node : Schema.Node) :
    (ofNodeWithin levels node).refs = [] := by
  induction levels generalizing node with
  | zero => rfl
  | succ levels ih =>
    rw [ofNodeWithin_succ]
    cases node with
    | primitive kind =>
      rw [ofLevel]
      cases hkind : ofKind? kind with
      | none => rfl
      | some t => exact refs_ofKind? hkind
    | union kinds =>
      apply refs_ofAlternatives
      intro t ht
      obtain ⟨kind, _, hkind⟩ := List.mem_filterMap.mp ht
      exact refs_ofKind? hkind
    | array item => exact ih item
    | object properties required =>
      rw [ofLevel, refs, fieldRefs_eq_flatMap, List.flatMap_map, List.flatMap_eq_nil_iff]
      intro p _
      exact ih p.node
    | unknown => rfl

end TypeExpr

/-- The symbols a declaration of the given shape needs. -/
def Shape.mentions : Shape → List String
  | .interface fields => fields.flatMap (·.type.refs)
  | .alias type => type.refs
  | .marker combines => combines
  | .selector _ _ branches fallback => branches.flatMap (·.2.refs) ++ fallback.refs

/-- The type parameter of a shape. -/
def Shape.param? : Shape → Option String
  | .selector param _ _ _ => some param
  | _ => none

/-- A record of its own. -/
structure Declaration.Standalone (d : Declaration) : Prop where
  mentions : d.shape.mentions = []
  param? : d.shape.param? = none

theorem parameterRecord_standalone {name : String} {parameters : List Parameter} {d : Declaration}
    (h : parameterRecord name parameters = some d) : d.Standalone := by
  unfold parameterRecord at h
  split at h
  · cases h
  · cases h
    refine ⟨?_, rfl⟩
    rw [Shape.mentions, List.flatMap_map, List.flatMap_eq_nil_iff]
    exact fun p _ => TypeExpr.refs_ofNodeWithin _ _

theorem bodyRecord_standalone {name : String} {text : Option String} {d : Declaration}
    (h : bodyRecord name text = some d) : d.Standalone := by
  obtain ⟨fields, hfields, rfl⟩ := Option.map_eq_some_iff.mp h
  refine ⟨?_, rfl⟩
  unfold BodySchema.fields? at hfields
  split at hfields
  · next root _ =>
    have hrefs := TypeExpr.refs_ofNodeWithin (Schema.maxDepth + 1) root
    rw [← TypeExpr.ofNode, (TypeExpr.fields?_eq_some.mp hfields).1, TypeExpr.refs,
      TypeExpr.fieldRefs_eq_flatMap] at hrefs
    exact hrefs
  · cases hfields

/-! ## Scopes -/

/-- Every declaration mentions only symbols that were there before, or that stand before it. -/
def ScopedIn (scope : List String) : List Declaration → Prop
  | [] => True
  | d :: rest => (∀ name ∈ d.shape.mentions, name ∈ scope) ∧ ScopedIn (scope ++ [d.name]) rest

theorem scopedIn_append {scope : List String} {ds es : List Declaration} :
    ScopedIn scope (ds ++ es) ↔ ScopedIn scope ds ∧ ScopedIn (scope ++ ds.map (·.name)) es := by
  induction ds generalizing scope with
  | nil => simp [ScopedIn]
  | cons d ds ih => simp [ScopedIn, ih, and_assoc]

theorem scopedIn_of_standalone {scope : List String} {ds : List Declaration}
    (h : ∀ d ∈ ds, d.Standalone) : ScopedIn scope ds := by
  induction ds generalizing scope with
  | nil => trivial
  | cons d ds ih =>
    rw [List.forall_mem_cons] at h
    refine ⟨?_, ih h.2⟩
    rw [h.1.mentions]
    exact List.forall_mem_nil _

theorem ScopedIn.mem {scope : List String} {before after : List Declaration} {d : Declaration}
    (h : ScopedIn scope (before ++ d :: after)) :
    ∀ name ∈ d.shape.mentions, name ∈ scope ++ before.map (·.name) :=
  (scopedIn_append.mp h).2.1

/-! ## Selectors -/

/-- The type a chain of branches gives for a literal. -/
def TypeExpr.chosen (literal : String) : List (String × TypeExpr) → TypeExpr → TypeExpr
  | [], fallback => fallback
  | (l, t) :: rest, fallback => if literal = l then t else chosen literal rest fallback

namespace ParameterSet

/-- The part of a request that a discriminant is for; the one for all parts names no part. -/
def group? (s : ParameterSet) : String → Option Declaration
  | "params" => s.params
  | "query" => s.query
  | "body" => s.body
  | _ => none

/-- The records of a set by their roles. -/
def record? (s : ParameterSet) : Role → Option Declaration
  | .paramsShape => s.params
  | .queryShape => s.query
  | .bodyShape => s.body
  | .response => s.response
  | _ => none

end ParameterSet

/-- The records of the module of an interface. -/
def Detail.records (d : Detail) : ParameterSet := .ofDetail d (Identifier.symbolStem d.name)

/-! ## Roles -/

namespace Role

/-- What comes behind the stem in the symbol of a role. -/
def ending : Role → String
  | .paramsShape => "RequestParams"
  | .queryShape => "RequestQuery"
  | .bodyShape => "RequestBody"
  | .compositeRequest => "Request"
  | .fullRequest => "FullRequest"
  | .paramSelector => "Params"
  | .response => "Response"

theorem ending_injective : Function.Injective ending := by
  intro role role' h
  cases role <;> cases role' <;> first | rfl | exact absurd h (by decide)

/-- The order in which declarations stand. -/
def order : List Role :=
  [.paramsShape, .queryShape, .bodyShape, .compositeRequest, .fullRequest, .paramSelector,
    .response]

end Role

namespace Module

theorem declaration?_eq_find? (m : Module) (role : Role) :
    m.declaration? role = Assoc.find? role m.declarations := by
  unfold declaration?
  induction m.declarations with
  | nil => rfl
  | cons d rest ih =>
    rw [Assoc.find?]
    by_cases h : d.1 = role
    · rw [List.find?_cons_of_pos (by simpa using h), if_pos h, Option.map_some]
    · rw [List.find?_cons_of_neg (by simpa using h), if_neg h, ih]

theorem declaration?_eq_some {m : Module} (hroles : (m.declarations.map Prod.fst).Nodup)
    {role : Role} {d : Declaration} :
    m.declaration? role = some d ↔ (role, d) ∈ m.declarations := by
  rw [declaration?_eq_find?]
  exact ⟨Assoc.mem_of_find?, Assoc.find?_of_mem hroles⟩

theorem map_declaration_requestParts (s : ParameterSet) :
    (requestParts s).map (·.declaration) = s.requestGroups := by
  rcases s with ⟨_ | _, _ | _, _ | _, _⟩ <;> rfl

theorem roles_requestParts (s : ParameterSet) :
    ((requestParts s).map (·.role)).Sublist [.paramsShape, .queryShape, .bodyShape] := by
  rcases s with ⟨_ | _, _ | _, _ | _, _⟩ <;> simp [requestParts]

theorem mem_map_requestParts {s : ParameterSet} {role : Role} {d : Declaration} :
    (role, d) ∈ (requestParts s).map (fun p => (p.role, p.declaration)) ↔
      role ≠ .response ∧ s.record? role = some d := by
  rcases s with ⟨_ | _, _ | _, _ | _, _⟩ <;> cases role <;>
    simp [requestParts, ParameterSet.record?, eq_comm]

/-! ## Declarations of a parameter set -/

theorem roles_declarationsOf (stem : String) (s : ParameterSet) :
    ((declarationsOf stem s).map Prod.fst).Sublist Role.order := by
  unfold declarationsOf
  rw [List.map_append, List.map_append, List.map_map]
  have hparts := roles_requestParts s
  have hcombining : ((if 2 ≤ (requestParts s).length then combining stem (requestParts s)
      else []).map Prod.fst).Sublist [.compositeRequest, .fullRequest, .paramSelector] := by
    split
    · exact List.Sublist.refl _
    · exact List.nil_sublist _
  have hresponse : ((s.response.map (Role.response, ·)).toList.map Prod.fst).Sublist
      [.response] := by
    cases s.response <;> simp
  exact (hparts.append hcombining).append hresponse

theorem nodup_roles (stem : String) (s : ParameterSet) :
    ((declarationsOf stem s).map Prod.fst).Nodup :=
  (roles_declarationsOf stem s).nodup (by decide)

/-- A record is declared when the set has it, and what combines records when the request
has at least two parts. -/
theorem mem_declarationsOf {stem : String} {s : ParameterSet} {role : Role} {d : Declaration} :
    (role, d) ∈ declarationsOf stem s ↔ s.record? role = some d ∨
      2 ≤ s.requestGroups.length ∧ (role, d) ∈ combining stem (requestParts s) := by
  have hlength : (requestParts s).length = s.requestGroups.length := by
    rw [← map_declaration_requestParts, List.length_map]
  have hresponse : (role, d) ∈ (s.response.map (Role.response, ·)).toList ↔
      role = .response ∧ s.record? role = some d := by
    rw [Option.mem_toList, Option.map_eq_some_iff]
    constructor
    · rintro ⟨_, h, heq⟩
      cases heq
      exact ⟨rfl, h⟩
    · rintro ⟨rfl, h⟩
      exact ⟨d, h, rfl⟩
  have hcombining : ∀ x, x ∈ (if 2 ≤ (requestParts s).length then combining stem (requestParts s)
      else []) ↔ 2 ≤ s.requestGroups.length ∧ x ∈ combining stem (requestParts s) := by
    intro x
    rw [hlength]
    split <;> simp [*]
  unfold declarationsOf
  rw [List.mem_append, List.mem_append, mem_map_requestParts, hcombining, hresponse]
  by_cases h : role = .response <;> simp [h, or_comm]

/-- Behind the stem every symbol has the ending of its role. -/
theorem name_of_mem {stem : String} {d : Detail} {x : Role × Declaration}
    (h : x ∈ declarationsOf stem (.ofDetail d stem)) : x.2.name = stem ++ x.1.ending := by
  obtain ⟨role, x⟩ := x
  rcases mem_declarationsOf.mp h with hrecord | ⟨_, hcombining⟩
  · cases role with
    | paramsShape | queryShape => exact (parameterRecord_spec hrecord).1
    | bodyShape | response => exact (bodyRecord_spec hrecord).1
    | _ => cases hrecord
  · simp only [combining, List.mem_cons, Prod.mk.injEq, List.not_mem_nil, or_false] at hcombining
    rcases hcombining with ⟨rfl, rfl⟩ | ⟨rfl, rfl⟩ | ⟨rfl, rfl⟩ <;> rfl

theorem nodup_names (stem : String) (d : Detail) :
    ((declarationsOf stem (.ofDetail d stem)).map (·.2.name)).Nodup := by
  have hnames : (declarationsOf stem (.ofDetail d stem)).map (·.2.name) =
      ((declarationsOf stem (.ofDetail d stem)).map Prod.fst).map (stem ++ ·.ending) := by
    rw [List.map_map]
    exact List.map_congr_left fun _ h => name_of_mem h
  rw [hnames]
  refine (nodup_roles stem _).map ?_
  intro role role' h
  exact Role.ending_injective ((String.append_right_inj stem).mp h)

theorem standalone_of_record? {stem : String} {d : Detail} {role : Role} {x : Declaration}
    (h : (ParameterSet.ofDetail d stem).record? role = some x) : x.Standalone := by
  cases role with
  | paramsShape | queryShape => exact parameterRecord_standalone h
  | bodyShape | response => exact bodyRecord_standalone h
  | _ => cases h

/-- What combines the parts of a request mentions these and the full request. -/
theorem scopedIn_combining (stem : String) (parts : List RequestPart) :
    ScopedIn (parts.map (·.declaration.name)) ((combining stem parts).map Prod.snd) := by
  have hrefs : ∀ names : List String,
      (TypeExpr.intersection (names.map .ref)).refs = names := by
    intro names
    rw [TypeExpr.refs, TypeExpr.memberRefs_eq_flatMap, List.flatMap_map]
    exact List.flatMap_singleton' names
  refine ⟨fun _ h => h, ?_, ?_, trivial⟩
  · rw [Shape.mentions, hrefs]
    exact fun _ h => List.mem_append_left _ h
  · intro name h
    rw [Shape.mentions, List.flatMap_map, List.mem_append] at h
    rcases h with h | h
    · obtain ⟨p, hp, hname⟩ := List.mem_flatMap.mp h
      rw [List.mem_singleton.mp hname]
      exact List.mem_append_left _ (List.mem_append_left _ (List.mem_map_of_mem hp))
    · exact List.mem_append_right _ h

theorem scopedIn_declarationsOf (stem : String) (d : Detail) :
    ScopedIn [] ((declarationsOf stem (.ofDetail d stem)).map Prod.snd) := by
  have hrecord : ∀ {role x}, (ParameterSet.ofDetail d stem).record? role = some x → x.Standalone :=
    standalone_of_record?
  generalize ParameterSet.ofDetail d stem = s at hrecord
  unfold declarationsOf
  rw [List.map_append, List.map_append, scopedIn_append, scopedIn_append, List.map_map]
  refine ⟨⟨scopedIn_of_standalone ?_, ?_⟩, scopedIn_of_standalone ?_⟩
  · intro x hx
    obtain ⟨p, hp, rfl⟩ := List.mem_map.mp hx
    exact hrecord (mem_map_requestParts.mp (List.mem_map.mpr ⟨p, hp, rfl⟩)).2
  · split
    · rw [List.nil_append, List.map_map]
      exact scopedIn_combining stem (requestParts s)
    · trivial
  · intro x hx
    rw [Option.toList_map, List.map_map] at hx
    obtain ⟨y, hy, rfl⟩ := List.mem_map.mp hx
    have hresponse : s.record? .response = some y := Option.mem_toList.mp hy
    exact hrecord hresponse

/-- The selector finds the part for a discriminant, and the full request otherwise. -/
theorem chosen_branches (s : ParameterSet) (fallback : TypeExpr) :
    ∀ discriminant ∈ discriminants,
      TypeExpr.chosen discriminant
          ((requestParts s).map fun p => (p.discriminant, .ref p.declaration.name)) fallback =
        ((s.group? discriminant).map fun d => .ref d.name).getD fallback := by
  simp only [discriminants, List.forall_mem_cons]
  rcases s with ⟨_ | _, _ | _, _ | _, _⟩ <;>
    simp [requestParts, TypeExpr.chosen, ParameterSet.group?]

/-- The selector alone has a type parameter. -/
theorem param?_of_mem {stem : String} {d : Detail} {x : Role × Declaration}
    (h : x ∈ declarationsOf stem (.ofDetail d stem)) : ∀ param ∈ x.2.shape.param?, param = "T" := by
  obtain ⟨role, x⟩ := x
  intro param hparam
  rcases mem_declarationsOf.mp h with hrecord | ⟨_, hcombining⟩
  · rw [(standalone_of_record? hrecord).param?] at hparam
    cases hparam
  · simp only [combining, List.mem_cons, Prod.mk.injEq, List.not_mem_nil, or_false] at hcombining
    rcases hcombining with ⟨_, rfl⟩ | ⟨_, rfl⟩ | ⟨_, rfl⟩ <;> cases hparam
    rfl

/-- A symbol has more than the one character of that parameter. -/
theorem symbol_ne_param (stem : String) (role : Role) : stem ++ role.ending ≠ "T" := by
  intro h
  have hlength := congrArg String.length h
  have hending : 6 ≤ role.ending.length := by
    cases role <;> decide
  have hone : "T".length = 1 := rfl
  rw [String.length_append] at hlength
  omega

/-! ## Modules -/

def symbols (m : Module) : List String := m.declarations.map (·.2.name)

/-- A module without clashes that needs nothing but itself. -/
structure Scoped (m : Module) : Prop where
  nodup : m.symbols.Nodup
  identifiers : ∀ symbol ∈ m.symbols, Identifier.isIdentifier symbol.toList = true
  /-- What a declaration mentions is declared before it, and no type parameter hides it. -/
  closed : ∀ before x after, m.declarations = before ++ x :: after →
    ∀ name ∈ x.2.shape.mentions, name ∈ before.map (·.2.name) ∧
      ∀ y ∈ m.declarations, y.2.shape.param? ≠ some name

theorem ofDetail_scoped (d : Detail) : (ofDetail d).Scoped where
  nodup := nodup_names _ d
  identifiers symbol h := by
    obtain ⟨x, hx, rfl⟩ := List.mem_map.mp h
    exact (wellformed_declarations d x hx).name
  closed before x after hsplit name hname := by
    have hscoped : ScopedIn [] ((ofDetail d).declarations.map Prod.snd) :=
      scopedIn_declarationsOf _ d
    rw [hsplit, List.map_append, List.map_cons] at hscoped
    have hbefore : name ∈ before.map (·.2.name) := by
      have h := hscoped.mem name hname
      rwa [List.nil_append, List.map_map] at h
    refine ⟨hbefore, ?_⟩
    obtain ⟨z, hz, rfl⟩ := List.mem_map.mp hbefore
    have hz : z ∈ (ofDetail d).declarations := hsplit ▸ List.mem_append_left _ hz
    intro y hy hparam
    refine symbol_ne_param _ z.1 ((name_of_mem hz).symm.trans ?_)
    exact param?_of_mem hy _ hparam

/-- The declarations of a module as they follow from the records of its interface. -/
structure Declares (m : Module) (s : ParameterSet) : Prop where
  order : (m.declarations.map Prod.fst).Sublist Role.order
  records : ∀ role ∈ [Role.paramsShape, .queryShape, .bodyShape, .response],
    m.declaration? role = s.record? role
  combined : ∀ role ∈ [Role.compositeRequest, .fullRequest, .paramSelector],
    (m.declaration? role).isSome = true ↔ 2 ≤ s.requestGroups.length
  /-- The full request is made of the parts that are there. -/
  full : ∀ x, m.declaration? .fullRequest = some x →
    x.shape = .alias (.intersection (s.requestGroups.map (.ref ·.name)))
  /-- The selector gives the part for a discriminant, and the full request otherwise. -/
  selector : ∀ x, m.declaration? .paramSelector = some x →
    ∃ param branches fallback full,
      x.shape = .selector param ["params", "query", "body", "full"] branches fallback ∧
      m.declaration? .fullRequest = some full ∧
      ∀ discriminant ∈ ["params", "query", "body", "full"],
        TypeExpr.chosen discriminant branches fallback =
          .ref ((s.group? discriminant).getD full).name

/-- What combines the parts of a request is declared as it is built. -/
theorem declaration?_combining {d : Detail} {role : Role} {x : Declaration}
    (hrole : d.records.record? role = none) :
    (ofDetail d).declaration? role = some x ↔ 2 ≤ d.records.requestGroups.length ∧
      (role, x) ∈ combining (Identifier.symbolStem d.name) (requestParts d.records) := by
  have hmem : (role, x) ∈ (ofDetail d).declarations ↔ _ := mem_declarationsOf
  rw [declaration?_eq_some (nodup_roles _ _), hmem, ← Detail.records, hrole]
  simp

theorem ofDetail_declares (d : Detail) : (ofDetail d).Declares d.records where
  order := roles_declarationsOf _ _
  records role h := by
    ext x
    have hmem : (role, x) ∈ (ofDetail d).declarations ↔ _ := mem_declarationsOf
    rw [declaration?_eq_some (nodup_roles _ _), hmem, ← Detail.records]
    simp only [List.mem_cons, List.not_mem_nil, or_false] at h
    rcases h with rfl | rfl | rfl | rfl <;> simp [combining]
  combined role h := by
    have hrecord : d.records.record? role = none := by
      simp only [List.mem_cons, List.not_mem_nil, or_false] at h
      rcases h with rfl | rfl | rfl <;> rfl
    rw [Option.isSome_iff_exists]
    simp only [declaration?_combining hrecord, exists_and_left]
    simp only [List.mem_cons, List.not_mem_nil, or_false] at h
    rcases h with rfl | rfl | rfl <;> simp [combining]
  full x h := by
    obtain ⟨_, hx⟩ := (declaration?_combining rfl).mp h
    simp only [combining, List.mem_cons, Prod.mk.injEq, List.not_mem_nil, or_false,
      reduceCtorEq, false_and, true_and, false_or] at hx
    rw [hx, List.map_map, ← map_declaration_requestParts, List.map_map]
    rfl
  selector x h := by
    obtain ⟨htwo, hx⟩ := (declaration?_combining rfl).mp h
    simp only [combining, List.mem_cons, Prod.mk.injEq, List.not_mem_nil, or_false,
      reduceCtorEq, false_and, true_and, false_or] at hx
    have hnone : d.records.record? .fullRequest = none := rfl
    have hfull := (declaration?_combining hnone).mpr
      ⟨htwo, List.mem_cons_of_mem _ List.mem_cons_self⟩
    refine ⟨_, _, _, _, congrArg Declaration.shape hx, hfull, ?_⟩
    intro discriminant hd
    rw [chosen_branches _ _ discriminant hd]
    cases d.records.group? discriminant <;> rfl

/-- Every generated module is closed, free of clashes and laid out by the parts its
interface has, whatever its path and its schemas are. -/
theorem ofDetail_scoped_declares (d : Detail) :
    (ofDetail d).Scoped ∧ (ofDetail d).Declares d.records :=
  ⟨ofDetail_scoped d, ofDetail_declares d⟩

/-- Nothing of the last segment of this path but a digit may stand in a symbol, and the
query has no record. -/
example : (ofDetail ⟨1, "Pages", "/ü/ü2 ", "POST", [⟨"page", .integer, true, ""⟩], [],
    some "\x7b\"properties\": \x7b\"a\": \"string\"\x7d\x7d", none⟩).symbols =
      ["_2RequestParams", "_2RequestBody", "_2Request", "_2FullRequest", "_2Params"] := by
  decide +kernel

end Module

end ApiTypings
