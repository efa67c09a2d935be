import ApiTypings.TypeExpr.Emit
import ApiTypings.TypeExpr.OfSchema
import Mathlib.Data.List.Basic

/-!
# Normal forms of type expressions

Two type expressions mean the same when they differ only in the descriptions of
fields, in unions directly inside unions and intersections directly inside
intersections, and in unions and intersections of one member. The normal form drops
the descriptions, flattens, and replaces what has one member by that member. Members
are neither reordered nor merged.

The type of a schema node is in normal form but for its descriptions.
-/

namespace ApiTypings.TypeExpr

/-! ## Induction on types -/

/-- A property holds of all types if it passes from the types inside a type to the type. -/
@[elab_as_elim]
theorem induction {P : TypeExpr → Prop} (keyword : ∀ word, P (.keyword word))
    (array : ∀ item, P item → P (.array item))
    (union : ∀ members, (∀ t ∈ members, P t) → P (.union members))
    (intersection : ∀ members, (∀ t ∈ members, P t) → P (.intersection members))
    (record : ∀ fields : List Field, (∀ f ∈ fields, P f.type) → P (.record fields))
    (literal : ∀ value, P (.literal value)) (ref : ∀ name, P (.ref name)) (t : TypeExpr) : P t :=
  @TypeExpr.rec P (fun f => P f.type) (fun ts => ∀ t ∈ ts, P t) (fun fs => ∀ f ∈ fs, P f.type)
    keyword array union intersection record literal ref (fun _ _ _ _ htype => htype)
    (List.forall_mem_nil _) (fun _ _ ht hts => List.forall_mem_cons.mpr ⟨ht, hts⟩)
    (List.forall_mem_nil _) (fun _ _ hf hfs => List.forall_mem_cons.mpr ⟨hf, hfs⟩) t

/-! ## The two ways to combine types -/

inductive Connective where
  | union
  | intersection
  deriving DecidableEq, Repr

def Connective.make : Connective → List TypeExpr → TypeExpr
  | .union => .union
  | .intersection => .intersection

/-- The members of a type that is combined in the given way; any other type is its only
member. -/
def members : Connective → TypeExpr → List TypeExpr
  | .union, .union ts => ts
  | .intersection, .intersection ts => ts
  | _, t => [t]

/-- Types combined; one type stands for itself. -/
def combine (c : Connective) : List TypeExpr → TypeExpr
  | [t] => t
  | ts => c.make ts

/-- A type without descriptions, flattened, and without combinations of one member. -/
def Flat (t : TypeExpr) : Prop :=
  ∀ c ts, t = Connective.make c ts → ts.length ≠ 1 ∧ ∀ u ∈ ts, u.members c = [u]

theorem members_make (c : Connective) (ts : List TypeExpr) : (c.make ts).members c = ts := by
  cases c <;> rfl

theorem eq_make_or (c : Connective) (t : TypeExpr) :
    (∃ ts, t = c.make ts) ∨ t.members c = [t] := by
  cases c <;> cases t <;>
    first
    | exact .inr rfl
    | exact .inl ⟨_, rfl⟩

theorem combine_of_length {c : Connective} {ts : List TypeExpr} (h : ts.length ≠ 1) :
    combine c ts = c.make ts := by
  match ts, h with
  | [], _ => rfl
  | [_], h => exact (h rfl).elim
  | _ :: _ :: _, _ => rfl

theorem combine_members {t : TypeExpr} (h : t.Flat) (c : Connective) :
    combine c (t.members c) = t := by
  rcases eq_make_or c t with ⟨ts, rfl⟩ | hone
  · rw [members_make, combine_of_length (h c ts rfl).1]
  · rw [hone]
    rfl

theorem members_combine {c : Connective} {ts : List TypeExpr}
    (h : ∀ t ∈ ts, t.members c = [t]) : (combine c ts).members c = ts := by
  match ts, h with
  | [], _ => exact members_make c []
  | [t], h => exact h t (by simp)
  | t :: u :: ts, _ => exact members_make c (t :: u :: ts)

theorem members_of_flat {t : TypeExpr} (h : t.Flat) (c : Connective) :
    ∀ u ∈ t.members c, u.members c = [u] := by
  rcases eq_make_or c t with ⟨ts, rfl⟩ | hone
  · rw [members_make]
    exact (h c ts rfl).2
  · rw [hone]
    intro u hu
    rw [List.mem_singleton.mp hu, hone]

theorem make_injective {c d : Connective} {ts us : List TypeExpr} (h : c.make ts = d.make us) :
    c = d ∧ ts = us := by
  cases c <;> cases d <;> cases h <;> exact ⟨rfl, rfl⟩

/-- Combining flat members that are no such combinations themselves gives a flat type. -/
theorem flat_combine {c : Connective} {ts : List TypeExpr} (h : ∀ t ∈ ts, t.members c = [t])
    (hone : ∀ t, ts = [t] → t.Flat) : (combine c ts).Flat := by
  by_cases hlength : ts.length = 1
  · obtain ⟨t, rfl⟩ := List.length_eq_one_iff.mp hlength
    exact hone t rfl
  · rw [combine_of_length hlength]
    intro d us heq
    obtain ⟨rfl, rfl⟩ := make_injective heq
    exact ⟨hlength, h⟩

/-! ## Normal forms -/

mutual
def normal : TypeExpr → TypeExpr
  | .keyword word => .keyword word
  | .array item => .array (normal item)
  | .union ts => combine .union ((normalMembers ts).flatMap (members .union))
  | .intersection ts => combine .intersection ((normalMembers ts).flatMap (members .intersection))
  | .record fields => .record (normalFields fields)
  | .literal value => .literal value
  | .ref name => .ref name

def normalMembers : List TypeExpr → List TypeExpr
  | [] => []
  | t :: ts => normal t :: normalMembers ts

def normalFields : List Field → List Field
  | [] => []
  | ⟨name, type, optional, _⟩ :: fs => ⟨name, normal type, optional, none⟩ :: normalFields fs
end

theorem normalMembers_eq_map (ts : List TypeExpr) : normalMembers ts = ts.map normal := by
  induction ts with
  | nil => rfl
  | cons t ts ih => rw [normalMembers, ih, List.map_cons]

theorem normalFields_cons (f : Field) (fs : List Field) :
    normalFields (f :: fs) = ⟨f.name, f.type.normal, f.optional, none⟩ :: normalFields fs := by
  cases f with
  | mk name type optional description => rw [normalFields]

theorem normalFields_eq_map (fs : List Field) :
    normalFields fs = fs.map fun f => ⟨f.name, f.type.normal, f.optional, none⟩ := by
  induction fs with
  | nil => rfl
  | cons f fs ih => rw [normalFields_cons, ih, List.map_cons]

/-- The members of a combination, each in normal form and flattened. -/
def normalParts (c : Connective) (ts : List TypeExpr) : List TypeExpr :=
  ts.flatMap fun t => t.normal.members c

theorem normal_make (c : Connective) (ts : List TypeExpr) :
    (c.make ts).normal = combine c (normalParts c ts) := by
  have hparts : (normalMembers ts).flatMap (members c) = normalParts c ts := by
    rw [normalMembers_eq_map, List.flatMap_map]
    rfl
  cases c with
  | union => rw [← hparts, Connective.make, normal]
  | intersection => rw [← hparts, Connective.make, normal]

theorem flatMap_eq_singleton {α β : Type} {g : α → List β} {xs : List α} {y : β}
    (h : xs.flatMap g = [y]) : ∃ x ∈ xs, g x = [y] := by
  induction xs with
  | nil => cases h
  | cons x xs ih =>
    rw [List.flatMap_cons] at h
    cases hx : g x with
    | nil =>
      rw [hx] at h
      obtain ⟨z, hz, hgz⟩ := ih h
      exact ⟨z, List.mem_cons_of_mem x hz, hgz⟩
    | cons z zs =>
      rw [hx, List.cons_append, List.cons.injEq, List.append_eq_nil_iff] at h
      exact ⟨x, List.mem_cons_self, by rw [hx, h.1, h.2.1]⟩

theorem flat_normal_make {c : Connective} {ts : List TypeExpr} (h : ∀ t ∈ ts, t.normal.Flat) :
    (c.make ts).normal.Flat := by
  rw [normal_make]
  apply flat_combine
  · intro u hu
    obtain ⟨t, ht, hut⟩ := List.mem_flatMap.mp hu
    exact members_of_flat (h t ht) c u hut
  · intro u hu
    obtain ⟨t, ht, htu⟩ := flatMap_eq_singleton hu
    have hcombined := combine_members (h t ht) c
    rw [htu] at hcombined
    rw [show u = t.normal from hcombined]
    exact h t ht

theorem flat_normal (t : TypeExpr) : t.normal.Flat := by
  induction t using induction with
  | keyword word => intro c ts h; cases c <;> cases h
  | array item _ => intro c ts h; cases c <;> cases h
  | union members ih => exact flat_normal_make (c := .union) ih
  | intersection members ih => exact flat_normal_make (c := .intersection) ih
  | record fields _ => intro c ts h; cases c <;> cases h
  | literal value => intro c ts h; cases c <;> cases h
  | ref name => intro c ts h; cases c <;> cases h

theorem normalParts_alone (c : Connective) (ts : List TypeExpr) :
    ∀ u ∈ normalParts c ts, u.members c = [u] := by
  intro u hu
  obtain ⟨t, _, hut⟩ := List.mem_flatMap.mp hu
  exact members_of_flat (flat_normal t) c u hut

/-- The normal form of combined types is that of the combination. -/
theorem normal_combine (c : Connective) (ts : List TypeExpr) :
    (combine c ts).normal = combine c (normalParts c ts) := by
  by_cases hlength : ts.length = 1
  · obtain ⟨t, rfl⟩ := List.length_eq_one_iff.mp hlength
    have hparts : normalParts c [t] = t.normal.members c := by simp [normalParts]
    rw [hparts, combine_members (flat_normal t)]
    rfl
  · rw [combine_of_length hlength, normal_make]

theorem members_normal_make (c : Connective) (ts : List TypeExpr) :
    (c.make ts).normal.members c = normalParts c ts := by
  rw [normal_make, members_combine (normalParts_alone c ts)]

/-! ## Types of schema nodes -/

/-- Types that have a text: combinations have members, and a name that is referred to is an
identifier and no keyword. -/
inductive Wellformed : TypeExpr → Prop
  | keyword (word : Keyword) : Wellformed (.keyword word)
  | array {item : TypeExpr} : Wellformed item → Wellformed (.array item)
  | union {ts : List TypeExpr} : ts ≠ [] → (∀ t ∈ ts, Wellformed t) → Wellformed (.union ts)
  | intersection {ts : List TypeExpr} : ts ≠ [] → (∀ t ∈ ts, Wellformed t) →
      Wellformed (.intersection ts)
  | record {fields : List Field} : (∀ f ∈ fields, Wellformed f.type) → Wellformed (.record fields)
  | literal (value : String) : Wellformed (.literal value)
  | ref {name : String} : Identifier.isIdentifier name.toList = true →
      (∀ word : Keyword, name ≠ word.text) → Wellformed (.ref name)

mutual
/-- The type without the descriptions of its fields, unchanged in all else. -/
def undescribed : TypeExpr → TypeExpr
  | .keyword word => .keyword word
  | .array item => .array (undescribed item)
  | .union ts => .union (undescribedMembers ts)
  | .intersection ts => .intersection (undescribedMembers ts)
  | .record fields => .record (undescribedFields fields)
  | .literal value => .literal value
  | .ref name => .ref name

def undescribedMembers : List TypeExpr → List TypeExpr
  | [] => []
  | t :: ts => undescribed t :: undescribedMembers ts

def undescribedFields : List Field → List Field
  | [] => []
  | ⟨name, type, optional, _⟩ :: fs => ⟨name, undescribed type, optional, none⟩ :: undescribedFields fs
end

theorem undescribedMembers_eq_map (ts : List TypeExpr) :
    undescribedMembers ts = ts.map undescribed := by
  induction ts with
  | nil => rfl
  | cons t ts ih => rw [undescribedMembers, ih, List.map_cons]

theorem undescribedFields_eq_map (fs : List Field) :
    undescribedFields fs = fs.map fun f => ⟨f.name, f.type.undescribed, f.optional, none⟩ := by
  induction fs with
  | nil => rfl
  | cons f fs ih =>
    cases f with
    | mk name type optional description => rw [undescribedFields, ih, List.map_cons]

theorem ofKind?_spec {kind : Schema.Kind} {t : TypeExpr} (h : ofKind? kind = some t) :
    t.Wellformed ∧ t.normal = t ∧ t.undescribed = t ∧ t.members .union = [t] := by
  cases kind <;> cases h <;>
    first
    | exact ⟨.keyword _, rfl, rfl, rfl⟩
    | exact ⟨.array (.keyword _), rfl, rfl, rfl⟩

theorem ofAlternatives_spec {ts : List TypeExpr}
    (h : ∀ t ∈ ts, t.Wellformed ∧ t.normal = t ∧ t.undescribed = t ∧ t.members .union = [t]) :
    (ofAlternatives ts).Wellformed ∧
      (ofAlternatives ts).normal = (ofAlternatives ts).undescribed := by
  refine ofAlternatives_cases (P := fun t => t.Wellformed ∧ t.normal = t.undescribed)
    ⟨.keyword _, rfl⟩ ?_ ?_
  · intro t ht
    obtain ⟨hwell, hnormal, hundescribed, _⟩ := h t ht
    exact ⟨hwell, hnormal.trans hundescribed.symm⟩
  · intro htwo
    have hne : ts ≠ [] := List.ne_nil_of_length_pos (by omega)
    have hparts : normalParts .union ts = ts := by
      calc normalParts .union ts
          = ts.flatMap fun v => [v] := by
            apply List.flatMap_congr
            intro v hv
            rw [(h v hv).2.1, (h v hv).2.2.2]
        _ = ts := List.flatMap_singleton' _
    have hmap : ts.map undescribed = ts :=
      List.map_congr_left (fun v hv => (h v hv).2.2.1) |>.trans (List.map_id _)
    have hnormal := normal_make .union ts
    rw [hparts, combine_of_length (by omega)] at hnormal
    refine ⟨.union hne fun v hv => (h v hv).1, ?_⟩
    calc (TypeExpr.union ts).normal = .union ts := hnormal
      _ = .union (ts.map undescribed) := by rw [hmap]
      _ = (TypeExpr.union ts).undescribed := by rw [undescribed, undescribedMembers_eq_map]

/-- The type of a node has a text, and its normal form only lacks the descriptions. -/
theorem ofNodeWithin_spec (levels : Nat) (node : Schema.Node) :
    (ofNodeWithin levels node).Wellformed ∧
      (ofNodeWithin levels node).normal = (ofNodeWithin levels node).undescribed := by
  induction levels generalizing node with
  | zero => exact ⟨.keyword _, rfl⟩
  | succ levels ih =>
    cases node with
    | primitive kind =>
      simp only [ofNodeWithin]
      cases hkind : ofKind? kind with
      | none => exact ⟨.keyword _, rfl⟩
      | some t =>
        obtain ⟨hwell, hnormal, hundescribed, _⟩ := ofKind?_spec hkind
        exact ⟨hwell, hnormal.trans hundescribed.symm⟩
    | union kinds =>
      apply ofAlternatives_spec
      intro t ht
      obtain ⟨kind, _, hkind⟩ := List.mem_filterMap.mp ht
      exact ofKind?_spec hkind
    | array item =>
      refine ⟨.array (ih item).1, ?_⟩
      rw [ofNodeWithin, normal, undescribed, (ih item).2]
    | object properties required =>
      constructor
      · apply Wellformed.record
        intro f hf
        obtain ⟨p, _, rfl⟩ := List.mem_map.mp hf
        exact (ih p.node).1
      · rw [ofNodeWithin, normal, undescribed, normalFields_eq_map, undescribedFields_eq_map,
          List.map_map, List.map_map]
        congr 1
        apply List.map_congr_left
        intro p _
        simp only [Function.comp_apply, Field.described, (ih p.node).2]
    | unknown => exact ⟨.keyword _, rfl⟩

end ApiTypings.TypeExpr
