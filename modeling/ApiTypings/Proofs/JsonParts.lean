import ApiTypings.Proofs.UniqueKeys

/-!
# The parts of a value

The parts of a JSON value are the value itself and the parts of its items or members, so what
is said of a value at every depth is said of its parts. Merging repeated keys leaves no part
with a repeated key, and it changes nothing where no part has one.
-/

namespace ApiTypings

theorem Assoc.put_of_not_mem {κ α : Type} [DecidableEq κ] {key : κ} {entries : List (κ × α)}
    (h : key ∉ entries.map Prod.fst) (value : α) :
    put key value entries = entries ++ [(key, value)] := by
  induction entries with
  | nil => rfl
  | cons e rest ih =>
    rw [List.map_cons, List.mem_cons, not_or] at h
    unfold put
    rw [if_neg (Ne.symm h.1), ih h.2, List.cons_append]

namespace Json

/-! ## Induction on values -/

/-- A property holds of all values if it passes from the values inside a value to the value. -/
@[elab_as_elim]
theorem induction {P : Json → Prop} (null : P .null) (bool : ∀ b, P (.bool b))
    (int : ∀ n, P (.int n)) (double : ∀ x, P (.double x)) (text : ∀ s, P (.text s))
    (array : ∀ items, (∀ v ∈ items, P v) → P (.array items))
    (object : ∀ members : List (String × Json), (∀ m ∈ members, P m.2) → P (.object members))
    (v : Json) : P v :=
  @Json.rec P (fun items => ∀ v ∈ items, P v) (fun members => ∀ m ∈ members, P m.2)
    (fun m => P m.2) null bool int double text array object
    (List.forall_mem_nil _) (fun _ _ hv hrest => List.forall_mem_cons.mpr ⟨hv, hrest⟩)
    (List.forall_mem_nil _) (fun _ _ hm hrest => List.forall_mem_cons.mpr ⟨hm, hrest⟩)
    (fun _ _ hv => hv) v

/-! ## Parts -/

mutual
/-- The value and all values inside it. -/
def parts : Json → List Json
  | .array items => .array items :: itemParts items
  | .object members => .object members :: memberParts members
  | v => [v]

def itemParts : List Json → List Json
  | [] => []
  | v :: rest => v.parts ++ itemParts rest

def memberParts : List (String × Json) → List Json
  | [] => []
  | (_, v) :: rest => v.parts ++ memberParts rest
end

theorem itemParts_eq_flatMap (items : List Json) : itemParts items = items.flatMap parts := by
  induction items with
  | nil => rfl
  | cons v rest ih => rw [itemParts, ih, List.flatMap_cons]

theorem memberParts_eq_flatMap (members : List (String × Json)) :
    memberParts members = members.flatMap (·.2.parts) := by
  induction members with
  | nil => rfl
  | cons m rest ih => rw [memberParts, ih, List.flatMap_cons]

theorem mem_parts_self (v : Json) : v ∈ v.parts := by
  cases v <;> simp [parts]

theorem mem_parts_array {v : Json} {items : List Json} :
    v ∈ (array items).parts ↔ v = array items ∨ ∃ item ∈ items, v ∈ item.parts := by
  rw [parts, itemParts_eq_flatMap, List.mem_cons, List.mem_flatMap]

theorem mem_parts_object {v : Json} {members : List (String × Json)} :
    v ∈ (object members).parts ↔ v = object members ∨ ∃ m ∈ members, v ∈ m.2.parts := by
  rw [parts, memberParts_eq_flatMap, List.mem_cons, List.mem_flatMap]

/-! ## Merged values -/

/-- Whether no object in a value repeats a key. -/
def RepeatsNoKey (v : Json) : Prop :=
  ∀ members, object members ∈ v.parts → (members.map Prod.fst).Nodup

theorem repeatsNoKey_array {items : List Json} :
    (array items).RepeatsNoKey ↔ ∀ v ∈ items, v.RepeatsNoKey := by
  simp only [RepeatsNoKey, mem_parts_array, reduceCtorEq, false_or]
  constructor
  · intro h v hv members hmem
    exact h members ⟨v, hv, hmem⟩
  · rintro h members ⟨v, hv, hmem⟩
    exact h v hv members hmem

theorem repeatsNoKey_object {members : List (String × Json)} :
    (object members).RepeatsNoKey ↔
      (members.map Prod.fst).Nodup ∧ ∀ m ∈ members, m.2.RepeatsNoKey := by
  simp only [RepeatsNoKey, mem_parts_object, object.injEq]
  constructor
  · intro h
    exact ⟨h members (.inl rfl), fun m hm inner hmem => h inner (.inr ⟨m, hm, hmem⟩)⟩
  · rintro ⟨hkeys, hinside⟩ inner (rfl | ⟨m, hm, hmem⟩)
    · exact hkeys
    · exact hinside m hm inner hmem

/-- A member of a merged object is what merging makes of a member that is written. -/
theorem mem_merged {members : List (String × Json)} {m : String × Json} (h : m ∈ merged members) :
    ∃ written, (m.1, written) ∈ members ∧ m.2 = written.unique := by
  have hkeys : ((merged members).map Prod.fst).Nodup := nodup_keys_uniqueKeys _
  have hfind : Assoc.find? m.1 (merged members) = some m.2 := Assoc.find?_of_mem hkeys h
  rw [find?_merged] at hfind
  obtain ⟨written, hlast, hunique⟩ := Option.map_eq_some_iff.mp hfind
  exact ⟨written, List.mem_reverse.mp (Assoc.mem_of_find? hlast), hunique.symm⟩

/-- Merging leaves no repeated key at any depth. -/
theorem repeatsNoKey_unique (v : Json) : v.unique.RepeatsNoKey := by
  induction v using Json.induction with
  | array items ih =>
    rw [unique, uniqueItems_eq_map, repeatsNoKey_array]
    intro v hv
    obtain ⟨item, hitem, rfl⟩ := List.mem_map.mp hv
    exact ih item hitem
  | object members ih =>
    rw [unique, ← merged, repeatsNoKey_object]
    refine ⟨nodup_keys_uniqueKeys _, ?_⟩
    intro m hm
    obtain ⟨written, hwritten, hvalue⟩ := mem_merged hm
    rw [hvalue]
    exact ih (m.1, written) hwritten
  | _ => simp [RepeatsNoKey, unique, parts]

theorem uniqueKeys_of_nodup {α : Type} {members : List (String × α)}
    (h : (members.map Prod.fst).Nodup) : uniqueKeys members = members := by
  induction members using List.reverseRecOn with
  | nil => rfl
  | append_singleton members m ih =>
    rw [List.map_append, List.map_singleton, ← List.concat_eq_append, List.nodup_concat] at h
    rw [uniqueKeys_concat, ih h.2, Assoc.put_of_not_mem h.1]

/-- Where no key is repeated, merging changes nothing. -/
theorem unique_eq_self {v : Json} (h : v.RepeatsNoKey) : v.unique = v := by
  induction v using Json.induction with
  | array items ih =>
    rw [repeatsNoKey_array] at h
    rw [unique, uniqueItems_eq_map, array.injEq]
    exact (List.map_congr_left fun v hv => ih v hv (h v hv)).trans (List.map_id _)
  | object members ih =>
    rw [repeatsNoKey_object] at h
    have hmembers : uniqueMembers members = members := by
      rw [uniqueMembers_eq_map]
      refine (List.map_congr_left fun m hm => ?_).trans (List.map_id _)
      rw [ih m hm (h.2 m hm)]
      rfl
    rw [unique, hmembers, uniqueKeys_of_nodup h.1]
  | _ => rfl

end Json

end ApiTypings
