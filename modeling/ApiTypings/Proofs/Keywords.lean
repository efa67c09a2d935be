import ApiTypings.Proofs.BodyFields
import ApiTypings.Proofs.JsonParts
import Mathlib.Data.List.Sort
import Mathlib.Data.String.Basic
import Mathlib.Logic.Relation

/-!
# What a schema is read by

A schema is read by five keys. All its other keys may go, the rest may stand in any order, and a
key that has no meaning for the kind of the schema may have any value or be missing. Of the names
that are required only the set counts. This is said by small rewordings at one place of a schema
document: any number of them, in either direction, leaves the node as it is.

Schemas lie in one another in two ways, as the items of an array and as the properties of an object.
The keys of the properties are names and have no meaning as keys of a schema, so the places
at which rewordings and erasing are allowed are those at which documents are read.
-/

namespace ApiTypings

namespace Schema

/-! ## Required names as a set -/

theorem sortedLT_insertName (name : String) {names : List String} (h : names.SortedLT) :
    (insertName name names).SortedLT := by
  rw [List.sortedLT_iff_pairwise] at h ⊢
  induction names with
  | nil => exact List.pairwise_singleton _ _
  | cons n rest ih =>
    obtain ⟨hn, hrest⟩ := List.pairwise_cons.mp h
    unfold insertName
    split
    · exact h
    · split
      · next hlt =>
        refine List.pairwise_cons.mpr ⟨fun m hm => ?_, h⟩
        rcases List.mem_cons.mp hm with rfl | hm
        · exact hlt
        · exact hlt.trans (hn m hm)
      · next hne hge =>
        refine List.pairwise_cons.mpr ⟨fun m hm => ?_, ih hrest⟩
        rcases mem_insertName.mp hm with rfl | hm
        · exact lt_of_le_of_ne (not_lt.mp hge) (Ne.symm hne)
        · exact hn m hm

theorem sortedLT_sortNames (names : List String) : (sortNames names).SortedLT := by
  induction names with
  | nil => exact List.sortedLT_iff_pairwise.mpr List.Pairwise.nil
  | cons name rest ih => exact sortedLT_insertName name ih

theorem requiredNames_eq (entry : Option Json) :
    requiredNames entry = sortNames (textsOf entry) := by
  cases entry with
  | none => rfl
  | some value => cases value <;> rfl

theorem requiredNames_congr {entry entry' : Option Json}
    (h : ∀ name, name ∈ textsOf entry ↔ name ∈ textsOf entry') :
    requiredNames entry = requiredNames entry' := by
  rw [requiredNames_eq, requiredNames_eq]
  refine (sortedLT_sortNames _).eq_of_mem_iff (sortedLT_sortNames _) fun name => ?_
  rw [mem_sortNames, mem_sortNames, h]

/-! ## Rewordings -/

/-- The keys that a schema is read by. -/
def keywords : List String := ["type", "items", "properties", "required", "description"]

/-- The kind of a schema with these members, if it is a single one. -/
def kind? (members : List (String × Json)) : Option Kind :=
  match TypeEntry.of (Assoc.find? "type" members) with
  | .kind kind => some kind
  | _ => none

/-- A key that says nothing beside the other members of a schema. -/
def SaysNothing (key : String) (others : List (String × Json)) : Prop :=
  key ∉ keywords ∨
    (key = "items" ∧ kind? others ≠ some .array) ∨
    ((key = "properties" ∨ key = "required") ∧ kind? others ≠ some .object)

/-- One change to a schema document that does not change what it says: a key that says nothing goes,
the keys are put in another order, or the same names are required in another way. The change is
at the root, in the items or in a property; properties keep their names and their order. -/
inductive Reword : Json → Json → Prop
  | drop {before after : List (String × Json)} {key : String} {value : Json} :
      SaysNothing key (before ++ after) →
        Reword (.object (before ++ (key, value) :: after)) (.object (before ++ after))
  | reorder {members members' : List (String × Json)} : (members.map Prod.fst).Nodup →
      members.Perm members' → Reword (.object members) (.object members')
  | required {before after : List (String × Json)} {value value' : Json} :
      (∀ name, name ∈ textsOf (some value) ↔ name ∈ textsOf (some value')) →
        Reword (.object (before ++ ("required", value) :: after))
          (.object (before ++ ("required", value') :: after))
  | item {before after : List (String × Json)} {value value' : Json} : Reword value value' →
      Reword (.object (before ++ ("items", value) :: after))
        (.object (before ++ ("items", value') :: after))
  | property {before after first last : List (String × Json)} {name : String}
      {value value' : Json} : Reword value value' →
      Reword (.object (before ++ ("properties", .object (first ++ (name, value) :: last)) :: after))
        (.object (before ++ ("properties", .object (first ++ (name, value') :: last)) :: after))

theorem Reword.objects {value value' : Json} (h : Reword value value') :
    ∃ members members', value = .object members ∧ value' = .object members' := by
  cases h <;> exact ⟨_, _, rfl, rfl⟩

theorem SaysNothing.ne {key : String} {others : List (String × Json)} (h : SaysNothing key others) :
    key ≠ "type" ∧ key ≠ "description" ∧ (kind? others = some .array → key ≠ "items") ∧
      (kind? others = some .object → key ≠ "properties" ∧ key ≠ "required") := by
  rcases h with h | ⟨rfl, hkind⟩ | ⟨rfl | rfl, hkind⟩
  · refine ⟨?_, ?_, fun _ => ?_, fun _ => ⟨?_, ?_⟩⟩ <;> rintro rfl <;> simp [keywords] at h
  · simp [hkind]
  · simp [hkind]
  · simp [hkind]

/-- The description of a property is not reworded. -/
theorem Reword.description {value value' : Json} (h : Reword value value') :
    value.get? "description" = value'.get? "description" := by
  cases h with
  | drop hnothing => exact Assoc.find?_append_cons_of_ne hnothing.ne.2.1 ..
  | reorder hkeys hperm => exact Assoc.find?_perm hkeys hperm _
  | _ => simp only [Json.get?, Assoc.find?_append, Assoc.find?, String.reduceEq, if_false]

/-! ## Reading one level -/

section Level

variable {below : Json → Node}

/-- The node of a schema of arrays, from the entry for its items. -/
def Node.ofItems (below : Json → Node) : Option Json → Node
  | none | some .null => .primitive .array
  | some item => .array (below item)

/-- The node of a schema of objects, from the entries for its properties and what is required. -/
def Node.ofProperties (below : Json → Node) (required : Option Json) : Option Json → Node
  | some (.object properties) =>
    .object
      (properties.map fun (name, value) =>
        ⟨name, below value, (value.get? "description").bind Json.asText?⟩)
      (requiredNames required)
  | _ => .primitive .object

theorem Node.ofProperties_congr {required required' : Option Json}
    (h : requiredNames required = requiredNames required') (properties : Option Json) :
    ofProperties below required properties = ofProperties below required' properties := by
  unfold ofProperties
  rw [h]

/-- Members of which the same node is made. -/
structure SameLevel (below : Json → Node) (members members' : List (String × Json)) : Prop where
  type : Assoc.find? "type" members = Assoc.find? "type" members'
  items : kind? members = some .array →
    Node.ofItems below (Assoc.find? "items" members) =
      Node.ofItems below (Assoc.find? "items" members')
  properties : kind? members = some .object →
    Node.ofProperties below (Assoc.find? "required" members) (Assoc.find? "properties" members) =
      Node.ofProperties below (Assoc.find? "required" members') (Assoc.find? "properties" members')

theorem SameLevel.ofLevel_eq {members members' : List (String × Json)}
    (h : SameLevel below members members') :
    Node.ofLevel below (.object members) = Node.ofLevel below (.object members') := by
  obtain ⟨htype, hitems, hproperties⟩ := h
  unfold Node.ofLevel
  unfold kind? at hitems hproperties
  dsimp only
  rw [← htype]
  cases hentry : TypeEntry.of (Assoc.find? "type" members) with
  | malformed => rfl
  | kinds kinds => rfl
  | kind kind =>
    rw [hentry] at hitems hproperties
    cases kind with
    | array => exact hitems rfl
    | object => exact hproperties rfl
    | _ => rfl

/-- At one level a rewording is not seen, if those below it are not. -/
theorem Reword.ofLevel_eq {value value' : Json} (h : Reword value value')
    (hbelow : ∀ {v v' : Json}, Reword v v' → below v = below v') :
    Node.ofLevel below value = Node.ofLevel below value' := by
  cases h with
  | drop hnothing =>
    obtain ⟨htype, _, hitems, hproperties⟩ := hnothing.ne
    refine (SameLevel.ofLevel_eq ⟨?_, fun hkind => ?_, fun hkind => ?_⟩).symm
    · rw [Assoc.find?_append_cons_of_ne htype]
    · rw [Assoc.find?_append_cons_of_ne (hitems hkind)]
    · rw [Assoc.find?_append_cons_of_ne (hproperties hkind).1,
        Assoc.find?_append_cons_of_ne (hproperties hkind).2]
  | reorder hkeys hperm =>
    have hfind := Assoc.find?_perm hkeys hperm
    exact SameLevel.ofLevel_eq ⟨hfind _, fun _ => by rw [hfind], fun _ => by rw [hfind, hfind]⟩
  | required hnames =>
    refine SameLevel.ofLevel_eq ⟨?_, fun _ => ?_, fun _ => ?_⟩
    · exact Assoc.find?_revalued_of_ne (by decide) ..
    · exact congrArg _ (Assoc.find?_revalued_of_ne (by decide) ..)
    · rw [Assoc.find?_revalued_of_ne (show "required" ≠ "properties" by decide)]
      exact Assoc.find?_revalued (f := (Node.ofProperties below · _))
        (Node.ofProperties_congr (requiredNames_congr hnames) _) ..
  | item hitem =>
    refine SameLevel.ofLevel_eq ⟨?_, fun _ => ?_, fun _ => ?_⟩
    · exact Assoc.find?_revalued_of_ne (by decide) ..
    · refine Assoc.find?_revalued ?_ ..
      obtain ⟨_, _, rfl, rfl⟩ := hitem.objects
      exact congrArg Node.array (hbelow hitem)
    · exact congrArg₂ _ (Assoc.find?_revalued_of_ne (by decide) ..)
        (Assoc.find?_revalued_of_ne (by decide) ..)
  | property hproperty =>
    refine SameLevel.ofLevel_eq ⟨?_, fun _ => ?_, fun _ => ?_⟩
    · exact Assoc.find?_revalued_of_ne (by decide) ..
    · exact congrArg _ (Assoc.find?_revalued_of_ne (by decide) ..)
    · rw [Assoc.find?_revalued_of_ne (show "properties" ≠ "required" by decide)]
      refine Assoc.find?_revalued ?_ ..
      simp only [Node.ofProperties, List.map_append, List.map_cons, hbelow hproperty,
        hproperty.description]

end Level

/-- The number of levels that are read does not matter. -/
theorem Reword.ofJsonWithin_eq {value value' : Json} (h : Reword value value') (levels : Nat) :
    Node.ofJsonWithin levels value = Node.ofJsonWithin levels value' := by
  induction levels generalizing value value' with
  | zero => rfl
  | succ levels ih =>
    rw [Node.ofJsonWithin_succ, Node.ofJsonWithin_succ]
    exact h.ofLevel_eq ih

/-! ## Rewording any number of times -/

/-- Documents that rewordings lead from one to the other, in either direction. -/
abbrev SameWording : Json → Json → Prop := Relation.EqvGen Reword

theorem SameWording.ofJson_eq {value value' : Json} (h : SameWording value value') :
    Node.ofJson value = Node.ofJson value' := by
  induction h with
  | rel _ _ h => exact h.ofJsonWithin_eq _
  | refl => rfl
  | symm _ _ _ ih => exact ih.symm
  | trans _ _ _ _ _ ih ih' => exact ih.trans ih'

/-- Rewordings inside a document are rewordings of the document. -/
theorem SameWording.inside {f : Json → Json}
    (hstep : ∀ {v v' : Json}, Reword v v' → Reword (f v) (f v')) {value value' : Json}
    (h : SameWording value value') : SameWording (f value) (f value') := by
  induction h with
  | rel _ _ h => exact .rel _ _ (hstep h)
  | refl => exact .refl _
  | symm _ _ _ ih => exact .symm _ _ ih
  | trans _ _ _ _ _ ih ih' => exact .trans _ _ _ ih ih'

/-! ## Erasing all other keys -/

/-- What stands at a place of a schema document. -/
inductive Place where
  | schema
  | properties
  | plain

/-- What stands under a key of a schema of some kind. -/
def Place.under (kind : Option Kind) (key : String) : Place :=
  if key = "items" ∧ kind = some .array then .schema
  else if key = "properties" ∧ kind = some .object then .properties
  else .plain

mutual
/-- Erases the keys that are not keywords wherever a schema stands. -/
def erase : Place → Json → Json
  | .schema, .object members => .object (eraseMembers (kind? members) members)
  | .properties, .object properties => .object (eraseProperties properties)
  | _, value => value

def eraseMembers (kind : Option Kind) : List (String × Json) → List (String × Json)
  | [] => []
  | (key, value) :: rest =>
    if key ∈ keywords then (key, erase (.under kind key) value) :: eraseMembers kind rest
    else eraseMembers kind rest

def eraseProperties : List (String × Json) → List (String × Json)
  | [] => []
  | (name, value) :: rest => (name, erase .schema value) :: eraseProperties rest
end

/-- A schema document with keywords as its only keys. -/
def keywordsOnly (value : Json) : Json := erase .schema value

theorem kind?_congr {members members' : List (String × Json)}
    (h : Assoc.find? "type" members = Assoc.find? "type" members') :
    kind? members = kind? members' := by
  rw [kind?, kind?, h]

theorem erase_plain (value : Json) : erase .plain value = value := by
  cases value <;> rfl

/-- Erasing leaves the type of a schema as it is. -/
theorem find?_type_erase (kind : Option Kind) (key : String) (value : Json)
    (before after : List (String × Json)) :
    Assoc.find? "type" (before ++ (key, erase (.under kind key) value) :: after) =
      Assoc.find? "type" (before ++ (key, value) :: after) := by
  by_cases hkey : key = "type"
  · have hplain : Place.under kind key = .plain := by
      rw [hkey]
      rfl
    rw [hplain, erase_plain]
  · exact Assoc.find?_revalued_of_ne hkey ..

section Members

variable {kind : Option Kind} {members : List (String × Json)}

/-- Erasing goes through the members one by one; the kind is that of all of them. -/
theorem sameWording_eraseMembers
    (h : ∀ m ∈ members, ∀ before after, SameWording (.object (before ++ m :: after))
      (.object (before ++ (m.1, erase (.under kind m.1) m.2) :: after)))
    (before : List (String × Json)) (hkind : kind? (before ++ members) = kind) :
    SameWording (.object (before ++ members)) (.object (before ++ eraseMembers kind members)) := by
  induction members generalizing before with
  | nil => exact .refl _
  | cons m rest ih =>
    obtain ⟨key, value⟩ := m
    obtain ⟨hfirst, hrest⟩ := List.forall_mem_cons.mp h
    unfold eraseMembers
    split
    · refine .trans _ _ _ (hfirst before rest) ?_
      rw [List.append_cons, List.append_cons before _ (eraseMembers kind rest)]
      refine ih hrest _ ?_
      rw [← hkind, List.append_assoc, List.singleton_append]
      exact kind?_congr (find?_type_erase ..)
    · next hother =>
      refine .trans _ _ _ (.rel _ _ (.drop (.inl hother))) (ih hrest _ ?_)
      rw [← hkind]
      refine kind?_congr (Assoc.find?_append_cons_of_ne ?_ ..).symm
      rintro rfl
      simp [keywords] at hother

theorem sameWording_eraseProperties {properties : List (String × Json)}
    (h : ∀ m ∈ properties, SameWording m.2 (erase .schema m.2))
    (before after first : List (String × Json)) :
    SameWording (.object (before ++ ("properties", .object (first ++ properties)) :: after))
      (.object
        (before ++ ("properties", .object (first ++ eraseProperties properties)) :: after)) := by
  induction properties generalizing first with
  | nil => exact .refl _
  | cons m rest ih =>
    obtain ⟨name, value⟩ := m
    obtain ⟨hfirst, hrest⟩ := List.forall_mem_cons.mp h
    unfold eraseProperties
    have hsame := hfirst.inside (f := fun v => .object (before ++
      ("properties", .object (first ++ (name, v) :: rest)) :: after)) .property
    refine .trans _ _ _ hsame ?_
    have hmove (tail : List (String × Json)) : first ++ (name, erase .schema value) :: tail =
        (first ++ [(name, erase .schema value)]) ++ tail := List.append_cons ..
    rw [hmove rest, hmove (eraseProperties rest)]
    exact ih hrest _

end Members

/-- What may stand in a schema can be erased there, under whatever key it stands. -/
theorem sameWording_under {value : Json} (hschema : SameWording value (erase .schema value))
    (hproperties : ∀ before after, SameWording (.object (before ++ ("properties", value) :: after))
      (.object (before ++ ("properties", erase .properties value) :: after)))
    (kind : Option Kind) (key : String) (before after : List (String × Json)) :
    SameWording (.object (before ++ (key, value) :: after))
      (.object (before ++ (key, erase (.under kind key) value) :: after)) := by
  unfold Place.under
  split
  · next hitems =>
    obtain ⟨rfl, _⟩ := hitems
    exact hschema.inside (f := fun v => .object (before ++ ("items", v) :: after)) .item
  · split
    · next hunder =>
      obtain ⟨rfl, _⟩ := hunder
      exact hproperties before after
    · rw [erase_plain]
      exact .refl _

/-- Erasing is a series of rewordings, at both kinds of places where there is something to erase. -/
theorem sameWording_erase (value : Json) :
    SameWording value (erase .schema value) ∧
      ∀ before after, SameWording (.object (before ++ ("properties", value) :: after))
        (.object (before ++ ("properties", erase .properties value) :: after)) := by
  induction value using Json.induction with
  | object members ih =>
    refine ⟨?_, fun before after => ?_⟩
    · exact sameWording_eraseMembers
        (fun m hm => sameWording_under (ih m hm).1 (ih m hm).2 _ _) [] rfl
    · exact sameWording_eraseProperties (fun m hm => (ih m hm).1) before after []
  | _ => exact ⟨.refl _, fun _ _ => .refl _⟩

/-! ## What is left -/

/-- The places inside a value at a place. -/
inductive StandsIn : Place → Json → Place → Json → Prop
  | here (place : Place) (value : Json) : StandsIn place value place value
  | under {members : List (String × Json)} {key : String} {value inner : Json} {place : Place} :
      (key, value) ∈ members → StandsIn (.under (kind? members) key) value place inner →
        StandsIn .schema (.object members) place inner
  | property {properties : List (String × Json)} {name : String} {value inner : Json}
      {place : Place} : (name, value) ∈ properties → StandsIn .schema value place inner →
        StandsIn .properties (.object properties) place inner

theorem eraseMembers_eq_map (kind : Option Kind) (members : List (String × Json)) :
    eraseMembers kind members = (members.filter (·.1 ∈ keywords)).map fun m =>
      (m.1, erase (.under kind m.1) m.2) := by
  induction members with
  | nil => rfl
  | cons m rest ih =>
    unfold eraseMembers
    by_cases hkey : m.1 ∈ keywords
    · rw [if_pos hkey, ih, List.filter_cons_of_pos (by simpa using hkey), List.map_cons]
    · rw [if_neg hkey, ih, List.filter_cons_of_neg (by simpa using hkey)]

theorem eraseProperties_eq_map (properties : List (String × Json)) :
    eraseProperties properties = properties.map fun m => (m.1, erase .schema m.2) := by
  induction properties with
  | nil => rfl
  | cons m rest ih => rw [eraseProperties, ih, List.map_cons]

theorem kind?_eraseMembers (kind : Option Kind) (members : List (String × Json)) :
    kind? (eraseMembers kind members) = kind? members := by
  apply kind?_congr
  induction members with
  | nil => rfl
  | cons m rest ih =>
    obtain ⟨key, value⟩ := m
    unfold eraseMembers
    split
    · refine (find?_type_erase kind key value [] _).trans ?_
      rw [List.nil_append, Assoc.find?, Assoc.find?, ih]
    · next hother =>
      have hne : key ≠ "type" := by
        rintro rfl
        simp [keywords] at hother
      exact ih.trans (Assoc.find?_append_cons_of_ne hne value [] rest).symm

/-- What is left inside a value is what erasing leaves of something. -/
theorem StandsIn.of_erase {place inner : Place} {erased value : Json}
    (h : StandsIn place erased inner value) :
    ∀ {written : Json}, erased = erase place written → ∃ w, value = erase inner w := by
  induction h with
  | here => exact fun heq => ⟨_, heq⟩
  | under hmem _ ih =>
    intro written heq
    cases written with
    | object members =>
      cases heq
      rw [kind?_eraseMembers] at ih
      rw [eraseMembers_eq_map] at hmem
      obtain ⟨m, _, hm⟩ := List.mem_map.mp hmem
      cases hm
      exact ih rfl
    | _ => cases heq
  | property hmem _ ih =>
    intro written heq
    cases written with
    | object properties =>
      cases heq
      rw [eraseProperties_eq_map] at hmem
      obtain ⟨m, _, hm⟩ := List.mem_map.mp hmem
      cases hm
      exact ih rfl
    | _ => cases heq

/-- In what is left every schema has keywords only. -/
theorem StandsIn.keywords {value : Json} {members : List (String × Json)}
    (h : StandsIn .schema (keywordsOnly value) .schema (.object members)) :
    ∀ m ∈ members, m.1 ∈ Schema.keywords := by
  obtain ⟨w, hw⟩ := h.of_erase rfl
  cases w with
  | object written =>
    cases hw
    intro m hm
    rw [eraseMembers_eq_map] at hm
    obtain ⟨_, hkept, rfl⟩ := List.mem_map.mp hm
    exact of_decide_eq_true (List.mem_filter.mp hkept).2
  | _ => cases hw

/-! ## Keywords only -/

/-- Erasing everything but keywords from a document, at every depth, leaves its node as it is, and
so do rewordings. -/
theorem Node.ofJson_heeds_keywords_only :
    (∀ value, Node.ofJson (keywordsOnly value) = Node.ofJson value ∧
      SameWording value (keywordsOnly value) ∧
      ∀ members, StandsIn .schema (keywordsOnly value) .schema (.object members) →
        ∀ m ∈ members, m.1 ∈ keywords) ∧
      ∀ value value', SameWording value value' → Node.ofJson value = Node.ofJson value' := by
  refine ⟨fun value => ?_, fun value value' h => h.ofJson_eq⟩
  have hsame : SameWording value (keywordsOnly value) := (sameWording_erase value).1
  exact ⟨hsame.ofJson_eq.symm, hsame, fun members h => h.keywords⟩

def wordyRequired : String × Json :=
  ("required", .array [.text "b", .int 1, .text "a", .text "b"])

def terseProperties : String × Json :=
  ("properties", .object [("title", .object [("type", .text " Array "),
    ("items", .object [("type", .text "string")])])])

/-- An object with a list of texts, with notes in three places, a name that is required twice and an
entry for items that has no meaning. The property has the name of a note. -/
def wordy : Json :=
  .object [("title", .text "names"), wordyRequired, ("items", .bool true),
    ("properties", .object [("title", .object [("type", .text " Array "), ("note", .null),
      ("items", .object [("note", .int 2), ("type", .text "string")])])])]

/-- The same in few words. -/
def terse : Json :=
  .object [terseProperties, ("required", .array [.text "a", .text "b"])]

theorem Node.ofJson_heeds_keywords_only_wordy :
    SameWording wordy terse ∧ Node.ofJson wordy = Node.ofJson terse ∧ wordy ≠ terse := by
  obtain ⟨herase, heeds⟩ := Node.ofJson_heeds_keywords_only
  have hnames (name : String) : name ∈ textsOf (some wordyRequired.2) ↔
      name ∈ textsOf (some (.array [.text "a", .text "b"])) := by
    simp only [wordyRequired, textsOf, List.filterMap_cons, List.filterMap_nil, Json.asText?,
      List.mem_cons, List.not_mem_nil]
    tauto
  have hdrop : Reword (keywordsOnly wordy) (.object [wordyRequired, terseProperties]) :=
    @Reword.drop [wordyRequired] [terseProperties] _ _ (.inr (.inl ⟨rfl, by decide⟩))
  have hreorder : Reword (.object [wordyRequired, terseProperties])
      (.object [terseProperties, wordyRequired]) := .reorder (by decide) (.swap _ _ _)
  have hrequired : Reword (.object [terseProperties, wordyRequired]) terse :=
    @Reword.required [terseProperties] [] _ _ hnames
  have hsame : SameWording wordy terse :=
    .trans _ _ _ (herase wordy).2.1 (.trans _ _ _ (.rel _ _ hdrop)
      (.trans _ _ _ (.rel _ _ hreorder) (.rel _ _ hrequired)))
  exact ⟨hsame, heeds _ _ hsame, by simp [wordy, terse]⟩

end Schema

end ApiTypings
