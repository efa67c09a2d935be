import ApiTypings.Payload.Detail
import ApiTypings.Payload.Menu
import Mathlib.Data.List.Forall2

/-!
# The shapes of payloads

What the data of a reply have to look like is said here by itself, field by field, for projects,
menus and details. A record is an object or an array of its fields. A field may be missing or null
or neither, as the case may be, and has to be of its type otherwise; a list has one record for each
entry. The readers of payloads take the data of these shapes, make of them what their fields say,
and take nothing else.
-/

namespace ApiTypings

namespace Number.Binary64

/-- A number without a fraction. -/
def IsWhole (x : Binary64) : Prop := x.ratio.2 ∣ x.ratio.1

theorem ratio_pos (x : Binary64) : 0 < x.ratio.2 := by
  unfold ratio scaled
  split
  · exact Nat.mul_pos Nat.one_pos (Nat.two_pow_pos _)
  · exact Nat.one_pos

/-- Of the whole numbers only zero is as small as the gap behind one. -/
theorem IsWhole.exceedsEpsilon_iff {x : Binary64} (h : x.IsWhole) :
    x.exceedsEpsilon = true ↔ x.ratio.1 ≠ 0 := by
  obtain ⟨k, hk⟩ := h
  have hden := x.ratio_pos
  unfold exceedsEpsilon
  dsimp only
  rw [decide_eq_true_iff, hk]
  constructor
  · intro hlt hzero
    rw [hzero] at hlt
    omega
  · intro hne
    have hk : 0 < k := Nat.pos_of_ne_zero fun hzero => hne (by rw [hzero, Nat.mul_zero])
    calc x.ratio.2 < x.ratio.2 * Nat.pow 2 52 :=
          (Nat.lt_mul_iff_one_lt_right hden).mpr (by decide)
      _ ≤ x.ratio.2 * k * Nat.pow 2 52 :=
          Nat.mul_le_mul_right _ (Nat.le_mul_of_pos_right _ hk)

end Number.Binary64

namespace Payload

open Schema (Kind)

/-! ## Records -/

def projectKeys : List String := ["_id"]

def itemKeys : List String := ["_id", "title", "path", "method"]

def entryKeys : List String := ["_id", "name", "title", "path", "method", "list"]

def detailKeys : List String :=
  ["_id", "title", "path", "method", "req_params", "req_query", "req_body_other", "res_body"]

def parameterKeys : List String := ["name", "type", "required", "desc"]

/-- The values of which a record with these fields can be read. -/
def IsRecord (keys : List String) : Json → Prop
  | .object _ => True
  | .array items => items.length ≤ keys.length
  | _ => False

/-- What a record has for one of its fields: under the key, or in the place of the key. -/
def fieldOf (keys : List String) (key : String) : Json → Option Json
  | .object members => Assoc.find? key members
  | .array items => items[keys.idxOf key]?
  | _ => none

theorem fields?_eq_some {keys : List String} (hkeys : keys.Nodup) {j : Json}
    {fields : List (Option Json)} :
    fields? keys j = some fields ↔ IsRecord keys j ∧ fields = keys.map (fieldOf keys · j) := by
  cases j with
  | object members => simp [fields?, IsRecord, fieldOf, eq_comm]
  | array items =>
    unfold fields? IsRecord
    dsimp only
    split
    · next hlength =>
      have hplaces : items.map some ++ List.replicate (keys.length - items.length) none =
          keys.map (fieldOf keys · (.array items)) := by
        apply List.ext_getElem?
        intro i
        by_cases hi : i < keys.length
        · simp only [fieldOf, List.getElem?_map, List.getElem?_eq_getElem hi, Option.map_some,
            hkeys.idxOf_getElem i hi, List.getElem?_append, List.length_map,
            List.getElem?_replicate]
          split
          · next hitem => rw [List.getElem?_eq_getElem hitem, Option.map_some]
          · next hitem =>
            rw [if_pos (by omega), List.getElem?_eq_none (by omega)]
        · rw [List.getElem?_eq_none, List.getElem?_eq_none]
          · simp only [List.length_map]
            omega
          · simp only [List.length_append, List.length_map, List.length_replicate]
            omega
      rw [Option.some_inj, hplaces]
      exact ⟨fun h => ⟨hlength, h.symm⟩, fun h => h.2.symm⟩
    · next hlength => simp [hlength]
  | _ => simp [fields?, IsRecord]

theorem fields?_of_isRecord {keys : List String} (hkeys : keys.Nodup) {j : Json}
    (h : IsRecord keys j) : fields? keys j = some (keys.map (fieldOf keys · j)) :=
  (fields?_eq_some hkeys).mpr ⟨h, rfl⟩

theorem fields?_of_not_isRecord {keys : List String} (hkeys : keys.Nodup) {j : Json}
    (h : ¬ IsRecord keys j) : fields? keys j = none :=
  Option.eq_none_iff_forall_ne_some.mpr fun _ hsome => h ((fields?_eq_some hkeys).mp hsome).1

/-! ## What fields say -/

/-- A field that may be missing or null, which then says the same as its fallback. -/
inductive Optionally {α : Type} (fallback : α) (means : Json → α → Prop) : Option Json → α → Prop
  | missing : Optionally fallback means none fallback
  | null : Optionally fallback means (some .null) fallback
  | given {v : Json} {a : α} : means v a → Optionally fallback means (some v) a

/-- The id of a detail; without one it is the one that was asked for. -/
def IdField (requested : Nat) : Option Json → Nat → Prop :=
  Optionally requested fun v n => v = .int n ∧ n ≤ maxId

def TextField : Option Json → String → Prop := Optionally "" fun v s => v = .text s

/-- A field that may be missing or null, and then says nothing. -/
inductive Nullable {α : Type} (means : Json → α → Prop) : Option Json → Option α → Prop
  | missing : Nullable means none none
  | null : Nullable means (some .null) none
  | given {v : Json} {a : α} : means v a → Nullable means (some v) (some a)

/-- A text that may be missing or null. -/
inductive MessageField : Option Json → Option String → Prop
  | missing : MessageField none none
  | null : MessageField (some .null) none
  | given (s : String) : MessageField (some (.text s)) (some s)

/-- The id of an entry of the menu. It may be missing, but not null. -/
inductive PlainIdField : Option Json → Nat → Prop
  | missing : PlainIdField none 0
  | given {n : Nat} : n ≤ maxId → PlainIdField (some (.int n)) n

inductive NamesKind : Json → Kind → Prop
  | blank {s : String} : Text.isBlankText s = true → NamesKind (.text s) .string
  | named {s : String} : Text.isBlankText s = false →
      NamesKind (.text s) (.ofName (Text.trim s))

/-- The kind of a parameter; without a name it is that of texts. -/
def KindField : Option Json → Kind → Prop := Optionally .string NamesKind

/-- The ways to say that a parameter is required. -/
inductive SaysRequired : Option Json → Prop
  | yes : SaysRequired (some (.bool true))
  | integer {n : Int} : n ≠ 0 → SaysRequired (some (.int n))
  | whole {x : Number.Binary64} : x.IsWhole → x.ratio.1 ≠ 0 → SaysRequired (some (.double x))
  | fraction {x : Number.Binary64} : ¬ x.IsWhole → x.exceedsEpsilon = true →
      SaysRequired (some (.double x))
  | text {s : String} : Text.lowerAscii (Text.trim s) ∈ ["1", "true"] →
      SaysRequired (some (.text s))

/-- Entries of a list, each of them about one thing. -/
def Lists {α : Type} (means : Json → α → Prop) (v : Json) (as : List α) : Prop :=
  ∃ entries, v = .array entries ∧ List.Forall₂ means entries as

/-! ## Shapes -/

/-- The project that data are about. -/
structure SaysProject (data : Json) (n : Nat) : Prop where
  isRecord : IsRecord projectKeys data
  id : fieldOf projectKeys "_id" data = some (.int n)
  bounded : n ≤ maxId

/-- The interface that an entry in a category is about. -/
structure SaysItem (entry : Json) (i : MenuItem) : Prop where
  isRecord : IsRecord itemKeys entry
  id : PlainIdField (fieldOf itemKeys "_id" entry) i.id
  title : MessageField (fieldOf itemKeys "title" entry) i.title
  path : MessageField (fieldOf itemKeys "path" entry) i.path
  method : MessageField (fieldOf itemKeys "method" entry) i.method

/-- The category that an entry of the menu is about, or the interface if it lists none. -/
structure SaysEntry (entry : Json) (e : MenuEntry) : Prop where
  isRecord : IsRecord entryKeys entry
  id : PlainIdField (fieldOf entryKeys "_id" entry) e.id
  name : MessageField (fieldOf entryKeys "name" entry) e.name
  title : MessageField (fieldOf entryKeys "title" entry) e.title
  path : MessageField (fieldOf entryKeys "path" entry) e.path
  method : MessageField (fieldOf entryKeys "method" entry) e.method
  list : Nullable (Lists SaysItem) (fieldOf entryKeys "list" entry) e.list

/-- The menu that data are about. -/
def SaysMenu : Json → List MenuEntry → Prop := Lists SaysEntry

/-- The parameter that an entry of a list is about. -/
structure SaysParameter (entry : Json) (p : Parameter) : Prop where
  isRecord : IsRecord parameterKeys entry
  name : TextField (fieldOf parameterKeys "name" entry) p.name
  kind : KindField (fieldOf parameterKeys "type" entry) p.kind
  required : p.required = true ↔ SaysRequired (fieldOf parameterKeys "required" entry)
  description : TextField (fieldOf parameterKeys "desc" entry) p.description

/-- The parameters of a list, one for each entry and in its order. -/
def ListField : Option Json → List Parameter → Prop :=
  Optionally [] fun v ps => ∃ entries, v = .array entries ∧ List.Forall₂ SaysParameter entries ps

/-- The detail that data are about, whose members or places are its fields. -/
structure SaysRecord (requested : Nat) (data : Json) (d : Detail) : Prop where
  isRecord : IsRecord detailKeys data
  id : IdField requested (fieldOf detailKeys "_id" data) d.id
  title : TextField (fieldOf detailKeys "title" data) d.title
  path : TextField (fieldOf detailKeys "path" data) d.path
  method : TextField (fieldOf detailKeys "method" data) d.method
  pathParameters : ListField (fieldOf detailKeys "req_params" data) d.pathParameters
  queryParameters : ListField (fieldOf detailKeys "req_query" data) d.queryParameters
  requestBody : MessageField (fieldOf detailKeys "req_body_other" data) d.requestBody
  responseBody : MessageField (fieldOf detailKeys "res_body" data) d.responseBody

/-! ## Reading fields -/

theorem optional?_of_ne_null {α : Type} (decode : Json → Option α) {v : Json} (h : v ≠ .null) :
    optional? decode (some v) = (decode v).map some := by
  unfold optional?
  split
  · next hnone => cases hnone
  · next hnull => exact (h (Option.some.inj hnull)).elim
  · next hv =>
    cases hv
    rfl

theorem text?_eq_some {v : Option Json} {s : Option String} :
    text? v = some s ↔ MessageField v s := by
  constructor
  · intro h
    unfold text? optional? at h
    split at h
    · cases h
      exact .missing
    · cases h
      exact .null
    · next v _ =>
      cases v <;> cases h
      exact .given _
  · rintro ⟨⟩ <;> rfl

section Optional

variable {α : Type} {decode : Json → Option α} {means : Json → α → Prop}
  (hmeans : ∀ v a, decode v = some a ↔ means v a) (hnull : decode .null = none)
include hmeans hnull

/-- Fields that may be null are read as they are meant, if their values are. -/
theorem optional?_eq_some {field : Option Json} {r : Option α} :
    optional? decode field = some r ↔ Nullable means field r := by
  constructor
  · intro h
    unfold optional? at h
    split at h
    · cases h
      exact .missing
    · cases h
      exact .null
    · next v _ =>
      obtain ⟨a, ha, rfl⟩ := Option.map_eq_some_iff.mp h
      exact .given ((hmeans v a).mp ha)
  · intro h
    cases h with
    | missing => rfl
    | null => rfl
    | @given v a h =>
      have hdecode := (hmeans v a).mpr h
      have hv : v ≠ .null := by
        rintro rfl
        rw [hnull] at hdecode
        cases hdecode
      rw [optional?_of_ne_null decode hv, hdecode, Option.map_some]

/-- With a fallback, a field that says nothing says the fallback. -/
theorem optional?_getD_iff {field : Option Json} {fallback a : α} :
    (∃ r, optional? decode field = some r ∧ a = r.getD fallback) ↔
      Optionally fallback means field a := by
  simp only [optional?_eq_some hmeans hnull]
  constructor
  · rintro ⟨r, hr, rfl⟩
    cases hr with
    | missing => exact .missing
    | null => exact .null
    | given h => exact .given h
  · intro h
    cases h with
    | missing => exact ⟨none, .missing, rfl⟩
    | null => exact ⟨none, .null, rfl⟩
    | given h => exact ⟨_, .given h, rfl⟩

end Optional

theorem id?_eq_some {v : Json} {n : Nat} : id? v = some n ↔ v = .int n ∧ n ≤ maxId := by
  unfold id?
  split
  · next m =>
    simp only [Bool.and_eq_true, decide_eq_true_eq, Json.int.injEq]
    split
    · next hbounds =>
      rw [Option.some_inj]
      omega
    · next hbounds =>
      simp only [reduceCtorEq, false_iff, not_and]
      omega
  · next hother => exact ⟨nofun, fun h => (hother _ h.1).elim⟩

theorem asText?_eq_some {v : Json} {s : String} : v.asText? = some s ↔ v = .text s := by
  cases v <;> simp [Json.asText?]

theorem idOrZero?_eq_some {field : Option Json} {id : Nat} :
    idOrZero? field = some id ↔ PlainIdField field id := by
  cases field with
  | none =>
    constructor
    · rintro ⟨⟩
      exact .missing
    · rintro ⟨⟩
      rfl
  | some v =>
    rw [idOrZero?, id?_eq_some]
    constructor
    · rintro ⟨rfl, hbound⟩
      exact .given hbound
    · rintro ⟨⟩
      next hbound => exact ⟨rfl, hbound⟩

theorem idField_iff {field : Option Json} {requested id : Nat} :
    (∃ n, optional? id? field = some n ∧ id = n.getD requested) ↔ IdField requested field id :=
  optional?_getD_iff (fun _ _ => id?_eq_some) rfl

theorem textField_iff {field : Option Json} {s : String} :
    (∃ text, text? field = some text ∧ s = text.getD "") ↔ TextField field s :=
  optional?_getD_iff (fun _ _ => asText?_eq_some) rfl

theorem kindField_iff {field : Option Json} {kind : Kind} :
    (∃ type, text? field = some type ∧ kind = kindOf type) ↔ KindField field kind := by
  simp only [text?_eq_some]
  constructor
  · rintro ⟨type, htype, rfl⟩
    cases htype with
    | missing => exact .missing
    | null => exact .null
    | given s =>
      unfold kindOf
      dsimp only
      split
      · next hblank => exact .given (.blank hblank)
      · next hblank => exact .given (.named (Bool.eq_false_iff.mpr hblank))
  · intro h
    cases h with
    | missing => exact ⟨none, .missing, rfl⟩
    | null => exact ⟨none, .null, rfl⟩
    | given h =>
      cases h with
      | @blank s hblank => exact ⟨some s, .given s, by rw [kindOf, if_pos hblank]⟩
      | @named s hblank =>
        exact ⟨some s, .given s, by rw [kindOf, if_neg (Bool.eq_false_iff.mp hblank)]⟩

theorem isRequired_iff {field : Option Json} : isRequired field = true ↔ SaysRequired field := by
  constructor
  · intro h
    unfold isRequired at h
    split at h
    · subst h
      exact .yes
    · exact .integer (bne_iff_ne.mp h)
    · next x =>
      by_cases hwhole : x.IsWhole
      · exact .whole hwhole (hwhole.exceedsEpsilon_iff.mp h)
      · exact .fraction hwhole h
    · exact .text (List.contains_iff_mem.mp h)
    · cases h
  · intro h
    cases h with
    | yes => rfl
    | integer hne => exact bne_iff_ne.mpr hne
    | whole hwhole hne => exact hwhole.exceedsEpsilon_iff.mpr hne
    | fraction _ hlarge => exact hlarge
    | text hmem => exact List.contains_iff_mem.mpr hmem

/-- A list is decoded if each of its entries is. -/
theorem mapM_eq_some_iff {α β : Type} {f : α → Option β} {xs : List α} {ys : List β} :
    xs.mapM f = some ys ↔ List.Forall₂ (fun x y => f x = some y) xs ys := by
  induction xs generalizing ys with
  | nil => cases ys <;> simp
  | cons x xs ih =>
    simp only [List.mapM_cons, Option.bind_eq_bind, Option.bind_eq_some_iff, ih,
      List.forall₂_cons_left_iff]
    constructor
    · rintro ⟨y, hy, rest, hrest, ⟨⟩⟩
      exact ⟨y, rest, hy, hrest, rfl⟩
    · rintro ⟨y, rest, hy, hrest, rfl⟩
      exact ⟨y, hy, rest, hrest, rfl⟩

theorem listOf?_eq_some {α : Type} {decode : Json → Option α} {means : Json → α → Prop}
    (hmeans : ∀ v a, decode v = some a ↔ means v a) {v : Json} {as : List α} :
    listOf? decode v = some as ↔ Lists means v as := by
  unfold Lists
  cases v with
  | array entries => simp [listOf?, mapM_eq_some_iff, hmeans]
  | _ => simp [listOf?]

/-! ## Reading records -/

theorem projectId?_eq_some {data : Json} {n : Nat} :
    projectId? data = some n ↔ SaysProject data n := by
  by_cases h : IsRecord projectKeys data
  · have hfields : fields? ["_id"] data = some [fieldOf projectKeys "_id" data] :=
      fields?_of_isRecord (by decide) h
    rw [projectId?, hfields]
    cases hid : fieldOf projectKeys "_id" data with
    | none =>
      refine ⟨nofun, fun hmeant => ?_⟩
      rw [hmeant.id] at hid
      cases hid
    | some v =>
      refine id?_eq_some.trans ⟨?_, fun hmeant => ?_⟩
      · rintro ⟨rfl, hbounded⟩
        exact ⟨h, hid, hbounded⟩
      · rw [hmeant.id] at hid
        exact ⟨(Option.some.inj hid).symm, hmeant.bounded⟩
  · have hfields : fields? ["_id"] data = none := fields?_of_not_isRecord (by decide) h
    rw [projectId?, hfields]
    exact ⟨nofun, fun hmeant => (h hmeant.isRecord).elim⟩

theorem menuItem?_of_isRecord {entry : Json} (h : IsRecord itemKeys entry) :
    menuItem? entry =
      (idOrZero? (fieldOf itemKeys "_id" entry)).bind fun id =>
        (text? (fieldOf itemKeys "title" entry)).bind fun title =>
          (text? (fieldOf itemKeys "path" entry)).bind fun path =>
            (text? (fieldOf itemKeys "method" entry)).bind fun method =>
              some ⟨id, title, path, method⟩ := by
  have hfields := fields?_of_isRecord (by decide) h
  unfold itemKeys at hfields
  rw [menuItem?, hfields]
  rfl

theorem menuItem?_eq_some {entry : Json} {i : MenuItem} :
    menuItem? entry = some i ↔ SaysItem entry i := by
  by_cases h : IsRecord itemKeys entry
  · simp only [menuItem?_of_isRecord h, Option.bind_eq_some_iff, idOrZero?_eq_some, text?_eq_some]
    constructor
    · rintro ⟨_, hid, _, htitle, _, hpath, _, hmethod, ⟨⟩⟩
      exact ⟨h, hid, htitle, hpath, hmethod⟩
    · rintro ⟨_, hid, htitle, hpath, hmethod⟩
      exact ⟨_, hid, _, htitle, _, hpath, _, hmethod, rfl⟩
  · have hfields := fields?_of_not_isRecord (by decide) h
    unfold itemKeys at hfields
    rw [menuItem?, hfields]
    exact ⟨nofun, fun hmeant => (h hmeant.isRecord).elim⟩

theorem items?_eq_some {field : Option Json} {items : Option (List MenuItem)} :
    optional? (listOf? menuItem?) field = some items ↔ Nullable (Lists SaysItem) field items :=
  optional?_eq_some (fun _ _ => listOf?_eq_some fun _ _ => menuItem?_eq_some) rfl

theorem menuEntry?_of_isRecord {entry : Json} (h : IsRecord entryKeys entry) :
    menuEntry? entry =
      (idOrZero? (fieldOf entryKeys "_id" entry)).bind fun id =>
        (text? (fieldOf entryKeys "name" entry)).bind fun name =>
          (text? (fieldOf entryKeys "title" entry)).bind fun title =>
            (text? (fieldOf entryKeys "path" entry)).bind fun path =>
              (text? (fieldOf entryKeys "method" entry)).bind fun method =>
                (optional? (listOf? menuItem?) (fieldOf entryKeys "list" entry)).bind fun list =>
                  some ⟨id, name, title, path, method, list⟩ := by
  have hfields := fields?_of_isRecord (by decide) h
  unfold entryKeys at hfields
  rw [ menuEntry?, hfields]
  rfl

theorem menuEntry?_eq_some {entry : Json} {e : MenuEntry} :
    menuEntry? entry = some e ↔ SaysEntry entry e := by
  by_cases h : IsRecord entryKeys entry
  · simp only [menuEntry?_of_isRecord h, Option.bind_eq_some_iff, idOrZero?_eq_some, text?_eq_some,
      items?_eq_some]
    constructor
    · rintro ⟨_, hid, _, hname, _, htitle, _, hpath, _, hmethod, _, hlist, ⟨⟩⟩
      exact ⟨h, hid, hname, htitle, hpath, hmethod, hlist⟩
    · rintro ⟨_, hid, hname, htitle, hpath, hmethod, hlist⟩
      exact ⟨_, hid, _, hname, _, htitle, _, hpath, _, hmethod, _, hlist, rfl⟩
  · have hfields := fields?_of_not_isRecord (by decide) h
    unfold entryKeys at hfields
    rw [ menuEntry?, hfields]
    exact ⟨nofun, fun hmeant => (h hmeant.isRecord).elim⟩

theorem menu?_eq_some {data : Json} {menu : List MenuEntry} :
    menu? data = some menu ↔ SaysMenu data menu :=
  listOf?_eq_some fun _ _ => menuEntry?_eq_some

theorem parameter?_of_isRecord {entry : Json} (h : IsRecord parameterKeys entry) :
    parameter? entry =
      (text? (fieldOf parameterKeys "name" entry)).bind fun name =>
        (text? (fieldOf parameterKeys "type" entry)).bind fun type =>
          (text? (fieldOf parameterKeys "desc" entry)).bind fun description =>
            some ⟨name.getD "", kindOf type, isRequired (fieldOf parameterKeys "required" entry),
              description.getD ""⟩ := by
  have hfields := fields?_of_isRecord (by decide) h
  unfold parameterKeys at hfields
  rw [parameter?, hfields]
  rfl

theorem parameter?_eq_some {entry : Json} {p : Parameter} :
    parameter? entry = some p ↔ SaysParameter entry p := by
  by_cases h : IsRecord parameterKeys entry
  · simp only [parameter?_of_isRecord h, Option.bind_eq_some_iff]
    constructor
    · rintro ⟨name, hname, type, htype, description, hdescription, ⟨⟩⟩
      exact ⟨h, textField_iff.mp ⟨name, hname, rfl⟩, kindField_iff.mp ⟨type, htype, rfl⟩,
        isRequired_iff, textField_iff.mp ⟨description, hdescription, rfl⟩⟩
    · rintro ⟨_, hname, hkind, hrequired, hdescription⟩
      obtain ⟨name, hname, hpname⟩ := textField_iff.mpr hname
      obtain ⟨type, htype, hpkind⟩ := kindField_iff.mpr hkind
      obtain ⟨description, hdescription, hpdescription⟩ := textField_iff.mpr hdescription
      rw [← isRequired_iff, ← Bool.eq_iff_iff] at hrequired
      refine ⟨name, hname, type, htype, description, hdescription, ?_⟩
      rw [← hpname, ← hpkind, ← hrequired, ← hpdescription]
  · have hfields := fields?_of_not_isRecord (by decide) h
    unfold parameterKeys at hfields
    rw [parameter?, hfields]
    exact ⟨nofun, fun hmeant => (h hmeant.isRecord).elim⟩

theorem parameters?_eq_some {field : Option Json} {ps : List Parameter} :
    parameters? field = some ps ↔ ListField field ps := by
  simp only [parameters?, Option.map_eq_some_iff, eq_comm (b := ps)]
  exact optional?_getD_iff (fun _ _ => listOf?_eq_some fun _ _ => parameter?_eq_some) rfl

theorem detail?_of_isRecord (requested : Nat) {data : Json} (h : IsRecord detailKeys data) :
    detail? requested data =
      (optional? id? (fieldOf detailKeys "_id" data)).bind fun id =>
        (text? (fieldOf detailKeys "title" data)).bind fun title =>
          (text? (fieldOf detailKeys "path" data)).bind fun path =>
            (text? (fieldOf detailKeys "method" data)).bind fun method =>
              (parameters? (fieldOf detailKeys "req_params" data)).bind fun pathParameters =>
                (parameters? (fieldOf detailKeys "req_query" data)).bind fun queryParameters =>
                  (text? (fieldOf detailKeys "req_body_other" data)).bind fun request =>
                    (text? (fieldOf detailKeys "res_body" data)).bind fun response =>
                      some ⟨id.getD requested, title.getD "", path.getD "", method.getD "",
                        pathParameters, queryParameters, request, response⟩ := by
  have hfields := fields?_of_isRecord (by decide) h
  unfold detailKeys at hfields
  rw [detail?, hfields]
  rfl

theorem detail?_eq_some {requested : Nat} {data : Json} {d : Detail} :
    detail? requested data = some d ↔ SaysRecord requested data d := by
  by_cases h : IsRecord detailKeys data
  · simp only [detail?_of_isRecord requested h, Option.bind_eq_some_iff]
    constructor
    · rintro ⟨id, hid, title, htitle, path, hpath, method, hmethod, pathParameters,
        hpathParameters, queryParameters, hqueryParameters, request, hrequest, response,
        hresponse, ⟨⟩⟩
      exact ⟨h, idField_iff.mp ⟨id, hid, rfl⟩, textField_iff.mp ⟨title, htitle, rfl⟩,
        textField_iff.mp ⟨path, hpath, rfl⟩, textField_iff.mp ⟨method, hmethod, rfl⟩,
        parameters?_eq_some.mp hpathParameters, parameters?_eq_some.mp hqueryParameters,
        text?_eq_some.mp hrequest, text?_eq_some.mp hresponse⟩
    · intro hmeant
      obtain ⟨id, hid, hdid⟩ := idField_iff.mpr hmeant.id
      obtain ⟨title, htitle, hdtitle⟩ := textField_iff.mpr hmeant.title
      obtain ⟨path, hpath, hdpath⟩ := textField_iff.mpr hmeant.path
      obtain ⟨method, hmethod, hdmethod⟩ := textField_iff.mpr hmeant.method
      refine ⟨id, hid, title, htitle, path, hpath, method, hmethod,
        _, parameters?_eq_some.mpr hmeant.pathParameters,
        _, parameters?_eq_some.mpr hmeant.queryParameters,
        _, text?_eq_some.mpr hmeant.requestBody, _, text?_eq_some.mpr hmeant.responseBody, ?_⟩
      rw [← hdid, ← hdtitle, ← hdpath, ← hdmethod]
  · have hfields := fields?_of_not_isRecord (by decide) h
    unfold detailKeys at hfields
    rw [detail?, hfields]
    exact ⟨nofun, fun hmeant => (h hmeant.isRecord).elim⟩

end Payload

end ApiTypings
