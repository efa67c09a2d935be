import ApiTypings.Json.Basic
import Mathlib.Data.List.Induction
import Mathlib.Data.List.Nodup

/-!
# Repeated keys

An object as written in a text may repeat a key. Merging keeps each key where it first
stands and gives it the value that was written last, at every depth. So a merged object has
unique keys, and looking up a key in it finds what the text says of the key last.
-/

namespace ApiTypings

/-! ## First occurrences -/

section FirstOccurrences

variable {α : Type} [DecidableEq α]

theorem eraseDups_concat (xs : List α) (x : α) :
    (xs ++ [x]).eraseDups = xs.eraseDups ++ if x ∈ xs then [] else [x] := by
  rw [List.eraseDups_append]
  congr 1
  by_cases h : x ∈ xs
  · simp [List.removeAll, h]
  · simp [List.removeAll, h, List.eraseDups_cons]

theorem nodup_eraseDups (xs : List α) : xs.eraseDups.Nodup := by
  induction xs using List.reverseRecOn with
  | nil => exact List.nodup_nil
  | append_singleton xs x ih =>
    rw [eraseDups_concat]
    split
    · rwa [List.append_nil]
    · next h =>
      rw [← List.concat_eq_append]
      exact ih.concat (mt List.mem_eraseDups.mp h)

theorem eraseDups_eq_nil {xs : List α} : xs.eraseDups = [] ↔ xs = [] := by
  cases xs <;> simp [List.eraseDups_cons]

end FirstOccurrences

/-! ## Association lists -/

namespace Assoc

variable {κ α : Type} [DecidableEq κ]

/-- The value that a key was given last. -/
def last? (key : κ) (entries : List (κ × α)) : Option α := find? key entries.reverse

theorem last?_concat (key k : κ) (value : α) (entries : List (κ × α)) :
    last? key (entries ++ [(k, value)]) = if k = key then some value else last? key entries := by
  unfold last?
  rw [List.reverse_append]
  rfl

theorem mem_of_find? {key : κ} {entries : List (κ × α)} {value : α}
    (h : find? key entries = some value) : (key, value) ∈ entries := by
  induction entries with
  | nil => cases h
  | cons e rest ih =>
    unfold find? at h
    split at h
    · next heq =>
      cases h
      rw [← heq]
      exact List.mem_cons_self
    · exact List.mem_cons_of_mem _ (ih h)

theorem isSome_find?_iff {key : κ} {entries : List (κ × α)} :
    (find? key entries).isSome = true ↔ key ∈ entries.map Prod.fst := by
  induction entries with
  | nil => simp [find?]
  | cons e rest ih =>
    unfold find?
    split
    · next heq => simp [heq]
    · next hne => simp [ih, Ne.symm hne]

/-- Where keys are unique, every entry is found. -/
theorem find?_of_mem {key : κ} {entries : List (κ × α)} {value : α}
    (hkeys : (entries.map Prod.fst).Nodup) (h : (key, value) ∈ entries) :
    find? key entries = some value := by
  induction entries with
  | nil => cases h
  | cons e rest ih =>
    obtain ⟨hfirst, hrest⟩ := List.nodup_cons.mp hkeys
    rcases List.mem_cons.mp h with rfl | h
    · exact if_pos rfl
    · have hne : e.1 ≠ key := fun heq => hfirst (List.mem_map.mpr ⟨_, h, heq.symm⟩)
      exact (if_neg hne).trans (ih hrest h)

/-- Putting adds its key behind the others, unless it is there. -/
theorem keys_put (key : κ) (value : α) (entries : List (κ × α)) :
    (put key value entries).map Prod.fst =
      if key ∈ entries.map Prod.fst then entries.map Prod.fst
      else entries.map Prod.fst ++ [key] := by
  induction entries with
  | nil => rfl
  | cons e rest ih =>
    unfold put
    by_cases h : e.1 = key
    · simp [h]
    · simp only [if_neg h, List.map_cons, ih, List.mem_cons, Ne.symm h, false_or]
      split <;> rfl

theorem find?_append (key : κ) (entries entries' : List (κ × α)) :
    find? key (entries ++ entries') = (find? key entries).or (find? key entries') := by
  induction entries with
  | nil => rfl
  | cons e rest ih =>
    rw [List.cons_append, find?, find?]
    split
    · rfl
    · exact ih

/-- An entry of another key is not looked at. -/
theorem find?_append_cons_of_ne {key k : κ} (h : k ≠ key) (value : α)
    (entries entries' : List (κ × α)) :
    find? key (entries ++ (k, value) :: entries') = find? key (entries ++ entries') := by
  rw [find?_append, find?_append, find?, if_neg h]

theorem find?_revalued_of_ne {key k : κ} (h : k ≠ key) (value value' : α)
    (entries entries' : List (κ × α)) :
    find? key (entries ++ (k, value) :: entries') =
      find? key (entries ++ (k, value') :: entries') := by
  rw [find?_append_cons_of_ne h, find?_append_cons_of_ne h]

/-- Two values in an entry that look the same are found to look the same. -/
theorem find?_revalued {β : Type} {key : κ} {value value' : α} {f : Option α → β}
    (h : f (some value) = f (some value')) (entries entries' : List (κ × α)) :
    f (find? key (entries ++ (key, value) :: entries')) =
      f (find? key (entries ++ (key, value') :: entries')) := by
  rw [find?_append, find?_append, find?, find?, if_pos rfl, if_pos rfl]
  cases find? key entries with
  | some found => rfl
  | none => exact h

theorem find?_perm {entries entries' : List (κ × α)} (hkeys : (entries.map Prod.fst).Nodup)
    (hperm : entries.Perm entries') (key : κ) : find? key entries = find? key entries' := by
  have hkeys' : (entries'.map Prod.fst).Nodup := (hperm.map Prod.fst).nodup_iff.mp hkeys
  ext value
  exact ⟨fun h => find?_of_mem hkeys' (hperm.mem_iff.mp (mem_of_find? h)),
    fun h => find?_of_mem hkeys (hperm.mem_iff.mpr (mem_of_find? h))⟩

end Assoc

namespace Json

/-! ## Merging -/

theorem uniqueKeys_concat {α : Type} (members : List (String × α)) (key : String) (value : α) :
    uniqueKeys (members ++ [(key, value)]) = Assoc.put key value (uniqueKeys members) := by
  unfold uniqueKeys
  rw [List.foldl_append]
  rfl

/-- Merging leaves each key once, where it first stands. -/
theorem keys_uniqueKeys {α : Type} (members : List (String × α)) :
    (uniqueKeys members).map Prod.fst = (members.map Prod.fst).eraseDups := by
  -- Merging takes the last member last, so the induction adds to the end of the list.
  induction members using List.reverseRecOn with
  | nil => rfl
  | append_singleton members member ih =>
    rw [uniqueKeys_concat, Assoc.keys_put, ih, List.map_append, List.map_singleton,
      eraseDups_concat]
    simp only [List.mem_eraseDups]
    split
    · rw [List.append_nil]
    · rfl

theorem nodup_keys_uniqueKeys {α : Type} (members : List (String × α)) :
    ((uniqueKeys members).map Prod.fst).Nodup := by
  rw [keys_uniqueKeys]
  exact nodup_eraseDups _

/-- A merged key carries the value that was written last. -/
theorem find?_uniqueKeys {α : Type} (key : String) (members : List (String × α)) :
    Assoc.find? key (uniqueKeys members) = Assoc.last? key members := by
  induction members using List.reverseRecOn with
  | nil => rfl
  | append_singleton members member ih =>
    rw [uniqueKeys_concat, Assoc.find?_put, ih, Assoc.last?_concat]
    simp only [eq_comm]

theorem uniqueItems_eq_map (items : List Json) : uniqueItems items = items.map unique := by
  induction items with
  | nil => rfl
  | cons v rest ih => rw [uniqueItems, ih, List.map_cons]

theorem uniqueMembers_eq_map (members : List (String × Json)) :
    uniqueMembers members = members.map fun m => (m.1, m.2.unique) := by
  induction members with
  | nil => rfl
  | cons m rest ih => rw [uniqueMembers, ih, List.map_cons]

/-- The members of an object whose keys are unique, at every depth. -/
def merged (members : List (String × Json)) : List (String × Json) :=
  uniqueKeys (uniqueMembers members)

theorem keys_merged (members : List (String × Json)) :
    (merged members).map Prod.fst = (members.map Prod.fst).eraseDups := by
  rw [merged, keys_uniqueKeys, uniqueMembers_eq_map, List.map_map]
  rfl

theorem merged_eq_nil {members : List (String × Json)} : merged members = [] ↔ members = [] := by
  rw [← List.map_eq_nil_iff (f := Prod.fst), keys_merged, eraseDups_eq_nil, List.map_eq_nil_iff]

theorem find?_merged (key : String) (members : List (String × Json)) :
    Assoc.find? key (merged members) = (Assoc.last? key members).map unique := by
  rw [merged, find?_uniqueKeys, uniqueMembers_eq_map]
  induction members using List.reverseRecOn with
  | nil => rfl
  | append_singleton members member ih =>
    rw [List.map_append, List.map_singleton, Assoc.last?_concat, Assoc.last?_concat, ih]
    split <;> rfl

theorem unique_eq_object {value : Json} {members : List (String × Json)} :
    value.unique = .object members ↔
      ∃ written, value = .object written ∧ merged written = members := by
  cases value <;> simp [unique, merged]

theorem unique_eq_text {value : Json} {s : String} : value.unique = .text s ↔ value = .text s := by
  cases value <;> simp [unique]

theorem asText?_unique (value : Json) : value.unique.asText? = value.asText? := by
  cases value <;> rfl

end Json

end ApiTypings
