import ApiTypings.Category
import ApiTypings.Proofs.TextLaws
import ApiTypings.Proofs.UniqueKeys
import Mathlib.Data.List.Induction
import Mathlib.Data.List.Perm.Basic

/-!
# What the categories hold

An entry of the menu stands for some interfaces and files them under one name. The index
groups what the entries contribute by that name. Grouping is one fold, and everything about
the index follows from what one contribution does to the names, to the interfaces under a
name, and to the interfaces as a whole.

The entries without a list contribute together, after all others, whatever their places in
the menu are.
-/

namespace ApiTypings

namespace MenuEntry

/-- The interfaces of an entry: those it lists, or itself. -/
def items (e : MenuEntry) : List MenuItem := e.list.getD [⟨e.id, e.title, e.path, e.method⟩]

/-- The name under which an entry files its interfaces. -/
def category (e : MenuEntry) : String :=
  if e.list = none ∨ Text.trim (e.name.getD "") = "" then Category.uncategorized
  else Text.trim (e.name.getD "")

def summaries (e : MenuEntry) : List Summary :=
  e.items.map fun i => ⟨i.id, i.title.getD "", i.path.getD "", i.method.getD "", e.category⟩

theorem category_of_mem_summaries {e : MenuEntry} {s : Summary} (h : s ∈ e.summaries) :
    s.category = e.category := by
  obtain ⟨i, _, rfl⟩ := List.mem_map.mp h
  rfl

/-- No entry files under an empty name or under one with blanks at its ends. -/
theorem category_trimmed (e : MenuEntry) :
    e.category ≠ "" ∧ Text.trim e.category = e.category := by
  unfold category
  split
  · decide
  · next h => exact ⟨fun hempty => h (.inr hempty), Text.trim_trim _⟩

end MenuEntry

namespace Category

def withList (menu : List MenuEntry) : List MenuEntry := menu.filter (·.list.isSome)

def withoutList (menu : List MenuEntry) : List MenuEntry := menu.filter (·.list.isNone)

theorem category_of_mem_withoutList {menu : List MenuEntry} {e : MenuEntry}
    (h : e ∈ withoutList menu) : e.category = uncategorized := by
  have hlist : e.list = none := by simpa using (List.mem_filter.mp h).2
  exact if_pos (.inl hlist)

/-! ## Contributions -/

/-- What is contributed under which name, in the order in which it is merged. -/
def contributions (menu : List MenuEntry) : List (String × List Summary) :=
  (withList menu).map (fun e => (e.category, e.summaries)) ++
    if withoutList menu = [] then []
    else [(uncategorized, (withoutList menu).flatMap MenuEntry.summaries)]

def group (parts : List (String × List Summary)) : List Category :=
  parts.foldl (fun done part => extend part.1 part.2 done) []

theorem nameOf_eq {e : MenuEntry} (h : e.list ≠ none) : nameOf e = e.category := by
  have hempty : Text.trim "" = "" := by decide
  unfold nameOf MenuEntry.category
  cases e.name with
  | none => simp [hempty]
  | some name => simp [h, Text.trim_eq_empty_iff]

theorem listed_eq (menu : List MenuEntry) :
    listed menu = (withList menu).map fun e => (e.category, e.summaries) := by
  unfold listed withList
  induction menu with
  | nil => rfl
  | cons e menu ih =>
    cases hlist : e.list with
    | none => simp [hlist, ih]
    | some items =>
      have hname := nameOf_eq (e := e) (by simp [hlist])
      simp [hlist, ih, hname, MenuEntry.summaries, MenuEntry.items, ofItem, summarize]

theorem loose_eq (menu : List MenuEntry) :
    loose menu = (withoutList menu).flatMap MenuEntry.summaries := by
  unfold loose
  rw [← withoutList, List.map_eq_flatMap]
  apply List.flatMap_congr
  intro e he
  have hlist : e.list = none := by simpa using (List.mem_filter.mp he).2
  have hcategory := category_of_mem_withoutList he
  simp [ofLoose, summarize, MenuEntry.summaries, MenuEntry.items, hlist, hcategory]

theorem index_eq_group (menu : List MenuEntry) : index menu = group (contributions menu) := by
  have hnone : (loose menu).isEmpty = true ↔ withoutList menu = [] := by
    simp [loose, withoutList]
  unfold index contributions group
  rw [List.foldl_append, ← listed_eq]
  by_cases h : withoutList menu = []
  · rw [if_pos h, if_pos (hnone.mpr h)]
    rfl
  · rw [if_neg h, if_neg (mt hnone.mp h), loose_eq]
    rfl

/-! ## One contribution -/

/-- The interfaces of the first category with a name. -/
def interfacesOf (name : String) : List Category → List Summary
  | [] => []
  | c :: rest => if c.name = name then c.interfaces else interfacesOf name rest

theorem interfacesOf_of_mem {categories : List Category}
    (hnames : (categories.map (·.name)).Nodup) {c : Category} (hc : c ∈ categories) :
    interfacesOf c.name categories = c.interfaces := by
  induction categories with
  | nil => cases hc
  | cons d rest ih =>
    obtain ⟨hfirst, hrest⟩ := List.nodup_cons.mp hnames
    rcases List.mem_cons.mp hc with rfl | hc
    · exact if_pos rfl
    · have hne : d.name ≠ c.name := fun h => hfirst (List.mem_map.mpr ⟨c, hc, h.symm⟩)
      exact (if_neg hne).trans (ih hrest hc)

/-- A contribution adds its name behind the others, unless it is there. -/
theorem names_extend (name : String) (items : List Summary) (categories : List Category) :
    (extend name items categories).map (·.name) =
      if name ∈ categories.map (·.name) then categories.map (·.name)
      else categories.map (·.name) ++ [name] := by
  induction categories with
  | nil => rfl
  | cons c rest ih =>
    unfold extend
    by_cases h : c.name = name
    · simp [h]
    · simp only [if_neg h, List.map_cons, ih, List.mem_cons, Ne.symm h, false_or]
      split <;> rfl

/-- A contribution goes behind what its own name has, and to no other name. -/
theorem interfacesOf_extend (name other : String) (items : List Summary)
    (categories : List Category) :
    interfacesOf other (extend name items categories) =
      interfacesOf other categories ++ if name = other then items else [] := by
  induction categories with
  | nil => simp [extend, interfacesOf]
  | cons c rest ih =>
    unfold extend
    by_cases h : c.name = name
    · subst h
      by_cases hother : c.name = other <;> simp [interfacesOf, hother]
    · rw [if_neg h]
      by_cases hother : c.name = other
      · subst hother
        simp [interfacesOf, Ne.symm h]
      · simp [interfacesOf, hother, ih]

/-- A contribution loses and duplicates nothing. -/
theorem allInterfaces_extend (name : String) (items : List Summary)
    (categories : List Category) :
    (allInterfaces (extend name items categories)).Perm (allInterfaces categories ++ items) := by
  unfold allInterfaces
  induction categories with
  | nil => simp [extend]
  | cons c rest ih =>
    unfold extend
    split
    · simp only [List.flatMap_cons, List.append_assoc]
      exact List.perm_append_comm.append_left _
    · simp only [List.flatMap_cons, List.append_assoc]
      exact ih.append_left _

/-! ## All contributions -/

theorem group_concat (parts : List (String × List Summary)) (part : String × List Summary) :
    group (parts ++ [part]) = extend part.1 part.2 (group parts) := by
  unfold group
  rw [List.foldl_concat]

/-- The names of a grouping are those contributed to, each where it first occurs. -/
theorem names_group (parts : List (String × List Summary)) :
    (group parts).map (·.name) = (parts.map (·.1)).eraseDups := by
  -- The fold takes the last contribution last, so the induction adds to the end of the list.
  induction parts using List.reverseRecOn with
  | nil => rfl
  | append_singleton parts part ih =>
    rw [group_concat, names_extend, ih, List.map_append, List.map_singleton, eraseDups_concat]
    simp only [List.mem_eraseDups]
    by_cases h : part.1 ∈ parts.map (·.1) <;> simp [h]

theorem nodup_names_group (parts : List (String × List Summary)) :
    ((group parts).map (·.name)).Nodup := by
  rw [names_group]
  exact nodup_eraseDups _

theorem interfacesOf_group (parts : List (String × List Summary)) (name : String) :
    interfacesOf name (group parts) = (parts.filter (·.1 = name)).flatMap (·.2) := by
  induction parts using List.reverseRecOn with
  | nil => rfl
  | append_singleton parts part ih =>
    rw [group_concat, interfacesOf_extend, ih, List.filter_append, List.flatMap_append]
    congr 1
    by_cases h : part.1 = name <;> simp [h]

theorem allInterfaces_group (parts : List (String × List Summary)) :
    (allInterfaces (group parts)).Perm (parts.flatMap (·.2)) := by
  induction parts using List.reverseRecOn with
  | nil => exact .refl _
  | append_singleton parts part ih =>
    rw [group_concat, List.flatMap_append, List.flatMap_singleton]
    exact (allInterfaces_extend _ _ _).trans (ih.append_right _)

/-! ## What a menu contributes -/

/-- Every contribution is made under a name without blanks at its ends, which its interfaces
carry. -/
theorem contributions_named {menu : List MenuEntry} {part : String × List Summary}
    (h : part ∈ contributions menu) :
    (part.1 ≠ "" ∧ Text.trim part.1 = part.1) ∧ ∀ s ∈ part.2, s.category = part.1 := by
  unfold contributions at h
  rcases List.mem_append.mp h with h | h
  · obtain ⟨e, _, rfl⟩ := List.mem_map.mp h
    exact ⟨e.category_trimmed, fun s hs => MenuEntry.category_of_mem_summaries hs⟩
  · split at h
    · cases h
    · rw [List.mem_singleton] at h
      subst h
      refine ⟨(by decide : uncategorized ≠ "" ∧ Text.trim uncategorized = uncategorized), ?_⟩
      intro s hs
      obtain ⟨e, he, hse⟩ := List.mem_flatMap.mp hs
      exact (MenuEntry.category_of_mem_summaries hse).trans (category_of_mem_withoutList he)

theorem contributions_filter (menu : List MenuEntry) (name : String) :
    ((contributions menu).filter (·.1 = name)).flatMap (·.2) =
      ((withList menu).filter (·.category = name)).flatMap MenuEntry.summaries ++
        if name = uncategorized then (withoutList menu).flatMap MenuEntry.summaries else [] := by
  unfold contributions
  rw [List.filter_append, List.flatMap_append, List.filter_map, List.flatMap_map]
  congr 1
  by_cases hloose : withoutList menu = []
  · simp [hloose]
  · by_cases hname : name = uncategorized
    · simp [hloose, hname]
    · simp [hloose, hname, Ne.symm hname]

theorem contributions_names (menu : List MenuEntry) :
    ((contributions menu).map (·.1)).eraseDups =
      ((withList menu).map MenuEntry.category).eraseDups ++
        if uncategorized ∉ (withList menu).map MenuEntry.category ∧ withoutList menu ≠ [] then
          [uncategorized] else [] := by
  have hnames : ((withList menu).map fun e => (e.category, e.summaries)).map (·.1) =
      (withList menu).map MenuEntry.category := List.map_map ..
  unfold contributions
  rw [List.map_append, hnames]
  by_cases hloose : withoutList menu = []
  · simp [hloose]
  · rw [if_neg hloose, List.map_singleton, eraseDups_concat]
    by_cases hmem : uncategorized ∈ (withList menu).map MenuEntry.category
    · rw [if_pos hmem, if_neg fun h => h.1 hmem]
    · rw [if_neg hmem, if_pos ⟨hmem, hloose⟩]

theorem contributions_perm (menu : List MenuEntry) :
    ((contributions menu).flatMap (·.2)).Perm (menu.flatMap MenuEntry.summaries) := by
  have hloose : (if withoutList menu = [] then []
      else [(uncategorized, (withoutList menu).flatMap MenuEntry.summaries)]).flatMap (·.2) =
        (withoutList menu).flatMap MenuEntry.summaries := by
    by_cases h : withoutList menu = [] <;> simp [h]
  have hsplit : (withList menu ++ withoutList menu).Perm menu := by
    have hnot : withoutList menu = menu.filter fun e => !e.list.isSome := by
      simp [withoutList]
    rw [hnot]
    exact List.filter_append_perm _ _
  unfold contributions
  rw [List.flatMap_append, hloose, List.flatMap_map, ← List.flatMap_append]
  exact hsplit.flatMap_right _

/-! ## The index -/

/-- The names of the categories are those of the entries with a list, each where it first
occurs, and then `Uncategorized` if it is new and some entry has no list. They are distinct,
not empty, and have no blanks at their ends. A category holds the interfaces of the entries
with a list that have its name, and `Uncategorized` also those of the entries without one, in
the order of the menu and each under the name of its category. On the whole they are the
interfaces of the menu, up to order. -/
theorem index_files_menu (menu : List MenuEntry) :
    (index menu).map (·.name) =
        ((withList menu).map MenuEntry.category).eraseDups ++
          (if uncategorized ∉ (withList menu).map MenuEntry.category ∧ withoutList menu ≠ [] then
            [uncategorized] else []) ∧
      ((index menu).map (·.name)).Nodup ∧
      (∀ c ∈ index menu,
        (c.name ≠ "" ∧ Text.trim c.name = c.name) ∧
        c.interfaces =
          ((withList menu).filter (·.category = c.name)).flatMap MenuEntry.summaries ++
            (if c.name = uncategorized then (withoutList menu).flatMap MenuEntry.summaries
              else []) ∧
        ∀ s ∈ c.interfaces, s.category = c.name) ∧
      (allInterfaces (index menu)).Perm (menu.flatMap MenuEntry.summaries) := by
  rw [index_eq_group]
  have hnodup := nodup_names_group (contributions menu)
  refine ⟨(names_group _).trans (contributions_names menu), hnodup, ?_,
    (allInterfaces_group _).trans (contributions_perm menu)⟩
  intro c hc
  have hinterfaces := interfacesOf_of_mem hnodup hc
  rw [interfacesOf_group] at hinterfaces
  refine ⟨?_, hinterfaces ▸ contributions_filter menu c.name, ?_⟩
  · have hname : c.name ∈ (group (contributions menu)).map (·.name) := List.mem_map_of_mem hc
    rw [names_group, List.mem_eraseDups] at hname
    obtain ⟨part, hpart, heq⟩ := List.mem_map.mp hname
    exact heq ▸ (contributions_named hpart).1
  · intro s hs
    rw [← hinterfaces] at hs
    obtain ⟨part, hpart, hspart⟩ := List.mem_flatMap.mp hs
    obtain ⟨hpart, hname⟩ := List.mem_filter.mp hpart
    exact ((contributions_named hpart).2 s hspart).trans (of_decide_eq_true hname)

/-- Two categories whose names differ in blanks only, one without a name, and interfaces of
no category before, between and behind them. -/
def mixedMenu : List MenuEntry :=
  [⟨1, none, some "Ping", some "/ping", some "GET", none⟩,
    ⟨10, some " User\t", none, none, none, some [⟨2, some "Log in", some "/login", some "POST"⟩]⟩,
    ⟨3, some "User", none, some "/lost", none, none⟩,
    ⟨11, some "  ", none, none, none, some [⟨4, none, none, none⟩]⟩,
    ⟨12, some "User", none, none, none, some [⟨5, some "Log out", none, none⟩]⟩,
    ⟨6, some "", none, none, none, none⟩]

example : (index mixedMenu).map (fun c => (c.name, c.interfaces.map Summary.id)) =
    [("User", [2, 5]), (uncategorized, [4, 1, 3, 6])] := by decide

end Category

end ApiTypings
