import ApiTypings.Proofs.CategoryIndex

/-!
# What a selection picks

A selection names interfaces by their ids or by their categories. It fails at the first name
that is not there, in the order in which the names are given. If all are there, ids pick one
interface each, in the given order and without repetitions, while categories pick from the
listing and keep its order.

Ids may be repeated among the listed interfaces, and then the last one listed counts. What is
said of ids holds for any categories; what is said of categories holds for the index of a
menu, where the interfaces of a category carry its name.
-/

namespace ApiTypings

/-! ## First occurrences -/

section FirstOccurrences

variable {α β : Type} [DecidableEq α] [DecidableEq β]

theorem eraseDups_of_nodup {xs : List α} (h : xs.Nodup) : xs.eraseDups = xs := by
  induction xs using List.reverseRecOn with
  | nil => rfl
  | append_singleton xs x ih =>
    rw [← List.concat_eq_append, List.nodup_concat] at h
    rw [eraseDups_concat, ih h.2, if_neg h.1]

/-- What is left when repetitions are removed stands in the order of first occurrences. -/
theorem pairwise_idxOf_eraseDups (xs : List α) :
    xs.eraseDups.Pairwise fun x y => xs.idxOf x < xs.idxOf y := by
  induction xs using List.reverseRecOn with
  | nil => exact .nil
  | append_singleton xs x ih =>
    have hbefore : ∀ y ∈ xs.eraseDups, y ∈ xs := fun y hy => List.mem_eraseDups.mp hy
    have hkept : xs.eraseDups.Pairwise
        fun y z => (xs ++ [x]).idxOf y < (xs ++ [x]).idxOf z := by
      refine ih.imp_of_mem ?_
      intro y z hy hz h
      rwa [List.idxOf_append_of_mem (hbefore y hy), List.idxOf_append_of_mem (hbefore z hz)]
    rw [eraseDups_concat]
    split
    · rwa [List.append_nil]
    · next hx =>
      refine List.pairwise_append.mpr ⟨hkept, List.pairwise_singleton _ _, ?_⟩
      intro y hy z hz
      rw [List.mem_singleton.mp hz, List.idxOf_append_of_mem (hbefore y hy),
        List.idxOf_append_of_notMem hx]
      exact Nat.lt_add_right _ (List.idxOf_lt_length_iff.mpr (hbefore y hy))

theorem eraseDups_append_eraseDups (xs ys : List α) :
    (xs.eraseDups ++ ys.eraseDups).eraseDups = (xs ++ ys).eraseDups := by
  induction ys using List.reverseRecOn with
  | nil => simpa using eraseDups_of_nodup (nodup_eraseDups xs)
  | append_singleton ys y ih =>
    rw [← List.append_assoc, eraseDups_concat, eraseDups_concat, ← ih]
    by_cases hy : y ∈ ys
    · simp [hy]
    · rw [if_neg hy, ← List.append_assoc, eraseDups_concat]
      simp [hy]

/-- A function that gives no value twice may be applied before repetitions are removed. -/
theorem eraseDups_filterMap {f : α → Option β}
    (hinjective : ∀ x y z, f x = some z → f y = some z → x = y) (xs : List α) :
    (xs.filterMap f).eraseDups = xs.eraseDups.filterMap f := by
  induction xs using List.reverseRecOn with
  | nil => rfl
  | append_singleton xs x ih =>
    rw [eraseDups_concat, List.filterMap_append, List.filterMap_append, ← ih]
    cases hx : f x with
    | none =>
      have hnone : [x].filterMap f = [] := by simp [hx]
      rw [hnone, List.append_nil]
      split <;> simp [hx]
    | some z =>
      have hsome : [x].filterMap f = [z] := by simp [hx]
      have hmem : z ∈ xs.filterMap f ↔ x ∈ xs := by
        rw [List.mem_filterMap]
        constructor
        · rintro ⟨y, hy, hz⟩
          exact hinjective x y z hx hz ▸ hy
        · intro hmem
          exact ⟨x, hmem, hx⟩
      rw [hsome, eraseDups_concat]
      by_cases hxs : x ∈ xs <;> simp [hmem, hxs, hx]

end FirstOccurrences

namespace Selection

/-! ## The first name that is not there -/

section Missing

variable {κ : Type} [DecidableEq κ] {known names : List κ}

def firstMissing? (known names : List κ) : Option κ := names.find? fun name => !known.contains name

theorem firstMissing?_eq_none :
    firstMissing? known names = none ↔ ∀ name ∈ names, name ∈ known := by
  simp [firstMissing?]

theorem firstMissing?_eq_some {name : κ} :
    firstMissing? known names = some name ↔
      ∃ before after, names = before ++ name :: after ∧ (∀ n ∈ before, n ∈ known) ∧
        name ∉ known := by
  unfold firstMissing?
  rw [List.find?_eq_some_iff_append]
  simp only [Bool.not_eq_true', Bool.not_not, List.contains_iff_mem,
    ← Bool.not_eq_true]
  constructor
  · rintro ⟨hname, before, after, hsplit, hbefore⟩
    exact ⟨before, after, hsplit, hbefore, hname⟩
  · rintro ⟨before, after, hsplit, hbefore, hname⟩
    exact ⟨hname, before, after, hsplit, hbefore⟩

theorem firstMissing?_append (known names more : List κ) :
    firstMissing? known (names ++ more) =
      (firstMissing? known names).or (firstMissing? known more) := List.find?_append

theorem firstMissing?_eraseDups (known names : List κ) :
    firstMissing? known names.eraseDups = firstMissing? known names := by
  induction names using List.reverseRecOn with
  | nil => rfl
  | append_singleton names name ih =>
    rw [eraseDups_concat, firstMissing?_append, firstMissing?_append, ih]
    split
    · next hmem =>
      -- If the repeated name is missing, then an earlier one was missing before it.
      cases hfirst : firstMissing? known names with
      | some n => rfl
      | none =>
        have hknown : name ∈ known := firstMissing?_eq_none.mp hfirst name hmem
        simp [firstMissing?, hknown]
    · rfl

end Missing

/-- The outcome of a selection by names that all have to be known. -/
def outcome {κ : Type} (error : κ → SelectionError) (missing : Option κ) (picked : List Summary) :
    Except SelectionError (List Summary) :=
  match missing with
  | some name => .error (error name)
  | none => .ok picked

section Outcome

variable {κ : Type} {error : κ → SelectionError} {missing : Option κ} {picked : List Summary}

theorem outcome_eq_ok {r : List Summary} :
    outcome error missing picked = .ok r ↔ missing = none ∧ picked = r := by
  cases missing <;> simp [outcome]

theorem outcome_eq_error {e : SelectionError} :
    outcome error missing picked = .error e ↔ ∃ name, missing = some name ∧ e = error name := by
  cases missing <;> simp [outcome, eq_comm]

end Outcome

/-! ## Ids -/

/-- An interface behind which no other with its id is listed. -/
def LastListed (listed : List Summary) (s : Summary) : Prop :=
  ∃ before after, listed = before ++ s :: after ∧ ∀ t ∈ after, t.id ≠ s.id

theorem lastWithId?_eq_some {listed : List Summary} {id : Nat} {s : Summary} :
    lastWithId? id listed = some s ↔ s.id = id ∧ LastListed listed s := by
  unfold lastWithId? LastListed
  rw [List.find?_eq_some_iff_append]
  simp only [beq_iff_eq, Bool.not_eq_true', beq_eq_false_iff_ne, List.reverse_eq_append_iff,
    List.reverse_cons, List.append_assoc, List.singleton_append]
  constructor
  · rintro ⟨rfl, after, before, hsplit, hafter⟩
    refine ⟨rfl, before.reverse, after.reverse, hsplit, ?_⟩
    intro t ht
    exact hafter t (List.mem_reverse.mp ht)
  · rintro ⟨rfl, before, after, rfl, hafter⟩
    refine ⟨rfl, after.reverse, before.reverse, by simp, ?_⟩
    intro t ht
    exact hafter t (List.mem_reverse.mp ht)

theorem lastWithId?_eq_none {listed : List Summary} {id : Nat} :
    lastWithId? id listed = none ↔ id ∉ listed.map (·.id) := by
  simp [lastWithId?]

theorem pick_eq (listed : List Summary) (ids : List Nat) :
    pick listed ids = outcome .unknownInterface (firstMissing? (listed.map (·.id)) ids)
      (ids.filterMap (lastWithId? · listed)) := by
  induction ids with
  | nil => rfl
  | cons id ids ih =>
    rw [pick]
    cases hid : lastWithId? id listed with
    | none =>
      have hmissing : id ∉ listed.map (·.id) := lastWithId?_eq_none.mp hid
      have hfirst : firstMissing? (listed.map (·.id)) (id :: ids) = some id :=
        firstMissing?_eq_some.mpr ⟨[], ids, rfl, List.forall_mem_nil _, hmissing⟩
      rw [hfirst]
      rfl
    | some s =>
      have hknown : id ∈ listed.map (·.id) := by
        by_contra h
        rw [lastWithId?_eq_none.mpr h] at hid
        cases hid
      have hfirst : firstMissing? (listed.map (·.id)) (id :: ids) =
          firstMissing? (listed.map (·.id)) ids :=
        List.find?_cons_of_neg (by simpa using hknown)
      rw [ih, hfirst, List.filterMap_cons_some (f := (lastWithId? · listed)) hid]
      cases firstMissing? (listed.map (·.id)) ids <;> rfl

theorem resolve_byId (categories : List Category) (ids : List Nat) :
    resolve categories (.byId ids) =
      outcome .unknownInterface
        (firstMissing? ((Category.allInterfaces categories).map (·.id)) ids)
        (ids.eraseDups.filterMap (lastWithId? · (Category.allInterfaces categories))) := by
  rw [resolve, pick_eq, firstMissing?_eraseDups]

/-- Ids of which none is missing pick one interface each. -/
theorem map_id_filterMap_lastWithId? {listed : List Summary} {ids : List Nat}
    (h : ∀ id ∈ ids, id ∈ listed.map (·.id)) :
    (ids.filterMap (lastWithId? · listed)).map (·.id) = ids := by
  induction ids with
  | nil => rfl
  | cons id ids ih =>
    rw [List.forall_mem_cons] at h
    cases hid : lastWithId? id listed with
    | none => exact (lastWithId?_eq_none.mp hid h.1).elim
    | some s =>
      rw [List.filterMap_cons_some (f := (lastWithId? · listed)) hid, List.map_cons, ih h.2,
        (lastWithId?_eq_some.mp hid).1]

/-- Where no id is repeated, every interface is picked by its id. -/
theorem filterMap_lastWithId?_of_nodup {listed : List Summary} (h : (listed.map (·.id)).Nodup) :
    (listed.map (·.id)).filterMap (lastWithId? · listed) = listed := by
  have hfound : ∀ s ∈ listed, lastWithId? s.id listed = some s := by
    intro s hs
    obtain ⟨before, after, rfl⟩ := List.append_of_mem hs
    refine lastWithId?_eq_some.mpr ⟨rfl, before, after, rfl, ?_⟩
    intro t ht heq
    rw [List.map_append, List.map_cons] at h
    have hafter := (List.nodup_cons.mp (List.nodup_append.mp h).2.1).1
    exact hafter (List.mem_map.mpr ⟨t, ht, heq⟩)
  rw [List.filterMap_map]
  exact (List.filterMap_congr hfound).trans List.filterMap_some

/-- Selections by ids that are made one after the other are one selection, with an
interface that both pick counted where it is first picked. -/
theorem resolve_byId_append (categories : List Category) (ids more : List Nat) :
    resolve categories (.byId (ids ++ more)) = (do
      let picked ← resolve categories (.byId ids)
      let added ← resolve categories (.byId more)
      return (picked ++ added).eraseDups) := by
  rw [resolve_byId, resolve_byId, resolve_byId, firstMissing?_append]
  cases firstMissing? ((Category.allInterfaces categories).map (·.id)) ids with
  | some id => rfl
  | none =>
    cases firstMissing? ((Category.allInterfaces categories).map (·.id)) more with
    | some id => rfl
    | none =>
      refine congrArg Except.ok ?_
      rw [← List.filterMap_append, eraseDups_filterMap, eraseDups_append_eraseDups]
      intro id id' s hs hs'
      exact (lastWithId?_eq_some.mp hs).1.symm.trans (lastWithId?_eq_some.mp hs').1

/-- A selection by ids succeeds exactly if every id is listed, and otherwise it fails at the
first that is not. It picks the interfaces with the given ids in the order in which these
first occur, each once, and of several with one id the last one listed. If all listed ids are
different, they pick the whole listing. -/
theorem byId_picks_last_listed (categories : List Category) (ids : List Nat) :
    let listed := Category.allInterfaces categories
    ((∃ picked, resolve categories (.byId ids) = .ok picked) ↔
        ∀ id ∈ ids, ∃ s ∈ listed, s.id = id) ∧
      (∀ picked, resolve categories (.byId ids) = .ok picked →
        picked.map (·.id) = ids.eraseDups ∧
          (picked.map (·.id)).Pairwise (fun id id' => ids.idxOf id < ids.idxOf id') ∧
          ∀ s ∈ picked, LastListed listed s) ∧
      (∀ e, resolve categories (.byId ids) = .error e →
        ∃ before id after, e = .unknownInterface id ∧ ids = before ++ id :: after ∧
          (∀ i ∈ before, ∃ s ∈ listed, s.id = i) ∧ ¬∃ s ∈ listed, s.id = id) ∧
      ((listed.map (·.id)).Nodup →
        resolve categories (.byId (listed.map (·.id))) = resolve categories .all) ∧
      ∀ more, resolve categories (.byId (ids ++ more)) = (do
        let picked ← resolve categories (.byId ids)
        let added ← resolve categories (.byId more)
        return (picked ++ added).eraseDups) := by
  intro listed
  have hmem : ∀ id, (∃ s ∈ listed, s.id = id) ↔ id ∈ listed.map (·.id) :=
    fun id => List.mem_map.symm
  simp only [hmem]
  refine ⟨?_, ?_, ?_, ?_, resolve_byId_append categories ids⟩
  · rw [resolve_byId, ← firstMissing?_eq_none]
    simp only [outcome_eq_ok, exists_and_left, exists_eq', and_true]
    rfl
  · intro picked hpicked
    rw [resolve_byId, outcome_eq_ok, firstMissing?_eq_none] at hpicked
    obtain ⟨hknown, rfl⟩ := hpicked
    have hlisted : ∀ id ∈ ids.eraseDups, id ∈ listed.map (·.id) :=
      fun id hid => hknown id (List.mem_eraseDups.mp hid)
    rw [map_id_filterMap_lastWithId? hlisted]
    refine ⟨rfl, pairwise_idxOf_eraseDups ids, ?_⟩
    intro s hs
    obtain ⟨id, _, hid⟩ := List.mem_filterMap.mp hs
    exact (lastWithId?_eq_some.mp hid).2
  · intro e he
    rw [resolve_byId, outcome_eq_error] at he
    obtain ⟨id, hid, rfl⟩ := he
    obtain ⟨before, after, hsplit, hbefore, hmissing⟩ := firstMissing?_eq_some.mp hid
    exact ⟨before, id, after, rfl, hsplit, hbefore, hmissing⟩
  · intro hnodup
    have hnone : firstMissing? (listed.map (·.id)) (listed.map (·.id)) = none :=
      firstMissing?_eq_none.mpr fun _ h => h
    rw [resolve_byId, hnone, eraseDups_of_nodup hnodup, filterMap_lastWithId?_of_nodup hnodup]
    rfl

/-- A listing in which one id is repeated across categories. -/
def repeatedId : List Category :=
  [⟨"user", [⟨1, "Log in", "/login", "POST", "user"⟩, ⟨2, "Log out", "/logout", "POST", "user"⟩]⟩,
    ⟨"old", [⟨1, "Sign in", "/signin", "GET", "old"⟩]⟩]

theorem byId_picks_last_listed_repeated :
    (∃ picked, resolve repeatedId (.byId [2, 1, 2]) = .ok picked ∧
      picked.map (·.id) = [2, 1, 2].eraseDups ∧ picked.map (·.title) = ["Log out", "Sign in"] ∧
      ∀ s ∈ picked, LastListed (Category.allInterfaces repeatedId) s) ∧
    resolve repeatedId (.byId [2, 7, 1, 9]) = .error (.unknownInterface 7) ∧
    (∃ before after, [2, 7, 1, 9] = before ++ 7 :: after ∧
      ∀ i ∈ before, ∃ s ∈ Category.allInterfaces repeatedId, s.id = i) ∧
    resolve (repeatedId.take 1) (.byId [1, 2]) = resolve (repeatedId.take 1) .all := by
  have hpicked : resolve repeatedId (.byId [2, 1, 2]) =
      .ok [⟨2, "Log out", "/logout", "POST", "user"⟩, ⟨1, "Sign in", "/signin", "GET", "old"⟩] := rfl
  have hfails : resolve repeatedId (.byId [2, 7, 1, 9]) = .error (.unknownInterface 7) := rfl
  obtain ⟨hids, _, hlast⟩ := (byId_picks_last_listed repeatedId [2, 1, 2]).2.1 _ hpicked
  obtain ⟨before, id, after, hid, hsplit, hbefore, _⟩ :=
    (byId_picks_last_listed repeatedId [2, 7, 1, 9]).2.2.1 _ hfails
  cases hid
  exact ⟨⟨_, hpicked, hids, rfl, hlast⟩, hfails, ⟨before, after, hsplit, hbefore⟩,
    (byId_picks_last_listed (repeatedId.take 1) []).2.2.2.1 (by decide)⟩

/-! ## Categories -/

/-- The interfaces of a category of the index carry its name. -/
theorem category_of_mem_index {menu : List MenuEntry} {c : Category} (hc : c ∈ Category.index menu)
    {s : Summary} (hs : s ∈ c.interfaces) : s.category = c.name := by
  rw [Category.index_eq_group] at hc
  rw [← Category.interfacesOf_of_mem (Category.nodup_names_group _) hc,
    Category.interfacesOf_group] at hs
  obtain ⟨part, hpart, hspart⟩ := List.mem_flatMap.mp hs
  obtain ⟨hpart, hname⟩ := List.mem_filter.mp hpart
  exact ((Category.contributions_named hpart).2 s hspart).trans (of_decide_eq_true hname)

/-- The interfaces that are listed under one of the given names. -/
def listedUnder (names : List String) (listed : List Summary) : List Summary :=
  listed.filter fun s => names.contains s.category

theorem mem_listedUnder {names : List String} {listed : List Summary} {s : Summary} :
    s ∈ listedUnder names listed ↔ s ∈ listed ∧ s.category ∈ names := by
  simp [listedUnder]

theorem listedUnder_congr {names names' : List String} (h : ∀ name, name ∈ names' ↔ name ∈ names)
    (listed : List Summary) : listedUnder names' listed = listedUnder names listed := by
  unfold listedUnder
  congr 1
  funext s
  rw [Bool.eq_iff_iff, List.contains_iff_mem, List.contains_iff_mem]
  exact h s.category

/-- Choosing categories first and then listing is listing first and then choosing. -/
theorem allInterfaces_filter {categories : List Category}
    (h : ∀ c ∈ categories, ∀ s ∈ c.interfaces, s.category = c.name) (names : List String) :
    Category.allInterfaces (categories.filter fun c => names.contains c.name) =
      listedUnder names (Category.allInterfaces categories) := by
  unfold Category.allInterfaces listedUnder
  induction categories with
  | nil => rfl
  | cons c rest ih =>
    rw [List.forall_mem_cons] at h
    have hown : c.interfaces.filter (fun s => names.contains s.category) =
        if names.contains c.name then c.interfaces else [] := by
      split
      · next hc =>
        refine List.filter_eq_self.mpr ?_
        intro s hs
        rw [h.1 s hs, hc]
      · next hc =>
        refine List.filter_eq_nil_iff.mpr ?_
        intro s hs
        rw [h.1 s hs]
        exact hc
    rw [List.flatMap_cons, List.filter_append, hown, ← ih h.2, List.filter_cons]
    split <;> simp

theorem resolve_byCategory (menu : List MenuEntry) (names : List String) :
    resolve (Category.index menu) (.byCategory names) =
      outcome .unknownCategory (firstMissing? ((Category.index menu).map (·.name)) names)
        (listedUnder names (Category.allInterfaces (Category.index menu))) := by
  have hany : (fun name => !(Category.index menu).any (·.name == name)) =
      fun name => !((Category.index menu).map (·.name)).contains name := by
    funext name
    congr 1
    rw [Bool.eq_iff_iff, List.any_eq_true, List.contains_iff_mem, List.mem_map]
    simp only [beq_iff_eq]
  rw [← allInterfaces_filter fun c hc s hs => category_of_mem_index hc hs]
  unfold resolve firstMissing?
  dsimp only
  rw [hany]
  cases names.find? _ <;> rfl

section Disjoint

variable {names more : List String} (h : names.Disjoint more) (listed : List Summary)

theorem listedUnder_append_left (names more : List String) (listed : List Summary) :
    listedUnder names listed =
      (listedUnder (names ++ more) listed).filter fun s => names.contains s.category := by
  unfold listedUnder
  rw [List.filter_filter]
  apply List.filter_congr
  intro s _
  rw [Bool.eq_iff_iff]
  simp +contextual

include h in
theorem listedUnder_append_right :
    listedUnder more listed =
      (listedUnder (names ++ more) listed).filter fun s => !names.contains s.category := by
  unfold listedUnder
  rw [List.filter_filter]
  apply List.filter_congr
  intro s _
  have hapart : s.category ∈ names → s.category ∉ more := fun hnames => h hnames
  rw [Bool.eq_iff_iff]
  simp
  tauto

include h in
/-- What is listed under some names and under others splits what is listed under any. -/
theorem listedUnder_append :
    (listedUnder names listed).Sublist (listedUnder (names ++ more) listed) ∧
      (listedUnder more listed).Sublist (listedUnder (names ++ more) listed) ∧
      (listedUnder names listed).Disjoint (listedUnder more listed) ∧
      (listedUnder (names ++ more) listed).length =
        (listedUnder names listed).length + (listedUnder more listed).length := by
  have hleft := listedUnder_append_left names more listed
  have hright := listedUnder_append_right h listed
  refine ⟨?_, ?_, ?_, ?_⟩
  · rw [hleft]
    exact List.filter_sublist
  · rw [hright]
    exact List.filter_sublist
  · intro s hs hs'
    exact h (mem_listedUnder.mp hs).2 (mem_listedUnder.mp hs').2
  · have hperm := List.filter_append_perm (fun s : Summary => names.contains s.category)
      (listedUnder (names ++ more) listed)
    rw [← hleft, ← hright] at hperm
    rw [← hperm.length_eq, List.length_append]

end Disjoint

/-- A selection by categories of the index of a menu succeeds exactly if every name is that of
a category, and otherwise it fails at the first that is not. It picks from the whole listing
the interfaces whose category is named, so neither order nor repetition of the names matters,
and all names together pick everything. What two lists without a common name pick splits what
both pick together. -/
theorem byCategory_picks_listed_under (menu : List MenuEntry) (names : List String) :
    let categories := Category.index menu
    let known := categories.map (·.name)
    ((∃ picked, resolve categories (.byCategory names) = .ok picked) ↔
        ∀ name ∈ names, name ∈ known) ∧
      (∀ e, resolve categories (.byCategory names) = .error e →
        ∃ before name after, e = .unknownCategory name ∧ names = before ++ name :: after ∧
          (∀ n ∈ before, n ∈ known) ∧ name ∉ known) ∧
      (∀ picked, resolve categories (.byCategory names) = .ok picked →
        (∃ all, resolve categories .all = .ok all ∧
          picked = all.filter fun s => names.contains s.category) ∧
        ∀ names', (∀ name, name ∈ names' ↔ name ∈ names) →
          resolve categories (.byCategory names') = .ok picked) ∧
      resolve categories (.byCategory known) = resolve categories .all ∧
      ∀ more picked added, names.Disjoint more →
        resolve categories (.byCategory names) = .ok picked →
        resolve categories (.byCategory more) = .ok added →
        ∃ both, resolve categories (.byCategory (names ++ more)) = .ok both ∧
          picked.Sublist both ∧ added.Sublist both ∧ picked.Disjoint added ∧
          both.length = picked.length + added.length := by
  intro categories known
  have hresolve : ∀ names, resolve categories (.byCategory names) = _ := resolve_byCategory menu
  have hok : ∀ {names picked}, resolve categories (.byCategory names) = .ok picked ↔
      (∀ name ∈ names, name ∈ known) ∧
        listedUnder names (Category.allInterfaces categories) = picked := by
    intro names picked
    rw [hresolve, outcome_eq_ok, firstMissing?_eq_none]
  refine ⟨?_, ?_, ?_, ?_, ?_⟩
  · simp only [hok, exists_and_left, exists_eq', and_true]
  · intro e he
    rw [hresolve, outcome_eq_error] at he
    obtain ⟨name, hname, rfl⟩ := he
    obtain ⟨before, after, hsplit, hbefore, hmissing⟩ := firstMissing?_eq_some.mp hname
    exact ⟨before, name, after, rfl, hsplit, hbefore, hmissing⟩
  · intro picked hpicked
    obtain ⟨hknown, rfl⟩ := hok.mp hpicked
    refine ⟨⟨_, rfl, rfl⟩, ?_⟩
    intro names' hsame
    exact hok.mpr ⟨fun name hname => hknown name ((hsame name).mp hname),
      listedUnder_congr hsame _⟩
  · refine hok.mpr ⟨fun _ h => h, List.filter_eq_self.mpr ?_⟩
    intro s hs
    obtain ⟨c, hc, hsc⟩ := List.mem_flatMap.mp hs
    rw [category_of_mem_index hc hsc]
    exact List.contains_iff_mem.mpr (List.mem_map_of_mem hc)
  · intro more picked added hdisjoint hpicked hadded
    obtain ⟨hknown, rfl⟩ := hok.mp hpicked
    obtain ⟨hmore, rfl⟩ := hok.mp hadded
    refine ⟨_, hok.mpr ⟨?_, rfl⟩, listedUnder_append hdisjoint _⟩
    intro name hname
    rcases List.mem_append.mp hname with hname | hname
    · exact hknown name hname
    · exact hmore name hname

/-- The names are given against the order of the listing. -/
theorem byCategory_picks_listed_under_mixed :
    let categories := Category.index Category.mixedMenu
    ∃ picked added both, resolve categories (.byCategory ["Uncategorized"]) = .ok picked ∧
      resolve categories (.byCategory ["User", "User"]) = .ok added ∧
      resolve categories (.byCategory ["Uncategorized", "User", "User"]) = .ok both ∧
      picked.map (·.id) = [4, 1, 3, 6] ∧ added.map (·.id) = [2, 5] ∧ picked.Sublist both ∧
      both.length = picked.length + added.length ∧
      resolve categories (.byCategory ["User"]) = .ok added := by
  intro categories
  have hpicked : ∃ picked, resolve categories (.byCategory ["Uncategorized"]) = .ok picked ∧
      picked.map (·.id) = [4, 1, 3, 6] := ⟨_, rfl, by decide⟩
  have hadded : ∃ added, resolve categories (.byCategory ["User", "User"]) = .ok added ∧
      added.map (·.id) = [2, 5] := ⟨_, rfl, by decide⟩
  obtain ⟨picked, hpicked, hpickedIds⟩ := hpicked
  obtain ⟨added, hadded, haddedIds⟩ := hadded
  obtain ⟨both, hboth, hsublist, _, _, hlength⟩ :=
    (byCategory_picks_listed_under Category.mixedMenu ["Uncategorized"]).2.2.2.2
      ["User", "User"] picked added (by simp) hpicked hadded
  have honce := ((byCategory_picks_listed_under Category.mixedMenu
    ["User", "User"]).2.2.1 added hadded).2 ["User"] (by simp)
  exact ⟨picked, added, both, hpicked, hadded, hboth, hpickedIds, haddedIds, hsublist, hlength,
    honce⟩

end Selection

end ApiTypings
