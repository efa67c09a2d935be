import ApiTypings.Proofs.StoreLaws
import Mathlib.Data.String.Basic

/-!
# Directories of a file tree

A path is that of a directory exactly if calls take it and all its components lead on. Making
sure of a directory succeeds exactly if it is there in the end; if it is there before, nothing
changes. If it fails, the directories made on the way are there the next time, and it fails again,
though maybe for another reason: what is a directory, or can be made one, lies in a directory.

The directories above a path are those of its first components. That each of them is a path that
calls take, as the path itself is, needs that it is no longer; its characters are some of those of
the path.
-/

namespace ApiTypings

namespace Path

/-! ## Components of the directories above a path -/

theorem components_noSlash {path c : String} (h : c ∈ components path) :
    c ≠ "" ∧ '/' ∉ c.toList := by
  obtain ⟨hsplit, hne⟩ := List.mem_filter.mp h
  obtain ⟨piece, hpiece, rfl⟩ := List.mem_map.mp hsplit
  refine ⟨by simpa using hne, ?_⟩
  intro hslash
  rw [String.toList_ofList] at hslash
  exact absurd (Text.splitChars_not_sep hpiece _ hslash) (by decide)

/-- Components as they stand in a path that says nothing twice: none is empty, and one of a
dot stands at most at the start of a relative path. -/
structure Plain (absolute : Bool) (ps : List String) : Prop where
  noSlash : ∀ c ∈ ps, c ≠ "" ∧ '/' ∉ c.toList
  tail : ∀ c ∈ ps.tail, c ≠ "."
  head : absolute = true → ps.head? ≠ some "."

theorem Plain.of_append {absolute : Bool} {ps qs : List String} (h : Plain absolute (ps ++ qs)) :
    Plain absolute ps where
  noSlash c hc := h.noSlash c (List.mem_append_left qs hc)
  tail c hc := by
    cases ps with
    | nil => cases hc
    | cons p ps => exact h.tail c (List.mem_append_left qs hc)
  head habsolute := by
    cases ps with
    | nil => simp
    | cons p ps => exact h.head habsolute

theorem components_join_of_noSlash {ps : List String}
    (h : ∀ c ∈ ps, c ≠ "" ∧ '/' ∉ c.toList) : components (Text.join "/" ps) = ps := by
  induction ps with
  | nil => rfl
  | cons p ps ih =>
    have hp := components_of_noSlash (h p (by simp)).1 (h p (by simp)).2
    by_cases hps : ps = []
    · subst hps
      exact hp
    · rw [Text.join_cons_of_ne_nil _ _ hps, components_append, hp,
        ih fun c hc => h c (by simp [hc])]
      rfl

end Path

namespace FileTree

theorem components_pathOf (absolute : Bool) {ps : List String}
    (h : ∀ c ∈ ps, c ≠ "" ∧ '/' ∉ c.toList) : Path.components (pathOf absolute ps) = ps := by
  unfold pathOf
  cases absolute with
  | false => simpa using Path.components_join_of_noSlash h
  | true =>
    have hslash := Path.components_append "" (Text.join "/" ps)
    rw [String.empty_append, Path.components_join_of_noSlash h] at hslash
    exact hslash

theorem isAbsolute_pathOf (absolute : Bool) {ps : List String}
    (h : ∀ c ∈ ps, c ≠ "" ∧ '/' ∉ c.toList) : Path.isAbsolute (pathOf absolute ps) = absolute := by
  unfold pathOf Path.isAbsolute
  cases absolute with
  | true => simp
  | false =>
    cases ps with
    | nil => rfl
    | cons p ps =>
      obtain ⟨hne, hslash⟩ := h p (by simp)
      obtain ⟨c, cs, hp⟩ := List.exists_cons_of_ne_nil (mt String.toList_eq_nil_iff.mp hne)
      have hc : c ≠ '/' := by
        rintro rfl
        exact hslash (by simp [hp])
      cases ps <;> simp [Text.join, hp, hc]

end FileTree

namespace Path

theorem plain_plainComponents (path : String) : Plain (isAbsolute path) (plainComponents path) := by
  unfold plainComponents
  cases hcomponents : components path with
  | nil => exact ⟨by simp, by simp, by simp⟩
  | cons c rest =>
    have hnoSlash : ∀ d ∈ c :: rest, d ≠ "" ∧ '/' ∉ d.toList := fun d hd =>
      components_noSlash (hcomponents ▸ hd)
    simp only
    split
    · refine ⟨?_, ?_, ?_⟩
      · intro d hd
        exact hnoSlash d (by simp [(List.mem_filter.mp hd).1])
      · intro d hd
        simpa using (List.mem_filter.mp (List.mem_of_mem_tail hd)).2
      · intro _ hhead
        simpa using (List.mem_filter.mp (List.mem_of_head? hhead)).2
    · next hdot =>
      refine ⟨?_, ?_, ?_⟩
      · intro d hd
        rcases List.mem_append.mp hd with hd | hd
        · exact hnoSlash d (by simp [List.mem_singleton.mp hd])
        · exact hnoSlash d (by simp [(List.mem_filter.mp hd).1])
      · intro d hd
        simpa using (List.mem_filter.mp hd).2
      · intro habsolute hhead
        simp_all

theorem plainComponents_pathOf {absolute : Bool} {ps : List String} (h : Plain absolute ps) :
    plainComponents (FileTree.pathOf absolute ps) = ps := by
  unfold plainComponents
  rw [FileTree.components_pathOf absolute h.noSlash, FileTree.isAbsolute_pathOf absolute h.noSlash]
  cases ps with
  | nil => rfl
  | cons p ps =>
    have htail : ps.filter (· != ".") = ps := by
      rw [List.filter_eq_self]
      intro c hc
      simpa using h.tail c hc
    have hhead : (p == "." && absolute) = false := by
      rw [Bool.and_eq_false_iff, beq_eq_false_iff_ne]
      cases absolute with
      | false => exact .inr rfl
      | true =>
        left
        rintro rfl
        exact h.head rfl rfl
    simp [htail, hhead]

theorem plainComponents_sublist (path : String) :
    (plainComponents path).Sublist (components path) := by
  unfold plainComponents
  cases components path with
  | nil => exact List.Sublist.refl _
  | cons c rest =>
    simp only
    split
    · exact List.filter_sublist.cons c
    · exact List.filter_sublist.cons_cons c

/-- The path of some components of a path is no longer than it is. -/
theorem pathOf_sublist {path : String} {ps qs : List String}
    (h : plainComponents path = ps ++ qs) :
    (FileTree.pathOf (isAbsolute path) ps).toList.Sublist path.toList := by
  have hjoin (s : String) (hs : ps.Sublist (components s)) :
      (Text.join "/" ps).toList.Sublist s.toList := by
    have hsub := Text.join_sublist "/" (hs.trans List.filter_sublist)
    rw [show "/" = String.singleton '/' from rfl, Text.join_split] at hsub
    exact hsub
  have hps : ps.Sublist (components path) :=
    (h ▸ List.sublist_append_left ps qs).trans (plainComponents_sublist path)
  unfold FileTree.pathOf
  cases habsolute : isAbsolute path with
  | false => simpa using hjoin path hps
  | true =>
    obtain ⟨cs, hcs⟩ : ∃ cs, path.toList = '/' :: cs := by
      unfold isAbsolute at habsolute
      cases hpath : path.toList with
      | nil => simp [hpath] at habsolute
      | cons c cs =>
        rw [hpath] at habsolute
        simp only [List.head?_cons, beq_iff_eq, Option.some.injEq] at habsolute
        exact ⟨cs, by rw [habsolute]⟩
    have hpath : path = "" ++ "/" ++ String.ofList cs := by
      apply String.toList_injective
      simp [hcs]
    have hcomponents : components path = components (String.ofList cs) := by
      rw [hpath, components_append]
      rfl
    rw [hcomponents] at hps
    have hrest := hjoin _ hps
    rw [String.toList_ofList] at hrest
    rw [hcs]
    simpa using hrest

/-- The components that a walk takes note of. -/
def steps (path : String) : List String := (components path).filter (· != ".")

theorem steps_eq (path : String) : steps path = (plainComponents path).filter (· != ".") := by
  unfold steps plainComponents
  cases components path with
  | nil => rfl
  | cons c rest =>
    by_cases hc : c = "."
    · cases isAbsolute path <;> simp [hc]
    · simp [hc]

end Path

namespace FileTree

/-! ## Where paths lead -/

/-- Where the components of a path start from. -/
def start (cwd : Location) (path : String) : Location := if Path.isAbsolute path then [] else cwd

/-- A path that calls take, whatever the tree is. -/
structure Takes (path : String) : Prop where
  noZero : '\x00' ∉ path.toList
  nonempty : path ≠ ""
  bounded : path.utf8ByteSize ≤ maxPath

/-- What a path means whose components but the last lead to a directory. -/
def targetOf (path : String) (l : Location) : Target :=
  match (Path.components path).getLast? with
  | none => .directory l
  | some last =>
    if last == "." then .directory l
    else if last == ".." then .directory l.dropLast
    else .name l last

theorem locate_of_takes {path : String} (h : Takes path) (t : FileTree) (cwd : Location) :
    t.locate cwd path =
      (t.walk (start cwd path) (Path.components path).dropLast).map (targetOf path) := by
  have hempty : path.isEmpty = false := by simpa using h.nonempty
  have hbound : ¬ maxPath < path.utf8ByteSize := Nat.not_lt.mpr h.bounded
  simp only [locate, List.contains_iff_mem, h.noZero, hempty, hbound, if_false, Bool.false_eq_true]
  unfold targetOf start
  cases t.walk _ (Path.components path).dropLast with
  | error e => rfl
  | ok l =>
    simp only [Except.map]
    cases (Path.components path).getLast? with
    | none => rfl
    | some last => simp only; split_ifs <;> rfl

theorem locate_of_not_takes {path : String} (h : ¬ Takes path) (cwd : Location) :
    ∃ e, ∀ t : FileTree, t.locate cwd path = .error e := by
  by_cases hzero : '\x00' ∈ path.toList
  · exact ⟨.zeroCharacter, fun t => by simp [locate, hzero]⟩
  · by_cases hempty : path = ""
    · exact ⟨.notFound, fun t => by simp [locate, hempty]⟩
    · by_cases hlong : maxPath < path.utf8ByteSize
      · exact ⟨.nameTooLong, fun t => by simp [locate, hzero, hempty, hlong]⟩
      · exact (h ⟨hzero, hempty, Nat.le_of_not_lt hlong⟩).elim

theorem walk_append (t : FileTree) (l : Location) (xs ys : List String) :
    t.walk l (xs ++ ys) = (t.walk l xs).bind fun m => t.walk m ys := by
  induction xs generalizing l with
  | nil => rfl
  | cons x xs ih =>
    simp only [List.cons_append, walk]
    cases t.enter l x with
    | ok m => exact ih m
    | error e => rfl

theorem walk_singleton (t : FileTree) (l : Location) (c : String) : t.walk l [c] = t.enter l c := by
  simp only [walk]
  cases t.enter l c <;> rfl

/-- The walk to a path goes through the walk to each first part of it. -/
theorem walk_first {t : FileTree} {l m : Location} {xs ys : List String}
    (h : t.walk l (xs ++ ys) = .ok m) : ∃ k, t.walk l xs = .ok k := by
  rw [walk_append] at h
  cases hxs : t.walk l xs with
  | error e =>
    rw [hxs] at h
    cases h
  | ok k => exact ⟨k, rfl⟩

/-- Components of a dot lead nowhere else. -/
theorem walk_steps (t : FileTree) (l : Location) (cs : List String) :
    t.walk l (cs.filter (· != ".")) = t.walk l cs := by
  induction cs generalizing l with
  | nil => rfl
  | cons c cs ih =>
    by_cases hc : c = "."
    · subst hc
      exact ih l
    · rw [List.filter_cons_of_pos (by simpa using hc)]
      simp only [walk]
      cases t.enter l c with
      | ok m => exact ih m
      | error e => rfl

/-- A path leads to a name in a directory if its last component is a name and the others lead
to that directory. -/
theorem locate_eq_name {t : FileTree} {cwd l : Location} {path name : String}
    (h : t.locate cwd path = .ok (.name l name)) :
    Takes path ∧ name ≠ "." ∧ name ≠ ".." ∧
      ∃ xs, Path.components path = xs ++ [name] ∧ t.walk (start cwd path) xs = .ok l := by
  by_cases htakes : Takes path
  · rw [locate_of_takes htakes] at h
    cases hwalk : t.walk (start cwd path) (Path.components path).dropLast with
    | error e =>
      rw [hwalk] at h
      cases h
    | ok m =>
      rw [hwalk] at h
      simp only [Except.map, Except.ok.injEq, targetOf] at h
      split at h
      · cases h
      · next last hlast =>
        obtain ⟨xs, hxs⟩ := List.getLast?_eq_some_iff.mp hlast
        rw [hxs, List.dropLast_concat] at hwalk
        split_ifs at h with hself hparent
        cases h
        exact ⟨htakes, by simpa using hself, by simpa using hparent, xs, hxs, hwalk⟩
  · obtain ⟨e, he⟩ := locate_of_not_takes htakes cwd
    rw [he] at h
    cases h

/-- The entry of a name in a directory is a directory exactly if it can be entered. -/
theorem enter_name_iff (t : FileTree) (l : Location) {name : String} (hself : name ≠ ".")
    (hparent : name ≠ "..") :
    (∃ m, t.enter l name = .ok m) ↔
      name.utf8ByteSize ≤ maxName ∧ t.find? (l ++ [name]) = some .directory := by
  simp only [enter, beq_eq_false_iff_ne.mpr hself, beq_eq_false_iff_ne.mpr hparent,
    Bool.false_eq_true, if_false]
  by_cases hlong : maxName < name.utf8ByteSize
  · simp [hlong]
  · simp only [hlong, if_false, Nat.not_lt.mp hlong, true_and]
    cases t.find? (l ++ [name]) with
    | none => simp
    | some entry => cases entry <;> simp

/-- A path is that of a directory exactly if all its components lead on. -/
theorem isDirectory_iff (t : FileTree) (cwd : Location) (path : String) :
    t.isDirectory cwd path = true ↔
      Takes path ∧ ∃ l, t.walk (start cwd path) (Path.components path) = .ok l := by
  by_cases htakes : Takes path
  · simp only [isDirectory, lookup, locate_of_takes htakes, htakes, true_and]
    rcases List.eq_nil_or_concat (Path.components path) with hnil | ⟨xs, last, hlast⟩
    · simp [hnil, walk, targetOf, Except.map]
    · rw [List.concat_eq_append] at hlast
      rw [hlast, List.dropLast_concat, walk_append]
      cases t.walk (start cwd path) xs with
      | error e => simp [Except.map, Except.bind]
      | ok l =>
        simp only [Except.map, Except.bind, targetOf, hlast, List.getLast?_concat, walk_singleton]
        by_cases hself : last = "."
        · simp [hself, enter]
        · by_cases hparent : last = ".."
          · simp [hparent, enter]
          · rw [enter_name_iff t l hself hparent]
            simp only [beq_eq_false_iff_ne.mpr hself, beq_eq_false_iff_ne.mpr hparent,
              Bool.false_eq_true, if_false]
            by_cases hlong : maxName < last.utf8ByteSize
            · simp [hlong]
            · simp only [hlong, if_false, Nat.not_lt.mp hlong, true_and]
              cases t.find? (l ++ [last]) with
              | none => simp
              | some entry =>
                cases entry with
                | directory => simp
                | file text => by_cases hslash : Path.endsInSlash path <;> simp [hslash]
  · obtain ⟨e, he⟩ := locate_of_not_takes htakes cwd
    simp [isDirectory, lookup, he, htakes]

/-! ## Making directories -/

/-- Every directory of a tree is one of another tree. -/
def Within (t t' : FileTree) : Prop :=
  ∀ l, t.find? l = some .directory → t'.find? l = some .directory

theorem Within.refl (t : FileTree) : Within t t := fun _ h => h

theorem Within.trans {t t' t'' : FileTree} (h : Within t t') (h' : Within t' t'') :
    Within t t'' := fun l hl => h' l (h l hl)

/-- What is put where there is no directory leaves the directories as they are. -/
theorem within_put (t : FileTree) {l : Location} (hl : l ≠ []) (hfree : t.find? l ≠ some .directory)
    (entry : Entry) : Within t (t.put l entry) := by
  intro k hk
  rw [find?_put t hl, if_neg]
  · exact hk
  · rintro rfl
    exact hfree hk

theorem Within.walk {t t' : FileTree} (h : Within t t') {l m : Location} {cs : List String}
    (hwalk : t.walk l cs = .ok m) : t'.walk l cs = .ok m := by
  induction cs generalizing l with
  | nil => exact hwalk
  | cons c cs ih =>
    have hsame {k : Location} (hk : t.enter l c = .ok k) : t'.enter l c = .ok k := by
      unfold enter at hk ⊢
      split_ifs at hk ⊢
      · exact hk
      · exact hk
      · cases hentry : t.find? (l ++ [c]) with
        | none =>
          rw [hentry] at hk
          cases hk
        | some entry =>
          cases entry with
          | directory =>
            rw [h _ hentry]
            rw [hentry] at hk
            exact hk
          | file text =>
            rw [hentry] at hk
            cases hk
    simp only [FileTree.walk] at hwalk ⊢
    cases hc : t.enter l c with
    | error e =>
      rw [hc] at hwalk
      cases hwalk
    | ok k =>
      rw [hc] at hwalk
      rw [hsame hc]
      exact ih hwalk

theorem Within.isDirectory {t t' : FileTree} (h : Within t t') {cwd : Location} {path : String}
    (hdir : t.isDirectory cwd path = true) : t'.isDirectory cwd path = true := by
  obtain ⟨htakes, l, hl⟩ := (isDirectory_iff t cwd path).mp hdir
  exact (isDirectory_iff t' cwd path).mpr ⟨htakes, l, h.walk hl⟩

/-- What making a directory did, if it did. -/
theorem makeDirectory_eq_ok {t t' : FileTree} {cwd : Location} {path : String}
    (h : t.makeDirectory cwd path = .ok t') :
    ∃ l name, t.locate cwd path = .ok (.name l name) ∧ name.utf8ByteSize ≤ maxName ∧
      t.find? (l ++ [name]) = none ∧ t' = t.put (l ++ [name]) .directory := by
  unfold makeDirectory at h
  split at h
  · cases h
  · cases h
  · next l name hlocate =>
    split_ifs at h with hlong hfree
    cases h
    exact ⟨l, name, hlocate, Nat.le_of_not_lt hlong, by simpa using hfree, rfl⟩

theorem within_of_makeDirectory {t t' : FileTree} {cwd : Location} {path : String}
    (h : t.makeDirectory cwd path = .ok t') : Within t t' := by
  obtain ⟨l, name, _, _, hfree, rfl⟩ := makeDirectory_eq_ok h
  exact within_put t (by simp) (by simp [hfree]) _

/-- What has been made is a directory. -/
theorem isDirectory_of_makeDirectory {t t' : FileTree} {cwd : Location} {path : String}
    (h : t.makeDirectory cwd path = .ok t') : t'.isDirectory cwd path = true := by
  have hwithin := within_of_makeDirectory h
  obtain ⟨l, name, hlocate, hshort, _, rfl⟩ := makeDirectory_eq_ok h
  obtain ⟨htakes, hself, hparent, xs, hxs, hwalk⟩ := locate_eq_name hlocate
  have hmade : (t.put (l ++ [name]) .directory).find? (l ++ [name]) = some .directory := by
    rw [find?_put t (by simp), if_pos rfl]
  obtain ⟨m, hm⟩ := (enter_name_iff _ l hself hparent).mpr ⟨hshort, hmade⟩
  refine (isDirectory_iff _ cwd path).mpr ⟨htakes, m, ?_⟩
  rw [hxs, walk_append, hwithin.walk hwalk]
  exact (walk_singleton _ l name).trans hm

/-- A directory that is there is not made again. -/
theorem makeDirectory_of_isDirectory {t : FileTree} {cwd : Location} {path : String}
    (h : t.isDirectory cwd path = true) : t.makeDirectory cwd path = .error .alreadyExists := by
  obtain ⟨htakes, m, hm⟩ := (isDirectory_iff t cwd path).mp h
  unfold makeDirectory
  rw [locate_of_takes htakes]
  rcases List.eq_nil_or_concat (Path.components path) with hnil | ⟨xs, last, hlast⟩
  · simp [hnil, walk, targetOf, Except.map]
  · rw [List.concat_eq_append] at hlast
    rw [hlast] at hm
    obtain ⟨l, hl⟩ := walk_first hm
    rw [walk_append, hl] at hm
    rw [hlast, List.dropLast_concat, hl]
    simp only [Except.map, targetOf, hlast, List.getLast?_concat]
    by_cases hself : last = "."
    · simp [hself]
    · by_cases hparent : last = ".."
      · simp [hparent]
      · have henter : t.enter l last = .ok m := (walk_singleton t l last).symm.trans hm
        obtain ⟨hshort, hentry⟩ := (enter_name_iff t l hself hparent).mp ⟨m, henter⟩
        simp [hself, hparent, Nat.not_lt.mpr hshort, hentry]

theorem provide_of_isDirectory {t : FileTree} {cwd : Location} {path : String}
    (h : t.isDirectory cwd path = true) : t.provide cwd path = (t, none) := by
  simp [provide, makeDirectory_of_isDirectory h, h]

theorem provideAbove_of_isDirectory {t : FileTree} {cwd : Location} {path : String}
    (h : t.isDirectory cwd path = true) (absolute : Bool) (above : List String) :
    t.provideAbove cwd absolute path above = (t, none) := by
  cases above with
  | nil => exact provide_of_isDirectory h
  | cons c above =>
    unfold provideAbove
    rw [makeDirectory_of_isDirectory h]
    exact provide_of_isDirectory h

/-- Making sure of a directory that is there changes nothing. -/
theorem ensureDirectory_of_isDirectory {t : FileTree} {cwd : Location} {path : String}
    (h : path = "" ∨ t.isDirectory cwd path = true) :
    t.ensureDirectory cwd path = (t, none) := by
  unfold ensureDirectory
  rcases h with rfl | h
  · rfl
  · split
    · rfl
    · exact provideAbove_of_isDirectory h _ _

theorem isDirectory_of_provide {t t' : FileTree} {cwd : Location} {path : String}
    (h : t.provide cwd path = (t', none)) : t'.isDirectory cwd path = true := by
  unfold provide at h
  split at h
  · next made hmade =>
    cases h
    exact isDirectory_of_makeDirectory hmade
  · split at h
    · next hdir =>
      cases h
      exact hdir
    · cases h

theorem isDirectory_of_provideAbove {t t' : FileTree} {cwd : Location} {absolute : Bool}
    {path : String} {above : List String}
    (h : t.provideAbove cwd absolute path above = (t', none)) :
    t'.isDirectory cwd path = true := by
  cases above with
  | nil => exact isDirectory_of_provide h
  | cons c above =>
    unfold provideAbove at h
    split at h
    · split at h
      · exact isDirectory_of_provide h
      · cases h
    · exact isDirectory_of_provide h

/-- A directory that has been made sure of is there. -/
theorem isDirectory_of_ensureDirectory {t t' : FileTree} {cwd : Location} {path : String}
    (h : t.ensureDirectory cwd path = (t', none)) :
    path = "" ∨ t'.isDirectory cwd path = true := by
  unfold ensureDirectory at h
  split at h
  · next hempty => exact .inl (by simpa using hempty)
  · exact .inr (isDirectory_of_provideAbove h)

/-! ## A directory that could not be made -/

/-- A directory above a path: its components lead to where the last one of the path starts. -/
structure Above (parent path : String) : Prop where
  takes : Takes path → Takes parent
  start : ∀ cwd, FileTree.start cwd parent = FileTree.start cwd path
  steps : ∃ last, last ≠ "." ∧ Path.steps path = Path.steps parent ++ [last]

theorem above_pathOf {path last : String} {ps : List String} (hps : ps ≠ [])
    (h : Path.plainComponents path = ps ++ [last]) :
    Above (pathOf (Path.isAbsolute path) ps) path := by
  have hplain := Path.plain_plainComponents path
  rw [h] at hplain
  have hnoSlash := hplain.of_append.noSlash
  have hsub := Path.pathOf_sublist h
  have hlast : last ≠ "." := hplain.tail last (by
    rw [List.tail_append_of_ne_nil hps]
    simp)
  refine ⟨?_, ?_, last, hlast, ?_⟩
  · intro htakes
    refine ⟨fun hzero => htakes.noZero (hsub.mem hzero), ?_, ?_⟩
    · intro hempty
      have hcomponents := components_pathOf (Path.isAbsolute path) hnoSlash
      rw [hempty] at hcomponents
      exact hps hcomponents.symm
    · have hsize := String.utf8Len_le_of_sublist hsub
      rw [← String.utf8ByteSize_ofList, ← String.utf8ByteSize_ofList, String.ofList_toList,
        String.ofList_toList] at hsize
      exact hsize.trans htakes.bounded
  · intro cwd
    unfold FileTree.start
    rw [isAbsolute_pathOf _ hnoSlash]
  · rw [Path.steps_eq, h, List.filter_append, Path.steps, components_pathOf _ hnoSlash]
    simp [hlast]

theorem Above.isDirectory {t : FileTree} {cwd : Location} {parent path : String}
    (h : Above parent path) (htakes : Takes path) {l : Location} {cs : List String}
    (hsteps : Path.steps parent <+: cs.filter (· != "."))
    (hwalk : t.walk (FileTree.start cwd path) cs = .ok l) : t.isDirectory cwd parent = true := by
  obtain ⟨rest, hrest⟩ := hsteps
  rw [← walk_steps, ← hrest] at hwalk
  obtain ⟨k, hk⟩ := walk_first hwalk
  refine (isDirectory_iff t cwd parent).mpr ⟨h.takes htakes, k, ?_⟩
  rw [← walk_steps, h.start]
  exact hk

/-- What is a directory, or can be made one, lies in a directory. -/
theorem Above.isDirectory_of_provide {t : FileTree} {cwd : Location} {parent path : String}
    (h : Above parent path) (hprovide : (t.provide cwd path).2 = none) :
    t.isDirectory cwd parent = true := by
  obtain ⟨last, hlast, hsteps⟩ := h.steps
  unfold provide at hprovide
  split at hprovide
  · next made hmade =>
    obtain ⟨l, name, hlocate, _⟩ := makeDirectory_eq_ok hmade
    obtain ⟨htakes, hself, _, xs, hxs, hwalk⟩ := locate_eq_name hlocate
    refine h.isDirectory htakes ?_ hwalk
    have hboth : Path.steps parent ++ [last] = xs.filter (· != ".") ++ [name] := by
      rw [← hsteps, Path.steps, hxs, List.filter_append]
      simp [hself]
    exact ⟨[], by rw [(List.append_inj' hboth rfl).1, List.append_nil]⟩
  · split at hprovide
    · next hdir =>
      obtain ⟨htakes, l, hwalk⟩ := (isDirectory_iff t cwd path).mp hdir
      refine h.isDirectory htakes ⟨[last], ?_⟩ hwalk
      rw [← hsteps]
      rfl
    · cases hprovide

theorem provide_eq_some {t t' : FileTree} {cwd : Location} {path : String} {error : CallError}
    (h : t.provide cwd path = (t', some error)) : t' = t := by
  unfold provide at h
  split at h
  · cases h
  · split at h <;> cases h
    rfl

theorem provideAbove_of_parent {t : FileTree} {cwd : Location} {absolute : Bool} {path c : String}
    {above : List String}
    (h : t.isDirectory cwd (pathOf absolute (c :: above).reverse) = true) :
    t.provideAbove cwd absolute path (c :: above) = t.provide cwd path := by
  unfold provideAbove
  split
  · rw [provideAbove_of_isDirectory h]
  · rfl

/-- A directory that could not be made cannot be made after what was made of those above. -/
theorem provideAbove_again {t t' : FileTree} {cwd : Location} {absolute : Bool} {path : String}
    {above : List String} {error : CallError} (habsolute : Path.isAbsolute path = absolute)
    (habove : above ≠ [] → ∃ last, Path.plainComponents path = above.reverse ++ [last])
    (h : t.provideAbove cwd absolute path above = (t', some error)) :
    (t'.provideAbove cwd absolute path above).2 ≠ none := by
  -- The induction goes up from the path. If the directory above was made, the second attempt
  -- finds it and ends as the first; if not, there is no directory to make this one in.
  induction above generalizing t t' path error with
  | nil =>
    obtain rfl := provide_eq_some h
    rw [h]
    exact Option.some_ne_none error
  | cons c above ih =>
    obtain ⟨last, hlast⟩ := habove (List.cons_ne_nil c above)
    have hplain : Path.Plain absolute (c :: above).reverse :=
      (habsolute ▸ hlast ▸ Path.plain_plainComponents path).of_append
    have hparent : Above (pathOf absolute (c :: above).reverse) path :=
      habsolute ▸ above_pathOf (by simp) hlast
    have hcomponents : Path.plainComponents (pathOf absolute (c :: above).reverse) =
        above.reverse ++ [c] := (Path.plainComponents_pathOf hplain).trans List.reverse_cons
    have hfirst := h
    unfold provideAbove at hfirst
    split at hfirst
    · split at hfirst
      · next s hs =>
        obtain rfl := provide_eq_some hfirst
        rw [provideAbove_of_parent (isDirectory_of_provideAbove hs), hfirst]
        exact Option.some_ne_none error
      · next s e hs =>
        cases hfirst
        have hagain := ih (isAbsolute_pathOf absolute hplain.noSlash) (fun _ => ⟨c, hcomponents⟩) hs
        unfold provideAbove
        split
        · split
          · next s hs =>
            rw [hs] at hagain
            exact (hagain rfl).elim
          · exact Option.some_ne_none _
        · intro hnone
          rw [provideAbove_of_isDirectory (hparent.isDirectory_of_provide hnone)] at hagain
          exact hagain rfl
    · obtain rfl := provide_eq_some hfirst
      rw [h]
      exact Option.some_ne_none error

theorem ensureDirectory_again {t t' : FileTree} {cwd : Location} {path : String}
    {error : CallError} (h : t.ensureDirectory cwd path = (t', some error)) :
    (t'.ensureDirectory cwd path).2 ≠ none := by
  unfold ensureDirectory at h ⊢
  split at h
  · cases h
  · next hempty =>
    rw [if_neg hempty]
    refine provideAbove_again rfl ?_ h
    intro hne
    rcases List.eq_nil_or_concat (Path.plainComponents path) with hnil | ⟨ps, last, hlast⟩
    · simp [hnil] at hne
    · rw [List.concat_eq_append] at hlast
      exact ⟨last, by simp [hlast]⟩

end FileTree

end ApiTypings
