import ApiTypings.Proofs.Destination
import ApiTypings.Proofs.Directories

/-!
# Steady stores

A store is steady when writing module files into a directory that has been made does not decide
about later writes there: each of them goes as it would have gone right after the directory was
made. Stores in memory are steady, and any steady store stays so when it is given faults, since
these refuse the same operations every time.

A file tree is steady because a write of a file leaves the directories as they are, and because
that alone decides whether another file can be written.
-/

namespace ApiTypings

/-- A store on which one attempt tells about the next ones. Once a directory is made it stays, and
whether a module file can be written there depends on its path alone, whatever has been written
there before. A directory that could not be made cannot be made at the next attempt. -/
structure Store.Steady {σ : Type} (s : Store σ) : Prop where
  made : ∀ {state opened later dir}, s.ensureDirectory state dir = (opened, none) →
    s.Reaches dir opened later → s.ensureDirectory later dir = (later, none)
  outcome : ∀ {state opened later dir file path} (text text' : String),
    s.ensureDirectory state dir = (opened, none) → s.Reaches dir opened later →
      Path.ModuleIn dir file path → (s.write later path text).2 = (s.write opened path text').2
  unmade : ∀ {state left dir error}, s.ensureDirectory state dir = (left, some error) →
    (s.ensureDirectory left dir).2 ≠ none

theorem MemoryStore.steady : store.Steady where
  made _ _ := rfl
  outcome _ _ _ _ _ := rfl
  unmade h := by cases h

theorem Store.Reaches.of_withFaults {σ : Type} {s : Store σ} {faults : Faults} {dir : String}
    {state later : σ} (h : (s.withFaults faults).Reaches dir state later) :
    s.Reaches dir state later := by
  induction h with
  | start => exact .start
  | ensured _ ih =>
    unfold Store.withFaults
    cases faults.directory with
    | some cause => exact ih
    | none => exact ih.ensured
  | @wrote later file path text _ hpath ih =>
    unfold Store.withFaults
    cases hfault : faults.write path with
    | some cause => simpa [hfault] using ih
    | none => simpa [hfault] using ih.wrote text hpath

/-- Refusing the same operations every time keeps a store steady. -/
theorem Store.Steady.withFaults {σ : Type} {s : Store σ} (h : s.Steady) (faults : Faults) :
    (s.withFaults faults).Steady where
  made {state opened later dir} hopened hlater := by
    have hbase := hlater.of_withFaults
    simp only [Store.withFaults] at hopened ⊢
    cases hfault : faults.directory with
    | some cause =>
      rw [hfault] at hopened
      cases hopened
    | none =>
      rw [hfault] at hopened
      exact h.made hopened hbase
  outcome {state opened later dir file path} text text' hopened hlater hpath := by
    have hbase := hlater.of_withFaults
    simp only [Store.withFaults] at hopened ⊢
    cases hdirectory : faults.directory with
    | some cause =>
      rw [hdirectory] at hopened
      cases hopened
    | none =>
      rw [hdirectory] at hopened
      cases faults.write path with
      | some cause => rfl
      | none => exact h.outcome text text' hopened hbase hpath
  unmade {state left dir error} hleft := by
    simp only [Store.withFaults] at hleft ⊢
    cases hfault : faults.directory with
    | some cause => exact Option.some_ne_none _
    | none =>
      rw [hfault] at hleft
      exact h.unmade hleft

theorem Batch.smallBatch_steady (collision : Collision) (refused : String → Option String)
    (moments : Moment → Bool) : (smallBatch collision refused moments).store.Steady :=
  MemoryStore.steady.withFaults ⟨none, refused⟩

namespace FileTree

/-! ## File trees -/

/-- A file is written where there is no directory. -/
theorem writeFile_not_directory {t t' : FileTree} {cwd : Location} {path text : String}
    (h : t.writeFile cwd path text = .ok t') :
    t.find? (Path.resolve cwd path) ≠ some .directory := by
  unfold writeFile at h
  split at h
  · cases h
  · cases h
  · next l name hlocate =>
    split_ifs at h with _ _ hdirectory
    rw [locate_name hlocate]
    exact hdirectory

/-- Writing files leaves the directories as they are. -/
theorem directories_of_write (t : FileTree) (cwd : Location) (path text : String) :
    Within t ((store cwd).write t path text).1 ∧ Within ((store cwd).write t path text).1 t := by
  simp only [store]
  cases hwrite : t.writeFile cwd path text with
  | error e => exact ⟨.refl t, .refl t⟩
  | ok t' =>
    have hfree := writeFile_not_directory hwrite
    obtain ⟨hplace, rfl⟩ := writeFile_ok hwrite
    refine ⟨within_put t hplace hfree _, ?_⟩
    intro k hk
    rw [find?_put t hplace] at hk
    split at hk
    · cases hk
    · exact hk

/-- Once a directory is there, making sure of it and writing module files in it leaves the
directories as they are. -/
theorem directories_of_reaches {cwd : Location} {dir : String} {t later : FileTree}
    (hdir : dir = "" ∨ t.isDirectory cwd dir = true) (h : (store cwd).Reaches dir t later) :
    Within t later ∧ Within later t := by
  induction h with
  | start => exact ⟨.refl t, .refl t⟩
  | @ensured later _ ih =>
    have hthere : dir = "" ∨ later.isDirectory cwd dir = true := hdir.imp_right ih.1.isDirectory
    have hsame : ((store cwd).ensureDirectory later dir).1 = later := by
      simp only [store, ensureDirectory_of_isDirectory hthere]
    rw [hsame]
    exact ih
  | @wrote later file path text _ _ ih =>
    obtain ⟨hto, hfrom⟩ := directories_of_write later cwd path text
    exact ⟨ih.1.trans hto, hfrom.trans ih.2⟩

/-- Whether a module file can be written in a directory depends on the directories alone. -/
theorem write_outcome {t t' : FileTree} {cwd : Location} {dir file path : String}
    (hdir : dir = "" ∨ t.isDirectory cwd dir = true) (hto : Within t t') (hfrom : Within t' t)
    (hpath : Path.ModuleIn dir file path) (text text' : String) :
    ((store cwd).write t' path text').2 = ((store cwd).write t path text).2 := by
  by_cases htakes : Takes path
  · have hstart : start cwd path = start cwd dir := by
      unfold start
      rw [hpath.isAbsolute]
    have hdropLast : (Path.components path).dropLast = Path.components dir := by
      rw [hpath.components, List.dropLast_concat]
    have hwalk : ∃ l, t.walk (start cwd dir) (Path.components dir) = .ok l := by
      rcases hdir with rfl | hdir
      · exact ⟨_, rfl⟩
      · exact ((isDirectory_iff t cwd dir).mp hdir).2
    obtain ⟨l, hl⟩ := hwalk
    have htarget : targetOf path l = .name l file := by
      simp [targetOf, hpath.components, hpath.isName.notSelf, hpath.isName.notParent]
    have hentry : t'.find? (l ++ [file]) = some .directory ↔
        t.find? (l ++ [file]) = some .directory := ⟨hfrom _, hto _⟩
    simp only [store, writeFile, locate_of_takes htakes, hstart, hdropLast, hl, hto.walk hl,
      Except.map, htarget, hentry]
    split_ifs <;> rfl
  · obtain ⟨e, he⟩ := locate_of_not_takes htakes cwd
    simp only [store, writeFile, he]

theorem isDirectory_of_store {t opened : FileTree} {cwd : Location} {dir : String}
    (h : (store cwd).ensureDirectory t dir = (opened, none)) :
    dir = "" ∨ opened.isDirectory cwd dir = true := by
  simp only [store] at h
  cases hensure : t.ensureDirectory cwd dir with
  | mk t' e =>
    rw [hensure] at h
    cases e with
    | none =>
      cases h
      exact isDirectory_of_ensureDirectory hensure
    | some e => cases h

theorem steady (cwd : Location) : (store cwd).Steady where
  made {state opened later dir} hopened hlater := by
    have hdir := isDirectory_of_store hopened
    have hthere := hdir.imp_right (directories_of_reaches hdir hlater).1.isDirectory
    simp only [store, ensureDirectory_of_isDirectory hthere]
    rfl
  outcome {state opened later dir file path} text text' hopened hlater hpath := by
    have hdir := isDirectory_of_store hopened
    obtain ⟨hto, hfrom⟩ := directories_of_reaches hdir hlater
    exact write_outcome hdir hto hfrom hpath text' text
  unmade {state left dir error} hleft := by
    simp only [store] at hleft ⊢
    cases hensure : state.ensureDirectory cwd dir with
    | mk left' e =>
      rw [hensure] at hleft
      cases e with
      | none => cases hleft
      | some e =>
        cases hleft
        exact mt Option.map_eq_none_iff.mp (ensureDirectory_again hensure)

end FileTree

end ApiTypings
