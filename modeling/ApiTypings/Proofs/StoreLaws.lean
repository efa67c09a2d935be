import ApiTypings.Proofs.FileNames
import ApiTypings.Store.FileTree
import ApiTypings.Store.Memory
import Mathlib.Logic.Function.Basic

/-!
# Laws of stores

A store is lawful when its files can be told apart and read back: making a directory
changes no file, a write changes the one file its path leads to, a failed write
changes none, and different names in one directory are different files. Nothing is
said about when an operation fails. Stores in memory and file trees are lawful, and
stay so when they are given faults.
-/

namespace ApiTypings

/-! ## Paths of the files in a directory -/

namespace Path

theorem components_append (d s : String) :
    components (d ++ "/" ++ s) = components d ++ components s := by
  unfold components Text.split
  have hslash : "/".toList = ['/'] := rfl
  rw [String.toList_append, String.toList_append, hslash, List.append_assoc, List.singleton_append,
    Text.splitChars_append (by decide), List.map_append, List.filter_append]

theorem components_of_noSlash {s : String} (hempty : s ≠ "") (hslash : '/' ∉ s.toList) :
    components s = [s] := by
  have hone : Text.splitChars (· == '/') s.toList = [s.toList] := by
    apply Text.splitChars_eq_singleton
    intro c hc
    rw [beq_eq_false_iff_ne]
    rintro rfl
    exact hslash hc
  have hs : s.isEmpty = false := by
    rw [← Bool.not_eq_true, String.isEmpty_iff]
    exact hempty
  unfold components Text.split
  rw [hone]
  simp [hs]

theorem components_of_isName {s : String} (h : IsName s) : components s = [s] :=
  components_of_noSlash h.nonempty h.noSlash

/-- What stands before the names in a directory. -/
def opening (dir : String) : String :=
  match dir.toList.getLast? with
  | none => ""
  | some c => if c == '/' then dir else dir ++ "/"

theorem join_of_isName {s : String} (h : IsName s) (dir : String) :
    join dir s = opening dir ++ s := by
  have hslash : ∀ rest, s.toList ≠ '/' :: rest := by
    intro rest heq
    apply h.noSlash
    simp [heq]
  unfold join opening
  split
  · next rest heq => exact (hslash rest heq).elim
  · cases dir.toList.getLast? with
    | none => exact (String.empty_append).symm
    | some c => simp only; split <;> rfl

/-- The beginning of a path is empty, or a directory followed by a slash. -/
theorem opening_cases (dir : String) :
    (dir = "" ∧ opening dir = "") ∨
      ∃ d, opening dir = d ++ "/" ∧ components d = components dir ∧
        isAbsolute (d ++ "/") = isAbsolute dir := by
  unfold opening
  split
  · next hnone => exact .inl ⟨String.toList_eq_nil_iff.mp (List.getLast?_eq_none_iff.mp hnone), rfl⟩
  · next c hlast =>
    right
    obtain ⟨cs, hcs⟩ := List.getLast?_eq_some_iff.mp hlast
    split
    · next hc =>
      have hdir : dir = String.ofList cs ++ "/" := by
        apply String.toList_injective
        rw [hcs, String.toList_append, String.toList_ofList, beq_iff_eq.mp hc]
        rfl
      refine ⟨String.ofList cs, hdir, ?_, by rw [← hdir]⟩
      have hcomponents := components_append (String.ofList cs) ""
      have hempty : components "" = [] := rfl
      rw [String.append_empty, ← hdir, hempty, List.append_nil] at hcomponents
      exact hcomponents.symm
    · refine ⟨dir, rfl, rfl, ?_⟩
      unfold isAbsolute
      rw [String.toList_append, hcs]
      cases cs <;> rfl

theorem join_injective {dir a b : String} (ha : IsName a) (hb : IsName b)
    (h : join dir a = join dir b) : a = b := by
  rw [join_of_isName ha, join_of_isName hb, String.append_right_inj] at h
  exact h

theorem components_join {s : String} (h : IsName s) (dir : String) :
    components (join dir s) = components dir ++ [s] := by
  rw [join_of_isName h]
  rcases opening_cases dir with ⟨rfl, hopening⟩ | ⟨d, hopening, hcomponents, _⟩
  · rw [hopening, String.empty_append, components_of_isName h]
    rfl
  · rw [hopening, components_append, components_of_isName h, hcomponents]

theorem isAbsolute_join {s : String} (h : IsName s) (dir : String) :
    isAbsolute (join dir s) = isAbsolute dir := by
  rw [join_of_isName h]
  rcases opening_cases dir with ⟨rfl, hopening⟩ | ⟨d, hopening, _, habsolute⟩
  · have hrelative : isAbsolute s = false := by
      unfold isAbsolute
      rw [beq_eq_false_iff_ne]
      intro hhead
      exact h.noSlash (List.mem_of_head? hhead)
    rw [hopening, String.empty_append, hrelative]
    rfl
  · rw [hopening, ← habsolute]
    unfold isAbsolute
    simp only [String.toList_append]
    cases d.toList <;> rfl

/-- A name in a directory leads to the entry of that name. -/
theorem resolve_join {s : String} (h : IsName s) (cwd : List String) (dir : String) :
    resolve cwd (join dir s) = resolve cwd dir ++ [s] := by
  have hfollow (l : List String) : follow l s = l ++ [s] := by
    simp [follow, h.notSelf, h.notParent]
  rw [resolve, components_join h, isAbsolute_join h, List.foldl_append]
  exact hfollow _

end Path

/-! ## Lawful stores -/

/-- The laws of a store whose files can be read back. A path leads to the file `place`
says, and `held` tells what the files of a state hold. -/
structure Store.Lawful {σ κ : Type} [DecidableEq κ] (s : Store σ) (place : String → κ)
    (held : σ → κ → Option String) : Prop where
  /-- Making a directory changes no file, whether it succeeds or not. -/
  directory : ∀ state path, held (s.ensureDirectory state path).1 = held state
  written : ∀ state path text, (s.write state path text).2 = none →
    held (s.write state path text).1 = Function.update (held state) (place path) (some text)
  refused : ∀ state path text, (s.write state path text).2 ≠ none →
    held (s.write state path text).1 = held state
  /-- Different names in a directory are different files. -/
  apart : ∀ dir a b, Path.IsName a → Path.IsName b →
    place (Path.join dir a) = place (Path.join dir b) → a = b

/-- Refusing operations without trying them breaks no law. -/
theorem Store.Lawful.withFaults {σ κ : Type} [DecidableEq κ] {s : Store σ} {place : String → κ}
    {held : σ → κ → Option String} (h : s.Lawful place held) (faults : Faults) :
    (s.withFaults faults).Lawful place held where
  directory state path := by
    simp only [Store.withFaults]
    cases faults.directory with
    | none => exact h.directory state path
    | some cause => rfl
  written state path text := by
    simp only [Store.withFaults]
    cases faults.write path with
    | none => exact h.written state path text
    | some cause =>
      intro hnone
      cases hnone
  refused state path text := by
    simp only [Store.withFaults]
    cases faults.write path with
    | none => exact h.refused state path text
    | some cause =>
      intro _
      rfl
  apart := h.apart

/-- In memory every path is a file of its own. -/
theorem MemoryStore.lawful : store.Lawful id fun files path => Assoc.find? path files where
  directory _ _ := rfl
  written files path text _ := by
    funext k
    simp only [store, id, Assoc.find?_put, Function.update_apply]
  refused _ _ _ h := (h rfl).elim
  apart _ _ _ ha hb h := Path.join_injective ha hb h

/-! ## File trees -/

namespace FileTree

def held (t : FileTree) (l : Location) : Option String :=
  match t.find? l with
  | some (.file text) => some text
  | _ => none

theorem find?_put (t : FileTree) {l : Location} (hl : l ≠ []) (e : Entry) (k : Location) :
    (t.put l e).find? k = if k = l then some e else t.find? k := by
  unfold find? put
  by_cases hk : k = []
  · have hkl : k ≠ l := by
      rintro rfl
      exact hl hk
    simp [hk, hl.symm]
  · simp [hk, Assoc.find?_put]

theorem held_put_file (t : FileTree) {l : Location} (hl : l ≠ []) (text : String) :
    (t.put l (.file text)).held = Function.update t.held l (some text) := by
  funext k
  rw [Function.update_apply]
  unfold held
  rw [find?_put t hl]
  by_cases hk : k = l <;> simp [hk]

theorem held_put_directory (t : FileTree) {l : Location} (hl : l ≠ []) (hfree : t.find? l = none) :
    (t.put l .directory).held = t.held := by
  funext k
  unfold held
  rw [find?_put t hl]
  by_cases hk : k = l <;> simp [hk, hfree]

theorem enter_ok {t : FileTree} {l l' : Location} {c : String} (h : t.enter l c = .ok l') :
    l' = Path.follow l c := by
  unfold enter at h
  unfold Path.follow
  split at h
  · next hself =>
    cases h
    simp [hself]
  · next hself =>
    split at h
    · next hparent =>
      cases h
      simp [hself, hparent]
    · next hparent =>
      split at h
      · cases h
      · split at h <;> cases h
        simp [hself, hparent]

theorem walk_ok {t : FileTree} {l l' : Location} {cs : List String} (h : t.walk l cs = .ok l') :
    l' = cs.foldl Path.follow l := by
  induction cs generalizing l with
  | nil =>
    cases h
    rfl
  | cons c cs ih =>
    unfold walk at h
    split at h
    · next m hm =>
      rw [ih h, enter_ok hm]
      rfl
    · cases h

/-- A path that leads to a name in a directory is resolved to it. -/
theorem locate_name {t : FileTree} {cwd l : Location} {path name : String}
    (h : t.locate cwd path = .ok (.name l name)) : Path.resolve cwd path = l ++ [name] := by
  simp only [locate] at h
  unfold Path.resolve
  generalize (if Path.isAbsolute path then [] else cwd) = start at h ⊢
  -- a path that holds a zero, is empty or is too long leads nowhere
  iterate 3
    split at h
    · cases h
  split at h
  · cases h
  · next m hwalk =>
    split at h
    · cases h
    · next last hlast =>
      obtain ⟨cs, hcs⟩ := List.getLast?_eq_some_iff.mp hlast
      rw [hcs, List.dropLast_concat] at hwalk
      rw [hcs, List.foldl_append, ← walk_ok hwalk]
      split at h
      · cases h
      · next hself =>
        split at h
        · cases h
        · next hparent =>
          cases h
          simp [Path.follow, hself, hparent]

theorem writeFile_ok {t t' : FileTree} {cwd : Location} {path text : String}
    (h : t.writeFile cwd path text = .ok t') :
    Path.resolve cwd path ≠ [] ∧ t' = t.put (Path.resolve cwd path) (.file text) := by
  unfold writeFile at h
  split at h
  · cases h
  · cases h
  · next l name hlocate =>
    rw [locate_name hlocate]
    repeat
      split at h
      · cases h
    cases h
    exact ⟨by simp, rfl⟩

theorem makeDirectory_ok {t t' : FileTree} {cwd : Location} {path : String}
    (h : t.makeDirectory cwd path = .ok t') : t'.held = t.held := by
  unfold makeDirectory at h
  split at h
  · cases h
  · cases h
  · next l name _ =>
    split at h
    · cases h
    · split at h
      · cases h
      · next hfree =>
        cases h
        exact held_put_directory t (by simp) (by simpa using hfree)

theorem held_provide (t : FileTree) (cwd : Location) (path : String) :
    (t.provide cwd path).1.held = t.held := by
  unfold provide
  split
  · next t' h => exact makeDirectory_ok h
  · rfl

theorem held_provideAbove (t : FileTree) (cwd : Location) (absolute : Bool) (path : String)
    (above : List String) : (t.provideAbove cwd absolute path above).1.held = t.held := by
  induction above generalizing path with
  | nil => exact held_provide t cwd path
  | cons c above ih =>
    unfold provideAbove
    split
    · have hparent := ih (pathOf absolute (c :: above).reverse)
      split
      · next t' h =>
        rw [h] at hparent
        rw [held_provide, hparent]
      · next t' e h =>
        rw [h] at hparent
        exact hparent
    · exact held_provide t cwd path

/-- A file tree keeps the laws, its files being told apart by where they are. -/
theorem lawful (cwd : Location) : (store cwd).Lawful (Path.resolve cwd) held where
  directory t path := by
    simp only [store, ensureDirectory]
    split
    · rfl
    · exact held_provideAbove t cwd _ path _
  written t path text h := by
    simp only [store] at h ⊢
    cases hwrite : t.writeFile cwd path text with
    | error e =>
      rw [hwrite] at h
      cases h
    | ok t' =>
      obtain ⟨hplace, rfl⟩ := writeFile_ok hwrite
      exact held_put_file t hplace text
  refused t path text h := by
    simp only [store] at h ⊢
    cases hwrite : t.writeFile cwd path text with
    | error e => rfl
    | ok t' =>
      rw [hwrite] at h
      exact (h rfl).elim
  apart dir a b ha hb h := by
    rw [Path.resolve_join ha, Path.resolve_join hb] at h
    simpa using h

end FileTree

end ApiTypings
