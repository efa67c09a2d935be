import ApiTypings.Batch.FileName
import ApiTypings.Proofs.TextLaws
import ApiTypings.Proofs.UniqueKeys
import ApiTypings.Store.Path
import Mathlib.Data.List.Perm.Subperm
import Std.Data.String.ToNat

/-!
# File names of modules

A module goes to a file whose name is a single component of a path: the name of an
interface has no slash in it, and what is added to it has none either. Below one
directory different names give different paths. The name that is given to a module
whose plain name is taken is free.
-/

namespace ApiTypings

theorem slash_not_mem_nameOfPath (path : String) : '/' ∉ (nameOfPath path).toList := by
  unfold nameOfPath
  split
  · next segment hlast =>
    have hmem := List.mem_of_getLast? hlast
    simp only [List.mem_filter, List.mem_map, Text.split] at hmem
    obtain ⟨⟨s, ⟨piece, hpiece, rfl⟩, rfl⟩, _⟩ := hmem
    intro hslash
    have hin := Text.mem_of_mem_trim hslash
    rw [String.toList_ofList] at hin
    have := Text.splitChars_not_sep hpiece '/' hin
    simp at this
  · decide

/-! ## Names of files -/

/-- A text that names an entry of a directory. -/
structure Path.IsName (s : String) : Prop where
  noSlash : '/' ∉ s.toList
  nonempty : s ≠ ""
  notSelf : s ≠ "."
  notParent : s ≠ ".."

/-- The name of a module file: a text without a slash and the ending of modules. -/
def Path.IsModule (s : String) : Prop := ∃ stem : String, '/' ∉ stem.toList ∧ s = stem ++ ".ts"

/-- Such a name is too long for a name of dots. -/
theorem Path.IsModule.isName {s : String} (h : Path.IsModule s) : Path.IsName s := by
  obtain ⟨stem, hstem, rfl⟩ := h
  have hlong : 3 ≤ (stem ++ ".ts").length := by
    rw [String.length_append]
    have : ".ts".length = 3 := rfl
    omega
  constructor
  · rw [String.toList_append, List.mem_append, not_or]
    exact ⟨hstem, by decide⟩
  · intro heq
    rw [heq] at hlong
    exact absurd hlong (by decide)
  · intro heq
    rw [heq] at hlong
    exact absurd hlong (by decide)
  · intro heq
    rw [heq] at hlong
    exact absurd hlong (by decide)

theorem slash_not_mem_repr (n : Nat) : '/' ∉ n.repr.toList := by
  intro h
  rw [Nat.toList_repr] at h
  exact absurd (Nat.isDigit_of_mem_toDigits (by decide) (by decide) h) (by decide)

/-! ## Chosen names -/

namespace Batch

theorem isModule_fileName (d : Detail) : Path.IsModule (Module.ofDetail d).fileName :=
  ⟨_, slash_not_mem_nameOfPath d.path, rfl⟩

theorem isModule_qualifiedName (d : Detail) (id k : Nat) :
    Path.IsModule (qualifiedName (Module.ofDetail d).name id k) := by
  have hname : '/' ∉ (Module.ofDetail d).name.toList := slash_not_mem_nameOfPath d.path
  have hline : '/' ∉ "_".toList := by decide
  cases k with
  | zero =>
    refine ⟨_, ?_, rfl⟩
    simp only [String.toList_append, List.mem_append, not_or]
    exact ⟨⟨hname, hline⟩, slash_not_mem_repr id⟩
  | succ k =>
    refine ⟨_, ?_, rfl⟩
    simp only [String.toList_append, List.mem_append, not_or]
    exact ⟨⟨⟨⟨hname, hline⟩, slash_not_mem_repr id⟩, hline⟩, slash_not_mem_repr (k + 2)⟩

theorem qualifiedName_injective (name : String) (id : Nat) :
    Function.Injective (qualifiedName name id) := by
  have hfirst (k : Nat) : qualifiedName name id 0 ≠ qualifiedName name id (k + 1) := by
    intro heq
    have hlength := congrArg String.length heq
    simp only [qualifiedName, String.length_append] at hlength
    have hline : "_".length = 1 := rfl
    omega
  intro j k heq
  cases j with
  | zero =>
    cases k with
    | zero => rfl
    | succ k => exact (hfirst k heq).elim
  | succ j =>
    cases k with
    | zero => exact (hfirst j heq.symm).elim
    | succ k =>
      simp only [qualifiedName, String.append_left_inj, String.append_right_inj] at heq
      have hnumbers : j + 2 = k + 2 := Nat.repr_injective heq
      omega

/-- The names that are taken, each once. -/
def takenNames (taken : Taken) : List String := (taken.map Prod.fst).eraseDups

theorem mem_takenNames {file : String} {taken : Taken} :
    file ∈ takenNames taken ↔ (Assoc.find? file taken).isSome = true := by
  rw [takenNames, List.mem_eraseDups, Assoc.isSome_find?_iff]

/-- The names of the attempts differ, so no more of them are taken than there are names to be
taken. -/
theorem attempts_le {taken : Taken} {name : String} {id n : Nat} {files : List String}
    (hfiles : takenNames taken ⊆ files)
    (htaken : ∀ k < n, qualifiedName name id k ∈ takenNames taken) : n ≤ files.length := by
  have hnodup : ((List.range n).map (qualifiedName name id)).Nodup :=
    List.Nodup.map (qualifiedName_injective name id) List.nodup_range
  have hsubset : (List.range n).map (qualifiedName name id) ⊆ files := by
    intro file hfile
    obtain ⟨k, hk, rfl⟩ := List.mem_map.mp hfile
    exact hfiles (htaken k (List.mem_range.mp hk))
  have hlength := (List.subperm_of_subset hnodup hsubset).length_le
  simpa using hlength

/-- Among one more attempt than names are taken one is free. -/
theorem exists_free (taken : Taken) (name : String) (id : Nat) :
    ∃ k ≤ taken.length, Assoc.find? (qualifiedName name id k) taken = none := by
  by_contra hnone
  have hall : ∀ k < taken.length + 1, qualifiedName name id k ∈ takenNames taken := by
    intro k hk
    rw [mem_takenNames, Option.isSome_iff_ne_none]
    intro hfree
    exact hnone ⟨k, Nat.le_of_lt_succ hk, hfree⟩
  have hkeys : takenNames taken ⊆ taken.map Prod.fst := fun _ => List.mem_eraseDups.mp
  have hlength := attempts_le hkeys hall
  simp only [List.length_map] at hlength
  omega

/-- The search for a free name gives the name of some attempt, and a free one if there
is one within its reach. -/
theorem firstFree_spec (taken : Taken) (name : String) (id k tries : Nat) :
    (∃ j, firstFree taken name id k tries = qualifiedName name id j) ∧
      ∀ j, k ≤ j → j ≤ k + tries → Assoc.find? (qualifiedName name id j) taken = none →
        Assoc.find? (firstFree taken name id k tries) taken = none := by
  induction tries generalizing k with
  | zero =>
    refine ⟨⟨k, rfl⟩, ?_⟩
    intro j hlow hhigh hfree
    obtain rfl : j = k := by omega
    exact hfree
  | succ tries ih =>
    unfold firstFree
    split
    · next htaken =>
      refine ⟨(ih (k + 1)).1, ?_⟩
      intro j hlow hhigh hfree
      have hne : j ≠ k := by
        rintro rfl
        rw [hfree] at htaken
        cases htaken
      exact (ih (k + 1)).2 j (by omega) (by omega) hfree
    · next hfree =>
      refine ⟨⟨k, rfl⟩, ?_⟩
      intro _ _ _ _
      simpa using hfree

theorem freeName_free (taken : Taken) (name : String) (id : Nat) :
    Assoc.find? (freeName taken name id) taken = none := by
  obtain ⟨k, hk, hfree⟩ := exists_free taken name id
  exact (firstFree_spec taken name id 0 taken.length).2 k (Nat.zero_le k) (by omega) hfree

/-- Whatever name is chosen is that of a module file. -/
theorem isModule_of_choose {collision : Collision} {taken : Taken} {d : Detail} {file : String}
    (h : (choose collision taken (Module.ofDetail d)).file? = some file) : Path.IsModule file := by
  unfold choose at h
  split at h
  · cases h
    exact isModule_fileName d
  · cases collision with
    | overwrite =>
      cases h
      exact isModule_fileName d
    | qualifyById =>
      cases h
      obtain ⟨k, hk⟩ := (firstFree_spec taken (Module.ofDetail d).name (Module.ofDetail d).id 0
        taken.length).1
      rw [freeName, hk]
      exact isModule_qualifiedName d _ k
    | reject => cases h

/-- Unless later modules replace earlier ones, the chosen name is free. -/
theorem free_of_choose {collision : Collision} (hkeep : collision ≠ .overwrite) {taken : Taken}
    {m : Module} {file : String} (h : (choose collision taken m).file? = some file) :
    Assoc.find? file taken = none := by
  unfold choose at h
  split at h
  · next hfree =>
    cases h
    exact hfree
  · cases collision with
    | overwrite => exact (hkeep rfl).elim
    | qualifyById =>
      cases h
      exact freeName_free taken m.name m.id
    | reject => cases h

end Batch

end ApiTypings
