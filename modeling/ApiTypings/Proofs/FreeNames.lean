import ApiTypings.Proofs.FileNames

/-!
# The search for a free name

A module that is told apart by its id tries one name after another until one is free. The search
as such knows no bound. Here it is followed attempt by attempt: the names in the sequence differ,
so it meets a free one after at most as many further attempts as there are taken names, and the
bound with which it is carried out is never what ends it.

Attempts are counted by natural numbers, which do not overflow.
-/

namespace ApiTypings.Batch

/-- The search from an attempt on, with the number of further attempts that it takes and the name
that it ends with. -/
inductive Search (taken : Taken) (name : String) (id : Nat) : Nat → Nat → String → Prop
  | free {k : Nat} : qualifiedName name id k ∉ takenNames taken →
      Search taken name id k 0 (qualifiedName name id k)
  | next {k further : Nat} {file : String} : qualifiedName name id k ∈ takenNames taken →
      Search taken name id (k + 1) further file → Search taken name id k (further + 1) file

variable {taken : Taken} {name file : String} {id k further : Nat}

/-- The search passes the taken names and ends with the first free one. -/
theorem Search.result (h : Search taken name id k further file) :
    file = qualifiedName name id (k + further) ∧ file ∉ takenNames taken ∧
      ∀ j, k ≤ j → j < k + further → qualifiedName name id j ∈ takenNames taken := by
  induction h with
  | free hfree => exact ⟨rfl, hfree, by omega⟩
  | @next k further file htaken _ ih =>
    obtain ⟨hfile, hfree, hpassed⟩ := ih
    refine ⟨?_, hfree, ?_⟩
    · rw [hfile, Nat.add_right_comm, Nat.add_assoc]
    · intro j hlow hhigh
      rcases Nat.eq_or_lt_of_le hlow with rfl | hlow
      · exact htaken
      · exact hpassed j hlow (by omega)

/-- From any attempt before a free one the search comes to an end. -/
theorem Search.exists_of_free (n : Nat)
    (hfree : qualifiedName name id (k + n) ∉ takenNames taken) :
    ∃ further file, Search taken name id k further file := by
  induction n generalizing k with
  | zero => exact ⟨_, _, .free hfree⟩
  | succ n ih =>
    by_cases htaken : qualifiedName name id k ∈ takenNames taken
    · have hplace : k + 1 + n = k + (n + 1) := by omega
      rw [← hplace] at hfree
      obtain ⟨further, file, hrest⟩ := ih hfree
      exact ⟨_, _, .next htaken hrest⟩
    · exact ⟨_, _, .free htaken⟩

theorem Search.unique {further' : Nat} {file' : String} (h : Search taken name id k further file)
    (h' : Search taken name id k further' file') : further' = further ∧ file' = file := by
  induction h generalizing further' file' with
  | free hfree =>
    cases h' with
    | free => exact ⟨rfl, rfl⟩
    | next htaken => exact (hfree htaken).elim
  | next htaken _ ih =>
    cases h' with
    | free hfree => exact (hfree htaken).elim
    | next _ hrest =>
      obtain ⟨rfl, rfl⟩ := ih hrest
      exact ⟨rfl, rfl⟩

/-- With a bound that the search does not reach, the first free name is what it ends with. -/
theorem Search.firstFree {tries : Nat} (h : Search taken name id k further file)
    (hbound : further ≤ tries) : firstFree taken name id k tries = file := by
  induction h generalizing tries with
  | @free k hfree =>
    cases tries with
    | zero => rfl
    | succ tries =>
      rw [Batch.firstFree, if_neg (mem_takenNames.not.mp hfree)]
  | @next k further file htaken _ ih =>
    obtain ⟨tries, rfl⟩ : ∃ t, tries = t + 1 := ⟨tries - 1, by omega⟩
    rw [Batch.firstFree, if_pos (mem_takenNames.mp htaken)]
    exact ih (by omega)

/-- The search for a free name ends, whatever names are taken, and in one way only. It takes at most
as many further attempts as there are taken names, and ends with the first name of the sequence
that is free; the sequence holds no name twice. -/
theorem freeName_first (taken : Taken) (name : String) (id : Nat) :
    Function.Injective (qualifiedName name id) ∧
      ∃ n ≤ (takenNames taken).length,
        (∀ further file, Search taken name id 0 further file ↔
          further = n ∧ file = freeName taken name id) ∧
        freeName taken name id = qualifiedName name id n ∧
        qualifiedName name id n ∉ takenNames taken ∧
        ∀ k < n, qualifiedName name id k ∈ takenNames taken := by
  obtain ⟨first, _, hfirst⟩ := exists_free taken name id
  have hfree : qualifiedName name id (0 + first) ∉ takenNames taken := by
    rw [Nat.zero_add, mem_takenNames, hfirst]
    exact Bool.false_ne_true
  obtain ⟨n, file, hsearch⟩ := Search.exists_of_free first hfree
  obtain ⟨hfile, hfree, hpassed⟩ := hsearch.result
  rw [Nat.zero_add] at hfile hpassed
  have hbefore : ∀ k < n, qualifiedName name id k ∈ takenNames taken :=
    fun k hk => hpassed k (Nat.zero_le k) hk
  have hbound : n ≤ (takenNames taken).length := attempts_le (List.Subset.refl _) hbefore
  have htries : n ≤ taken.length := by
    have hkeys : takenNames taken ⊆ taken.map Prod.fst := fun _ => List.mem_eraseDups.mp
    simpa using attempts_le hkeys hbefore
  have hname : freeName taken name id = file := hsearch.firstFree htries
  subst hname
  refine ⟨qualifiedName_injective name id, n, hbound, ?_, hfile, hfile ▸ hfree, hbefore⟩
  intro further file
  constructor
  · exact hsearch.unique
  · rintro ⟨rfl, rfl⟩
    exact hsearch

end ApiTypings.Batch
