import ApiTypings.Proofs.AlikeStores
import ApiTypings.Proofs.Directories

/-!
# File trees of the same shape

What a path leads to, whether a directory can be made and whether a file can be written depend on
where a tree has files and directories and not on what the files hold. So two trees of the same
shape that undergo the same calls keep the same shape. Whatever a call puts into the one tree it
puts into the other: at each place the trees have the same entry, or each has still the entry it
began with.
-/

namespace ApiTypings

/-- Computations that end alike: for the same reason, or with related results. -/
inductive EndAlike {ε α : Type} (R : α → α → Prop) : Except ε α → Except ε α → Prop where
  | error (e : ε) : EndAlike R (.error e) (.error e)
  | ok {a b : α} (h : R a b) : EndAlike R (.ok a) (.ok b)

namespace EndAlike

variable {ε α β : Type}

theorem of_map {f : α → β} {a b : Except ε α} (h : a.map f = b.map f) :
    EndAlike (fun x y => f x = f y) a b := by
  cases a with
  | error e =>
    cases b with
    | error e' =>
      cases h
      exact .error e
    | ok y => cases h
  | ok x =>
    cases b with
    | error e' => cases h
    | ok y => exact .ok (Except.ok.inj h)

theorem bind {R : α → α → Prop} {S : β → β → Prop} {a b : Except ε α} (h : EndAlike R a b)
    {f g : α → Except ε β} (hnext : ∀ x y, R x y → EndAlike S (f x) (g y)) :
    EndAlike S (a.bind f) (b.bind g) := by
  cases h with
  | error e => exact .error e
  | ok h => exact hnext _ _ h

end EndAlike

/-- An entry without the text of a file. -/
def Entry.emptied : Entry → Entry
  | .file _ => .file ""
  | .directory => .directory

namespace FileTree

/-- Trees with files and with directories at the same places. -/
def SameShape (t t' : FileTree) : Prop :=
  ∀ l, (t.find? l).map Entry.emptied = (t'.find? l).map Entry.emptied

/-- Trees of the same shape that came from two others by changes to the same effect. -/
structure ChangedAlike (a b t t' : FileTree) : Prop where
  shape : SameShape t t'
  entry : ∀ l, t.find? l = t'.find? l ∨ (t.find? l = a.find? l ∧ t'.find? l = b.find? l)

theorem ChangedAlike.refl {a b : FileTree} (h : SameShape a b) : ChangedAlike a b a b :=
  ⟨h, fun _ => .inr ⟨rfl, rfl⟩⟩

theorem ChangedAlike.put {a b t t' : FileTree} (h : ChangedAlike a b t t') {l : Location}
    (hl : l ≠ []) (e : Entry) : ChangedAlike a b (t.put l e) (t'.put l e) where
  shape k := by
    rw [find?_put t hl, find?_put t' hl]
    split
    · rfl
    · exact h.shape k
  entry k := by
    rw [find?_put t hl, find?_put t' hl]
    split
    · exact .inl rfl
    · exact h.entry k

namespace SameShape

variable {t t' : FileTree} (h : SameShape t t')
include h

/-- At each place both trees have nothing, both a directory, or both a file. -/
theorem find?_cases (l : Location) :
    (t.find? l = none ∧ t'.find? l = none) ∨
      (t.find? l = some .directory ∧ t'.find? l = some .directory) ∨
      ∃ text text', t.find? l = some (.file text) ∧ t'.find? l = some (.file text') := by
  have hl := h l
  cases hentry : t.find? l with
  | none =>
    rw [hentry, Option.map_none, eq_comm, Option.map_eq_none_iff] at hl
    exact .inl ⟨rfl, hl⟩
  | some e =>
    rw [hentry, Option.map_some, eq_comm, Option.map_eq_some_iff] at hl
    obtain ⟨e', hentry', hemptied⟩ := hl
    cases e <;> cases e' <;> cases hemptied <;> simp [hentry']

theorem enter (l : Location) (c : String) : t.enter l c = t'.enter l c := by
  unfold FileTree.enter
  obtain ⟨hl, hl'⟩ | ⟨hl, hl'⟩ | ⟨text, text', hl, hl'⟩ := h.find?_cases (l ++ [c]) <;>
    simp only [hl, hl']

theorem walk (l : Location) (cs : List String) : t.walk l cs = t'.walk l cs := by
  induction cs generalizing l with
  | nil => rfl
  | cons c cs ih => simp only [FileTree.walk, h.enter, ih]

theorem locate (cwd : Location) (path : String) : t.locate cwd path = t'.locate cwd path := by
  unfold FileTree.locate
  simp only [h.walk]

/-- A path leads to the same place in both trees, and to a file or a directory in both. -/
theorem lookup (cwd : Location) (path : String) :
    (t.lookup cwd path).map (Prod.map id Entry.emptied) =
      (t'.lookup cwd path).map (Prod.map id Entry.emptied) := by
  unfold FileTree.lookup
  rw [h.locate]
  split
  · rfl
  · rfl
  · next l name _ =>
    obtain ⟨hl, hl'⟩ | ⟨hl, hl'⟩ | ⟨text, text', hl, hl'⟩ := h.find?_cases (l ++ [name]) <;>
      simp only [hl, hl']
    split_ifs <;> rfl

theorem isFile (cwd : Location) (path : String) : t.isFile cwd path = t'.isFile cwd path := by
  have hlookup := h.lookup cwd path
  unfold FileTree.isFile
  generalize t.lookup cwd path = r, t'.lookup cwd path = r' at hlookup ⊢
  rcases r with e | ⟨l, text | _⟩ <;> rcases r' with e' | ⟨l', text' | _⟩ <;>
    first
    | rfl
    | cases hlookup

theorem isDirectory (cwd : Location) (path : String) :
    t.isDirectory cwd path = t'.isDirectory cwd path := by
  rw [Bool.eq_iff_iff, isDirectory_iff, isDirectory_iff, h.walk]

end SameShape

/-! ## Calls on trees of the same shape -/

section
variable {a b t t' : FileTree} (h : ChangedAlike a b t t')
include h

theorem ChangedAlike.makeDirectory (cwd : Location) (path : String) :
    EndAlike (ChangedAlike a b) (t.makeDirectory cwd path) (t'.makeDirectory cwd path) := by
  unfold FileTree.makeDirectory
  rw [h.shape.locate]
  split
  · exact .error _
  · exact .error _
  · next l name _ =>
    split
    · exact .error _
    · obtain ⟨hl, hl'⟩ | ⟨hl, hl'⟩ | ⟨text, text', hl, hl'⟩ := h.shape.find?_cases (l ++ [name]) <;>
        simp only [hl, hl']
      · exact .ok (h.put (by simp) _)
      · exact .error _
      · exact .error _

theorem ChangedAlike.writeFile (cwd : Location) (path text : String) :
    EndAlike (ChangedAlike a b) (t.writeFile cwd path text) (t'.writeFile cwd path text) := by
  unfold FileTree.writeFile
  rw [h.shape.locate]
  split
  · exact .error _
  · exact .error _
  · next l name _ =>
    split
    · exact .error _
    · split
      · exact .error _
      · obtain ⟨hl, hl'⟩ | ⟨hl, hl'⟩ | ⟨old, old', hl, hl'⟩ := h.shape.find?_cases (l ++ [name]) <;>
          simp only [hl, hl', reduceCtorEq, Option.some.injEq, if_true, if_false]
        · exact .ok (h.put (by simp) _)
        · exact .error _
        · exact .ok (h.put (by simp) _)

theorem ChangedAlike.provide (cwd : Location) (path : String) :
    (t.provide cwd path).2 = (t'.provide cwd path).2 ∧
      ChangedAlike a b (t.provide cwd path).1 (t'.provide cwd path).1 := by
  have hmade := h.makeDirectory cwd path
  unfold FileTree.provide
  rw [h.shape.isDirectory]
  generalize t.makeDirectory cwd path = r, t'.makeDirectory cwd path = r' at hmade ⊢
  cases hmade with
  | error e => exact ⟨rfl, h⟩
  | ok hmade => exact ⟨rfl, hmade⟩

end

theorem ChangedAlike.provideAbove {a b t t' : FileTree} (h : ChangedAlike a b t t')
    (cwd : Location) (absolute : Bool) (path : String) (above : List String) :
    (t.provideAbove cwd absolute path above).2 = (t'.provideAbove cwd absolute path above).2 ∧
      ChangedAlike a b (t.provideAbove cwd absolute path above).1
        (t'.provideAbove cwd absolute path above).1 := by
  induction above generalizing path with
  | nil => exact h.provide cwd path
  | cons c above ih =>
    have hmade := h.makeDirectory cwd path
    have hprovide := h.provide cwd path
    obtain ⟨herror, habove⟩ := ih (pathOf absolute (c :: above).reverse)
    unfold FileTree.provideAbove
    generalize t.makeDirectory cwd path = r, t'.makeDirectory cwd path = r' at hmade ⊢
    cases hmade with
    | ok _ => exact hprovide
    | error e =>
      split
      · generalize t.provideAbove cwd absolute _ above = s,
          t'.provideAbove cwd absolute _ above = s' at herror habove ⊢
        obtain ⟨made, e⟩ := s
        obtain ⟨made', e'⟩ := s'
        obtain rfl : e = e' := herror
        cases e with
        | none => exact habove.provide cwd path
        | some e => exact ⟨rfl, habove⟩
      · exact hprovide

theorem ChangedAlike.ensureDirectory {a b t t' : FileTree} (h : ChangedAlike a b t t')
    (cwd : Location) (path : String) :
    ((store cwd).ensureDirectory t path).2 = ((store cwd).ensureDirectory t' path).2 ∧
      ChangedAlike a b ((store cwd).ensureDirectory t path).1
        ((store cwd).ensureDirectory t' path).1 := by
  simp only [store, FileTree.ensureDirectory]
  split
  · exact ⟨rfl, h⟩
  · obtain ⟨herror, hmade⟩ := h.provideAbove cwd (Path.isAbsolute path) path
      (Path.plainComponents path).dropLast.reverse
    exact ⟨congrArg (Option.map _) herror, hmade⟩

/-- The store of a file tree does not tell what files hold. -/
theorem answersAlike_changedAlike (cwd : Location) (dir : String) (a b : FileTree) :
    (store cwd).AnswersAlike dir (ChangedAlike a b) := by
  intro t t' file path text h _
  have hwritten := h.writeFile cwd path text
  simp only [store]
  generalize t.writeFile cwd path text = r, t'.writeFile cwd path text = r' at hwritten ⊢
  cases hwritten with
  | error e => exact ⟨rfl, h⟩
  | ok hwritten => exact ⟨rfl, hwritten⟩

end FileTree

end ApiTypings
