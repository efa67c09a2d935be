import ApiTypings.Proofs.StoreEffect

/-!
# Nothing outside the destination

The names of files come from paths that a server chooses. Whatever these are, a batch gives
the store no path but those of module files right in the destination: the names have no
slash, and none of them stands for a directory. So a store can change only in making the
destination and in writing such files, and files elsewhere stay as they are.

Each turn keeps this, as it writes to the name that was chosen or does not write.
-/

namespace ApiTypings

/-- The path with which an event goes to the store for a write. -/
def BatchEvent.target? : BatchEvent → Option String
  | .writeStarted path => some path
  | .writeEnded _ path _ _ => some path
  | _ => none

/-! ## Module files in a directory -/

/-- A path of a module file that is an entry of a directory. -/
structure Path.ModuleIn (dir file path : String) : Prop where
  isModule : Path.IsModule file
  isName : Path.IsName file
  joined : path = Path.join dir file
  /-- The path goes on from the directory, which it does not replace. -/
  continues : path = Path.opening dir ++ file
  isAbsolute : Path.isAbsolute path = Path.isAbsolute dir
  components : Path.components path = Path.components dir ++ [file]
  /-- It leads to an entry of where the directory is. -/
  resolve : ∀ cwd, Path.resolve cwd path = Path.resolve cwd dir ++ [file]

theorem Path.IsModule.moduleIn {file : String} (h : Path.IsModule file) (dir : String) :
    Path.ModuleIn dir file (Path.join dir file) where
  isModule := h
  isName := h.isName
  joined := rfl
  continues := join_of_isName h.isName dir
  isAbsolute := isAbsolute_join h.isName dir
  components := components_join h.isName dir
  resolve cwd := resolve_join h.isName cwd dir

/-! ## Stores that change in one directory only -/

/-- The states of a store that come about by making a directory and by writing module files
right in it, whether this succeeds or not. -/
inductive Store.Reaches {σ : Type} (s : Store σ) (dir : String) (state : σ) : σ → Prop
  | start : Reaches s dir state state
  | ensured {later : σ} : Reaches s dir state later →
      Reaches s dir state (s.ensureDirectory later dir).1
  | wrote {later : σ} {file path : String} (text : String) : Reaches s dir state later →
      Path.ModuleIn dir file path → Reaches s dir state (s.write later path text).1

/-- No file changes but module files right in the directory. -/
theorem Store.Reaches.held {σ κ : Type} [DecidableEq κ] {s : Store σ} {place : String → κ}
    {held : σ → κ → Option String} (law : s.Lawful place held) {dir : String} {state later : σ}
    (h : s.Reaches dir state later) {k : κ}
    (hk : ∀ file path, Path.ModuleIn dir file path → place path ≠ k) :
    held later k = held state k := by
  induction h with
  | start => rfl
  | @ensured later _ ih => rw [law.directory, ih]
  | @wrote later file path text _ hpath ih =>
    cases herror : (s.write later path text).2 with
    | none =>
      rw [law.written later path text herror, Function.update_of_ne (hk file path hpath).symm, ih]
    | some error =>
      rw [law.refused later path text (by simp [herror]), ih]

namespace Batch

variable {σ : Type}

/-! ## Turns -/

/-- Events that go to the store only with paths of module files in the destination. -/
def Targets (destination : String) (events : List BatchEvent) : Prop :=
  ∀ ev ∈ events, ∀ path, ev.target? = some path → ∃ file, Path.ModuleIn destination file path

theorem Targets.append {destination : String} {events more : List BatchEvent}
    (h : Targets destination events) (hmore : Targets destination more) :
    Targets destination (events ++ more) :=
  List.forall_mem_append.mpr ⟨h, hmore⟩

theorem targets_of_untargeted (destination : String) {events : List BatchEvent}
    (h : ∀ ev ∈ events, ev.target? = none) : Targets destination events := by
  intro ev hev path hpath
  rw [h ev hev] at hpath
  cases hpath

theorem ofFetching_untargeted {ev : BatchEvent} (h : Fetching.ofFetching ev = true) :
    ev.target? = none := by
  cases ev <;> first | rfl | cases h

theorem cancel_untargeted (cancel : Cancellation) (m : Moment) :
    ∀ ev ∈ cancel.events m, ev.target? = none := fun ev hev =>
  ofFetching_untargeted (Fetching.pass_events cancel m ev hev)

/-- Up to the first turn nothing is written. -/
theorem opening_targets (e : Setting σ) (selection : List Summary) :
    Targets e.destination (openingEvents e selection) :=
  targets_of_untargeted _ (opening_forall e selection rfl rfl fun _ => ofFetching_untargeted)

/-- A turn writes to the name that was chosen, or to none. -/
theorem turn_targets (e : Setting σ) (w : Writing σ) (f : Fetched) :
    Targets e.destination (turnEvents e w f) := by
  have hremark : ∀ (c : Choice) (id : Nat), ∀ ev ∈ c.events id, ev.target? = none := by
    intro c id
    cases c <;> simp [Choice.events, BatchEvent.target?]
  unfold turnEvents
  refine Targets.append (targets_of_untargeted _ ?_) ?_
  · exact List.forall_mem_cons.mpr ⟨rfl, hremark _ _⟩
  · split
    · exact targets_of_untargeted _ (List.forall_mem_nil _)
    · next file hfile =>
      rw [turnOf_file?] at hfile
      have hin := (isModule_of_choose hfile).moduleIn e.destination
      intro ev hev path hpath
      simp only [attemptEvents, List.cons_append, List.mem_cons, List.mem_append,
        List.not_mem_nil, or_false] at hev
      rcases hev with rfl | hev | rfl
      · cases hpath
        exact ⟨file, hin⟩
      · rw [cancel_untargeted _ _ ev hev] at hpath
        cases hpath
      · cases hpath
        exact ⟨file, hin⟩

/-- A turn that tries a name changes the store by that write, and no other turn does. -/
theorem Turn.Effect.store_eq {s : Store σ} {destination : String} {before after : σ} {t : Turn}
    (h : t.Effect s destination before after) :
    after = match t.file? with
      | none => before
      | some file => (s.write before (Path.join destination file) t.generated.emit).1 := by
  unfold Turn.Effect at h
  unfold Turn.file?
  cases hfate : t.fate with
  | refused file earlier =>
    rw [hfate] at h
    exact h
  | written file | failed file error =>
    rw [hfate] at h
    exact (congrArg Prod.fst h).symm

theorem process_reaches (e : Setting σ) (w : Writing σ) (f : Fetched) {store : σ}
    (h : e.store.Reaches e.destination store w.store) :
    e.store.Reaches e.destination store (w.process e f).store := by
  rw [(process_spec e w f).2.2.1.store_eq]
  split
  · exact h
  · next file hfile =>
    rw [turnOf_file?] at hfile
    exact h.wrote _ ((isModule_of_choose hfile).moduleIn e.destination)

/-- Writing that stays in the destination. -/
structure Confined (e : Setting σ) (store : σ) (w : Writing σ) : Prop where
  targets : Targets e.destination w.events
  reaches : e.store.Reaches e.destination store w.store

theorem Course.confined {e : Setting σ} {store : σ} {w w' : Writing σ} {ts : List Turn}
    (h : Course e w ts w') (hw : Confined e store w) : Confined e store w' := by
  induction h with
  | done w => exact hw
  | @turn w w' f ts _ _ _ ih =>
    refine ih ⟨?_, process_reaches e w f hw.reaches⟩
    rw [(process_spec e w f).2.2.2.2]
    exact hw.targets.append (turn_targets e w f)

/-! ## Batches -/

theorem generate_confined {e : Setting σ} (selection : List Summary) {store opened : σ}
    (h : e.store.Reaches e.destination store opened) :
    Targets e.destination (generate e selection opened).events ∧
      e.store.Reaches e.destination store (generate e selection opened).store := by
  have hopening : Confined e store (openingState e selection opened) :=
    ⟨opening_targets e selection, h⟩
  obtain ⟨ts, w, hcourse, hend⟩ := all_cases e (openingState e selection opened)
    (Fetching.run e.source e.cancel e.options.concurrency selection
      (e.cancel.arrives .directory)).results.reverse
  have hw := hcourse.confined hopening
  have hturn : ∀ m, Targets e.destination (w.events ++ e.cancel.events m) := fun m =>
    hw.targets.append (targets_of_untargeted _ (cancel_untargeted _ m))
  have hlast : ∀ ev : BatchEvent, ev.target? = none → Targets e.destination [ev] := fun ev hev =>
    targets_of_untargeted _ (List.forall_mem_singleton.mpr hev)
  rcases hend with ⟨_, hall⟩ | ⟨f, rest, _, _, ⟨_, hall⟩ | ⟨_, hall⟩⟩ <;> rw [generate_eq, hall]
  · exact ⟨hw.targets.append (hlast _ rfl), hw.reaches⟩
  · exact ⟨hturn _, hw.reaches⟩
  · exact ⟨((hturn _).append (hlast _ rfl)).append (hlast _ rfl), hw.reaches⟩

theorem generate_stays (e : Setting σ) (selection : List Summary) (opened : σ) :
    Targets e.destination (generate e selection opened).events ∧
      e.store.Reaches e.destination opened (generate e selection opened).store :=
  generate_confined selection .start

/-- A batch never writes outside its destination. Every path it writes to, with success or
not, is that of a module file right in the destination, whatever the paths of the interfaces
are. The store is changed by nothing but making the destination and writing such files, so
every other file holds what it held before. -/
theorem run_stays_in_destination (e : Setting σ) (selection : List Summary) (store : σ) :
    (∀ ev ∈ (run e selection store).events, ∀ path, ev.target? = some path →
        ∃ file, Path.ModuleIn e.destination file path) ∧
      e.store.Reaches e.destination store (run e selection store).store ∧
      ∀ (κ : Type) [DecidableEq κ] (place : String → κ) (held : σ → κ → Option String),
        e.store.Lawful place held →
          ∀ k, (∀ file path, Path.ModuleIn e.destination file path → place path ≠ k) →
            held (run e selection store).store k = held store k := by
  have hconfined : Targets e.destination (run e selection store).events ∧
      e.store.Reaches e.destination store (run e selection store).store := by
    cases hrefusal : refusal e selection with
    | some error =>
      rw [run_of_refusal hrefusal]
      exact ⟨targets_of_untargeted _ (List.forall_mem_nil _), .start⟩
    | none =>
      have hensured : e.store.Reaches e.destination store
          (e.store.ensureDirectory store e.destination).1 := .ensured .start
      obtain ⟨_, ⟨opened, error, hopened, hrun⟩ | ⟨opened, hopened, hrun⟩⟩ :=
        run_of_admitted hrefusal store <;> rw [hopened] at hensured <;> rw [hrun]
      · refine ⟨targets_of_untargeted _ ?_, hensured⟩
        exact List.forall_mem_cons.mpr ⟨rfl, cancel_untargeted _ _⟩
      · exact generate_confined selection hensured
  refine ⟨hconfined.1, hconfined.2, ?_⟩
  intro κ _ place held law k hk
  exact hconfined.2.held law hk

/-- Three interfaces with a path that ends in two dots and a blank. -/
example :
    (run { smallBatch .qualifyById (fun _ => none) fun _ => false with
        source := ⟨fun _ id => .ok ⟨id, "", "/api/.. ", "GET", [], [], none, none⟩, fun _ _ => 0⟩ }
      threeInterfaces []).store.map Prod.fst =
      ["out/...ts", "out/.._2.ts", "out/.._3.ts"] := by decide +kernel

end Batch

end ApiTypings
