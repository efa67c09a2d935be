import ApiTypings.Proofs.StoreLaws
import ApiTypings.Proofs.Turns

/-!
# What a batch does to the files

On a lawful store the files after a batch follow from the files before it and from
the result alone: the modules in the result have been written to the files in the
result, in that order. A batch without a result leaves every file as it was.
-/

namespace ApiTypings.Batch

variable {σ κ : Type} [DecidableEq κ]

/-! ## Modules written one after the other -/

/-- The files after modules have been written to paths in order. -/
def overwritten (place : String → κ) (writes : List (String × Module))
    (files : κ → Option String) : κ → Option String :=
  writes.foldl (fun files w => Function.update files (place w.1) (some w.2.emit)) files

theorem overwritten_append (place : String → κ) (xs ys : List (String × Module))
    (files : κ → Option String) :
    overwritten place (xs ++ ys) files = overwritten place ys (overwritten place xs files) :=
  List.foldl_append

theorem overwritten_other {place : String → κ} {writes : List (String × Module)}
    {files : κ → Option String} {k : κ} (h : ∀ w ∈ writes, place w.1 ≠ k) :
    overwritten place writes files k = files k := by
  induction writes generalizing files with
  | nil => rfl
  | cons w writes ih =>
    have hw : k ≠ place w.1 := (h w (by simp)).symm
    calc overwritten place writes (Function.update files (place w.1) (some w.2.emit)) k
        = Function.update files (place w.1) (some w.2.emit) k := ih fun v hv => h v (by simp [hv])
      _ = files k := Function.update_of_ne hw _ _

theorem overwritten_last {place : String → κ} {before after : List (String × Module)}
    {w : String × Module} {files : κ → Option String}
    (h : ∀ v ∈ after, place v.1 ≠ place w.1) :
    overwritten place (before ++ w :: after) files (place w.1) = some w.2.emit := by
  have hsplit : before ++ w :: after = (before ++ [w]) ++ after := by simp
  rw [hsplit, overwritten_append, overwritten_other h, overwritten_append]
  exact Function.update_self _ _ _

/-- A file that is written holds the same whatever it held before. -/
theorem overwritten_of_written {place : String → κ} {writes : List (String × Module)}
    (files files' : κ → Option String) {k : κ} (h : ∃ w ∈ writes, place w.1 = k) :
    overwritten place writes files k = overwritten place writes files' k := by
  induction writes generalizing files files' with
  | nil => simp at h
  | cons w writes ih =>
    by_cases hlater : ∃ v ∈ writes, place v.1 = k
    · exact ih _ _ hlater
    · have hother : ∀ v ∈ writes, place v.1 ≠ k := fun v hv heq => hlater ⟨v, hv, heq⟩
      have hself : place w.1 = k := by simpa [hlater] using h
      calc overwritten place writes (Function.update files (place w.1) (some w.2.emit)) k
          = Function.update files (place w.1) (some w.2.emit) k := overwritten_other hother
        _ = Function.update files' (place w.1) (some w.2.emit) k := by simp [hself]
        _ = overwritten place writes (Function.update files' (place w.1) (some w.2.emit)) k :=
          (overwritten_other hother).symm

/-- Writing the same again changes nothing. -/
theorem overwritten_again (place : String → κ) (writes : List (String × Module))
    (files : κ → Option String) :
    overwritten place writes (overwritten place writes files) = overwritten place writes files := by
  funext k
  by_cases hk : ∃ w ∈ writes, place w.1 = k
  · exact overwritten_of_written _ _ hk
  · exact overwritten_other fun w hw heq => hk ⟨w, hw, heq⟩

/-! ## What turns write -/

/-- What a turn writes, if its write succeeds. -/
def Turn.write? (destination : String) (t : Turn) : Option (String × Module) :=
  match t.fate with
  | .written file => some (Path.join destination file, t.generated)
  | _ => none

/-- The paths and the modules of a result side by side are what its turns wrote. -/
theorem zip_paths_outputs (destination : String) (ts : List Turn) :
    (ts.filterMap (Turn.path? destination)).zip (ts.filterMap Turn.output?) =
      ts.filterMap (Turn.write? destination) := by
  induction ts with
  | nil => rfl
  | cons t ts ih =>
    simp only [List.filterMap_cons, Turn.path?, Turn.output?, Turn.write?]
    cases t.fate with
    | written file => exact congrArg (List.cons _) ih
    | failed file error => exact ih
    | refused file earlier => exact ih

/-- A turn changes the files by what it writes. -/
theorem held_effect {s : Store σ} {place : String → κ} {held : σ → κ → Option String}
    (law : s.Lawful place held) {destination : String} {before after : σ} {t : Turn}
    (h : t.Effect s destination before after) :
    held after = overwritten place (t.write? destination).toList (held before) := by
  unfold Turn.Effect at h
  unfold Turn.write?
  cases hfate : t.fate with
  | written file =>
    rw [hfate] at h
    have hwritten := law.written before (Path.join destination file) t.generated.emit
    rw [h] at hwritten
    exact hwritten rfl
  | failed file error =>
    rw [hfate] at h
    have hrefused := law.refused before (Path.join destination file) t.generated.emit
    rw [h] at hrefused
    exact hrefused (Option.some_ne_none error)
  | refused file earlier =>
    rw [hfate] at h
    exact congrArg held h

/-- Turns change the files by what they write, in order. -/
theorem Course.held {e : Setting σ} {place : String → κ} {held : σ → κ → Option String}
    (law : e.store.Lawful place held) {w w' : Writing σ} {ts : List Turn}
    (h : Course e w ts w') :
    held w'.store =
      overwritten place (ts.filterMap (Turn.write? e.destination)) (held w.store) := by
  induction h with
  | done w => rfl
  | @turn w w' f ts _ _ _ ih =>
    have heffect := held_effect law (process_spec e w f).2.2.1
    have hsplit : (turnOf e w f :: ts).filterMap (Turn.write? e.destination) =
        ((turnOf e w f).write? e.destination).toList ++
          ts.filterMap (Turn.write? e.destination) := by
      rw [List.filterMap_cons]
      cases (turnOf e w f).write? e.destination <;> rfl
    rw [ih, heffect, hsplit, overwritten_append]

theorem Course.isName {e : Setting σ} {w w' : Writing σ} {ts : List Turn}
    (h : Course e w ts w') : ∀ t ∈ ts, ∀ file, t.file? = some file → Path.IsName file := by
  induction h with
  | done w => simp
  | @turn w w' f ts _ _ _ ih =>
    intro t ht file hfile
    rcases List.mem_cons.mp ht with rfl | ht
    · rw [turnOf_file?] at hfile
      exact (isModule_of_choose hfile).isName
    · exact ih t ht file hfile

/-! ## Batches -/

theorem Completed.files_isName {e : Setting σ} {selection : List Summary} {store : σ}
    {r : BatchResult} {ts : List Turn} (hc : Completed e selection store r ts) :
    ∀ path ∈ r.files, ∃ file, Path.IsName file ∧ path = Path.join e.destination file := by
  intro path hpath
  obtain ⟨opened, w, _, hcourse, _⟩ := hc.course
  rw [hc.files] at hpath
  obtain ⟨t, ht, hsome⟩ := List.mem_filterMap.mp hpath
  unfold Turn.path? at hsome
  cases hfate : t.fate with
  | written file =>
    rw [hfate] at hsome
    cases hsome
    exact ⟨file, hcourse.isName t ht file (by simp [Turn.file?, hfate]), rfl⟩
  | failed file error =>
    rw [hfate] at hsome
    cases hsome
  | refused file earlier =>
    rw [hfate] at hsome
    cases hsome

/-- Different files of a result are different files of the store. -/
theorem Completed.files_apart {e : Setting σ} {place : String → κ}
    {held : σ → κ → Option String} (law : e.store.Lawful place held) {selection : List Summary}
    {store : σ} {r : BatchResult} {ts : List Turn} (hc : Completed e selection store r ts)
    {p q : String} (hp : p ∈ r.files) (hq : q ∈ r.files) (h : place p = place q) : p = q := by
  obtain ⟨a, ha, rfl⟩ := hc.files_isName p hp
  obtain ⟨b, hb, rfl⟩ := hc.files_isName q hq
  rw [law.apart e.destination a b ha hb h]

/-- The files after a batch with a result are those before it with its modules written to
its files. -/
theorem Completed.held {e : Setting σ} {place : String → κ} {held : σ → κ → Option String}
    (law : e.store.Lawful place held) {selection : List Summary} {store : σ} {r : BatchResult}
    {ts : List Turn} (hc : Completed e selection store r ts) :
    held (run e selection store).store =
      overwritten place (r.files.zip r.outputs) (held store) := by
  obtain ⟨opened, w, hopened, hcourse, hstore⟩ := hc.course
  have hdirectory := law.directory store e.destination
  rw [hopened] at hdirectory
  rw [hstore, hcourse.held law, hc.files, hc.outputs, zip_paths_outputs]
  exact congrArg _ hdirectory

/-- The module written last under a path is what the path's file holds. -/
theorem Completed.held_last {e : Setting σ} {place : String → κ} {held : σ → κ → Option String}
    (law : e.store.Lawful place held) {selection : List Summary} {store : σ} {r : BatchResult}
    {ts : List Turn} (hc : Completed e selection store r ts) {i : Nat} {path : String} {m : Module}
    (hpath : r.files[i]? = some path) (hm : r.outputs[i]? = some m)
    (hlast : ∀ j, i < j → r.files[j]? ≠ some path) :
    held (run e selection store).store (place path) = some m.emit := by
  have hwrite : (r.files.zip r.outputs)[i]? = some (path, m) :=
    List.getElem?_zip_eq_some.mpr ⟨hpath, hm⟩
  obtain ⟨hi, hget⟩ := List.getElem?_eq_some_iff.mp hwrite
  have hsplit : r.files.zip r.outputs =
      (r.files.zip r.outputs).take i ++ (path, m) :: (r.files.zip r.outputs).drop (i + 1) := by
    rw [← hget, List.getElem_cons_drop, List.take_append_drop]
  rw [hc.held law, hsplit]
  apply overwritten_last
  intro v hv heq
  obtain ⟨j, hj⟩ := List.mem_iff_getElem?.mp hv
  rw [List.getElem?_drop, List.getElem?_zip_eq_some] at hj
  have hsame := hc.files_apart law (List.mem_of_getElem? hj.1) (List.mem_of_getElem? hpath) heq
  rw [hsame] at hj
  exact hlast (i + 1 + j) (by omega) hj.1

theorem held_of_error {e : Setting σ} {place : String → κ} {held : σ → κ → Option String}
    (law : e.store.Lawful place held) {selection : List Summary} {store : σ} {error : BatchError}
    (h : (run e selection store).outcome = .error error) :
    held (run e selection store).store = held store := by
  have hdirectory := law.directory store e.destination
  cases hrefusal : refusal e selection with
  | some reason => rw [run_of_refusal hrefusal]
  | none =>
    obtain ⟨_, ⟨opened, cause, hopened, hrun⟩ | ⟨opened, hopened, hrun⟩⟩ :=
      run_of_admitted hrefusal store <;> rw [hopened] at hdirectory
    · rw [hrun]
      exact hdirectory
    · rw [hrun] at h ⊢
      obtain ⟨_, ts, w, hcourse, hstore, hnone⟩ := generate_error h
      have hwrites : ts.filterMap (Turn.write? e.destination) = [] := by
        rw [← zip_paths_outputs, hnone, List.zip_nil_right]
      rw [hstore, hcourse.held law, hwrites]
      exact hdirectory

/-- The batches that are refused outright are those that say so. -/
theorem refusal_of_outcome {e : Setting σ} {selection : List Summary} {store : σ}
    (h : (run e selection store).outcome = .error .emptySelection ∨
      (run e selection store).outcome = .error .noDestination ∨ e.cancel.atStart = true) :
    ∃ error, refusal e selection = some error := by
  cases hrefusal : refusal e selection with
  | some error => exact ⟨error, rfl⟩
  | none =>
    have hstart : e.cancel.atStart ≠ true := by
      intro hstart
      unfold refusal at hrefusal
      iterate 2
        split at hrefusal
        · cases hrefusal
      cases hrefusal
    obtain ⟨_, ⟨opened, cause, _, hrun⟩ | ⟨opened, _, hrun⟩⟩ := run_of_admitted hrefusal store
    · rw [hrun] at h
      rcases h with h | h | h
      · cases h
      · cases h
      · exact (hstart h).elim
    · rw [hrun] at h
      rcases h with h | h | h
      · cases (generate_error h).1
      · cases (generate_error h).1
      · exact (hstart h).elim

theorem run_of_createDirectory {e : Setting σ} {selection : List Summary} {store : σ}
    {error : StoreError} (h : (run e selection store).outcome = .error (.createDirectory error)) :
    refusal e selection = none ∧
      ∃ opened, e.store.ensureDirectory store e.destination = (opened, some error) ∧
        run e selection store =
          ⟨.error (.createDirectory error), .directory e.destination :: e.cancel.events .directory,
            opened, e.cancel.arrives .directory⟩ := by
  cases hrefusal : refusal e selection with
  | some reason =>
    rw [run_of_refusal hrefusal] at h
    cases h
    unfold refusal at hrefusal
    iterate 3
      split at hrefusal
      · cases hrefusal
    cases hrefusal
  | none =>
    refine ⟨rfl, ?_⟩
    obtain ⟨_, ⟨opened, cause, hopened, hrun⟩ | ⟨opened, _, hrun⟩⟩ :=
      run_of_admitted hrefusal store
    · rw [hrun] at h
      cases h
      exact ⟨opened, hopened, hrun⟩
    · rw [hrun] at h
      cases (generate_error h).1

/-- What the result says is what happened to the files. With a result, its modules have
been written to its files in order and nothing else has changed, so the module written
last under a path survives. Without one no file has changed; an empty selection, a missing
destination and a cancellation before the start make no use of the store or the source,
and no fetch starts when the destination cannot be made. -/
theorem run_effect (e : Setting σ) (place : String → κ) (held : σ → κ → Option String)
    (law : e.store.Lawful place held) (selection : List Summary) (store : σ) :
    (∀ r, (run e selection store).outcome = .ok r →
      r.files.length = r.outputs.length ∧
      held (run e selection store).store =
        overwritten place (r.files.zip r.outputs) (held store) ∧
      (∀ k, (∀ path ∈ r.files, place path ≠ k) →
        held (run e selection store).store k = held store k) ∧
      ∀ (i : Nat) (path : String) (m : Module), r.files[i]? = some path → r.outputs[i]? = some m →
        (∀ j, i < j → r.files[j]? ≠ some path) →
        held (run e selection store).store (place path) = some m.emit) ∧
    (∀ error, (run e selection store).outcome = .error error →
      held (run e selection store).store = held store) ∧
    ((run e selection store).outcome = .error .emptySelection ∨
        (run e selection store).outcome = .error .noDestination ∨ e.cancel.atStart = true →
      (∃ error, (run e selection store).outcome = .error error) ∧
      (run e selection store).events = [] ∧ (run e selection store).store = store ∧
      ∀ source operations, run { e with source := source, store := operations } selection store =
        run e selection store) ∧
    ∀ error, (run e selection store).outcome = .error (.createDirectory error) →
      (∀ ev ∈ (run e selection store).events, ∀ id, ev ≠ .fetchStarted id) ∧
      ∀ source, run { e with source := source } selection store = run e selection store := by
  refine ⟨?_, ?_, ?_, ?_⟩
  · intro r h
    obtain ⟨ts, hc⟩ := exists_completed h
    refine ⟨?_, hc.held law, ?_, ?_⟩
    · rw [hc.files, hc.outputs, Turn.length_paths]
    · intro k hk
      rw [hc.held law]
      exact overwritten_other fun w hw => hk w.1 (List.of_mem_zip hw).1
    · intro i path m hpath hm hlast
      exact hc.held_last law hpath hm hlast
  · intro error h
    exact held_of_error law h
  · intro h
    obtain ⟨error, hrefusal⟩ := refusal_of_outcome h
    have hrun := run_of_refusal hrefusal store
    refine ⟨⟨error, by rw [hrun]⟩, by rw [hrun], by rw [hrun], ?_⟩
    intro source operations
    have hother : refusal { e with source := source, store := operations } selection =
      some error := hrefusal
    rw [hrun, run_of_refusal hother]
  · intro error h
    obtain ⟨hrefusal, opened, hopened, hrun⟩ := run_of_createDirectory h
    refine ⟨?_, ?_⟩
    · intro ev hev id
      rw [hrun] at hev
      simp only [List.mem_cons, Cancellation.events] at hev
      rcases hev with rfl | hev
      · exact BatchEvent.noConfusion
      · split at hev
        · simp only [List.mem_singleton] at hev
          subst hev
          exact BatchEvent.noConfusion
        · cases hev
    · intro source
      have hother : refusal { e with source := source } selection = none := hrefusal
      obtain ⟨_, ⟨opened', cause, hopened', hrun'⟩ | ⟨opened', hopened', _⟩⟩ :=
        run_of_admitted hother store
      · rw [hopened] at hopened'
        cases hopened'
        rw [hrun, hrun']
      · rw [hopened] at hopened'
        cases hopened'

theorem smallBatch_lawful (collision : Collision) (refused : String → Option String)
    (moments : Moment → Bool) :
    (smallBatch collision refused moments).store.Lawful id fun files path =>
      Assoc.find? path files :=
  MemoryStore.lawful.withFaults ⟨none, refused⟩

/-- Of two modules of one name the later one is what the file holds. -/
theorem run_effect_overwrite : ∃ r m,
    (run (smallBatch .overwrite (fun _ => none) fun _ => false) threeInterfaces
      []).outcome = .ok r ∧
    r.files = ["out/list.ts", "out/list.ts", "out/c.ts"] ∧ r.outputs[1]? = some m ∧ m.id = 2 ∧
    Assoc.find? "out/list.ts"
      (run (smallBatch .overwrite (fun _ => none) fun _ => false) threeInterfaces []).store =
        some m.emit := by
  have hresult : (run (smallBatch .overwrite (fun _ => none) fun _ => false) threeInterfaces
      []).outcome.toOption.map (fun r => (r.files, (r.outputs[1]?).map Module.id)) =
        some (["out/list.ts", "out/list.ts", "out/c.ts"], some 2) := by decide +kernel
  obtain ⟨r, hr, hfields⟩ := Option.map_eq_some_iff.mp hresult
  obtain ⟨hfiles, hid⟩ := Prod.mk.inj hfields
  obtain ⟨m, hm, hmid⟩ := Option.map_eq_some_iff.mp hid
  have hok := ok_of_toOption hr
  refine ⟨r, m, hok, hfiles, hm, hmid, ?_⟩
  have hlast : ∀ j, 1 < j → r.files[j]? ≠ some "out/list.ts" := by
    intro j hj
    rw [hfiles]
    match j, hj with
    | 2, _ => decide
    | j + 3, _ => simp
  exact ((run_effect _ id _ (smallBatch_lawful .overwrite _ _) threeInterfaces []).1 r
    hok).2.2.2 1 "out/list.ts" m (by rw [hfiles]; rfl) hm hlast

end ApiTypings.Batch
