import ApiTypings.Proofs.StoreEffect

/-!
# No module is lost to another one

Unless later modules replace earlier ones, a batch writes only under names that are
free, so all its modules are there at the end. The names taken at a turn are exactly
those under which an earlier turn wrote; a name whose write failed stays free. When
modules are told apart by their ids, every module is tried; when names are refused, a
module is refused exactly for an earlier one of its name, and that one is named.

The policy that replaces files is left out; what it does follows from the effect of a
batch on the files.
-/

namespace ApiTypings.Batch

variable {σ κ : Type} [DecidableEq κ]

def Turn.written? (t : Turn) : Option String :=
  match t.fate with
  | .written file => some file
  | _ => none

theorem Turn.written?_eq_some {t : Turn} {file : String} :
    t.written? = some file ↔ t.fate = .written file := by
  unfold written?
  cases t.fate <;> simp

theorem Turn.file?_of_written {t : Turn} {file : String} (h : t.fate = .written file) :
    t.file? = some file := by
  simp [file?, h]

/-- The paths of turns are the names under which they wrote, in the destination. -/
theorem paths_eq_map (destination : String) (ts : List Turn) :
    ts.filterMap (Turn.path? destination) =
      (ts.filterMap Turn.written?).map (Path.join destination) := by
  rw [List.map_filterMap]
  congr 1
  funext t
  unfold Turn.path? Turn.written?
  cases t.fate <;> rfl

/-! ## Names that are taken -/

theorem turnOf_written_free {e : Setting σ} (hkeep : e.options.collision ≠ .overwrite)
    {w : Writing σ} {f : Fetched} {file : String} (h : (turnOf e w f).fate = .written file) :
    Assoc.find? file w.taken = none := by
  have hfile := Turn.file?_of_written h
  rw [turnOf_file?] at hfile
  exact free_of_choose hkeep hfile

/-- A turn takes the name under which it writes, and no other. -/
theorem find?_takenAfter {taken : Taken} {t : Turn}
    (hfree : ∀ file, t.fate = .written file → Assoc.find? file taken = none) (file : String)
    (id : Nat) :
    Assoc.find? file (t.takenAfter taken) = some id ↔
      Assoc.find? file taken = some id ∨ t.fate = .written file ∧ t.generated.id = id := by
  unfold Turn.takenAfter
  cases hfate : t.fate with
  | written name =>
    simp only [Assoc.find?_put, Fate.written.injEq]
    by_cases hname : file = name
    · subst hname
      rw [hfree file hfate]
      simp
    · have hother : name ≠ file := fun heq => hname heq.symm
      simp [hname, hother]
  | failed name error => simp
  | refused name earlier => simp

/-- The names taken after turns are those that were taken before and those under which
the turns wrote. -/
theorem Course.find?_taken {e : Setting σ} (hkeep : e.options.collision ≠ .overwrite)
    {w w' : Writing σ} {ts : List Turn} (h : Course e w ts w') (file : String) (id : Nat) :
    Assoc.find? file w'.taken = some id ↔
      Assoc.find? file w.taken = some id ∨
        ∃ t ∈ ts, t.fate = .written file ∧ t.generated.id = id := by
  induction h with
  | done w => simp
  | @turn w w' f ts _ _ _ ih =>
    rw [ih, (process_spec e w f).2.1,
      find?_takenAfter fun name hname => turnOf_written_free hkeep hname]
    simp only [List.mem_cons, exists_eq_or_imp, or_assoc]

/-- Unless files are replaced, turns write under different names, none of which was taken
before. -/
theorem Course.written_nodup {e : Setting σ} (hkeep : e.options.collision ≠ .overwrite)
    {w w' : Writing σ} {ts : List Turn} (h : Course e w ts w') :
    (ts.filterMap Turn.written?).Nodup ∧
      ∀ file ∈ ts.filterMap Turn.written?, Assoc.find? file w.taken = none := by
  induction h with
  | done w => simp
  | @turn w w' f ts _ _ _ ih =>
    obtain ⟨hnodup, hfree⟩ := ih
    rw [(process_spec e w f).2.1] at hfree
    rw [List.filterMap_cons]
    cases hname : (turnOf e w f).written? with
    | none =>
      refine ⟨hnodup, ?_⟩
      intro file hfile
      have hafter := hfree file hfile
      unfold Turn.takenAfter at hafter
      unfold Turn.written? at hname
      split at hname
      · cases hname
      · simp_all
    | some name =>
      have hfate := Turn.written?_eq_some.mp hname
      have hlater : ∀ file ∈ ts.filterMap Turn.written?,
          file ≠ name ∧ Assoc.find? file w.taken = none := by
        intro file hfile
        have hafter := hfree file hfile
        simp only [Turn.takenAfter, hfate, Assoc.find?_put] at hafter
        split at hafter
        · cases hafter
        · next hne => exact ⟨hne, hafter⟩
      refine ⟨List.nodup_cons.mpr ⟨fun hin => (hlater name hin).1 rfl, hnodup⟩, ?_⟩
      intro file hfile
      rcases List.mem_cons.mp hfile with rfl | hfile
      · exact turnOf_written_free hkeep hfate
      · exact (hlater file hfile).2

/-! ## Single turns of a batch -/

/-- Each of several turns starts where those before it have led. -/
theorem Course.split {e : Setting σ} {w w' : Writing σ} {before after : List Turn} {t : Turn}
    (h : Course e w (before ++ t :: after) w') :
    ∃ u f, Course e w before u ∧ t = turnOf e u f := by
  induction before generalizing w with
  | nil =>
    cases h with
    | turn => exact ⟨w, _, .done w, rfl⟩
  | cons b before ih =>
    cases h with
    | turn hnot hturn hrest =>
      obtain ⟨u, f, hcourse, rfl⟩ := ih hrest
      exact ⟨u, f, .turn hnot hturn hcourse, rfl⟩

theorem turnOf_tries {e : Setting σ} (hqualify : e.options.collision = .qualifyById)
    (w : Writing σ) (f : Fetched) : ∃ file, (turnOf e w f).file? = some file := by
  rw [turnOf_file?, hqualify]
  unfold choose
  split <;> exact ⟨_, rfl⟩

/-- When names are refused, a turn is refused exactly if the plain name of its module is
taken. -/
theorem turnOf_refused {e : Setting σ} (hreject : e.options.collision = .reject)
    (w : Writing σ) (f : Fetched) (file : String) (earlier : Nat) :
    (turnOf e w f).fate = .refused file earlier ↔
      file = (turnOf e w f).generated.fileName ∧ Assoc.find? file w.taken = some earlier := by
  have hgenerated : (turnOf e w f).generated = Module.ofDetail f.detail := rfl
  rw [hgenerated]
  rcases process_cases e w f with ⟨name, id, hchoice, hfate, _⟩ | ⟨name, hchoice, hfate, _⟩
  · simp only [turnOf, hfate, Fate.refused.injEq]
    rw [hreject] at hchoice
    unfold choose at hchoice
    split at hchoice
    · cases hchoice
    · next other hother =>
      cases hchoice
      constructor
      · rintro ⟨rfl, rfl⟩
        exact ⟨rfl, hother⟩
      · rintro ⟨rfl, hfind⟩
        rw [hother] at hfind
        cases hfind
        exact ⟨rfl, rfl⟩
  · rw [hreject] at hchoice
    unfold choose at hchoice
    split at hchoice
    · next hfree =>
      constructor
      · intro hrefused
        rcases writeFate_cases e w (Module.ofDetail f.detail) name with
          ⟨_, _, hend⟩ | ⟨_, _, _, hend⟩ <;>
          simp only [turnOf, hfate, hend] at hrefused <;> cases hrefused
      · rintro ⟨rfl, hfind⟩
        rw [hfree] at hfind
        cases hfind
    · cases hchoice

theorem turnOf_plain {e : Setting σ} (hreject : e.options.collision = .reject)
    {w : Writing σ} {f : Fetched} {file : String} (h : (turnOf e w f).fate = .written file) :
    (turnOf e w f).generated.fileName = file := by
  have hfile := Turn.file?_of_written h
  rw [turnOf_file?, hreject] at hfile
  unfold choose at hfile
  split at hfile
  · cases hfile
    rfl
  · cases hfile

/-! ## Batches -/

/-- Unless files are replaced, the files of a result are different files of the store. -/
theorem Completed.places_nodup {e : Setting σ} (hkeep : e.options.collision ≠ .overwrite)
    {place : String → κ} {held : σ → κ → Option String} (law : e.store.Lawful place held)
    {selection : List Summary} {store : σ} {r : BatchResult} {ts : List Turn}
    (hc : Completed e selection store r ts) : (r.files.map place).Nodup := by
  obtain ⟨opened, w, _, hcourse, _⟩ := hc.course
  have hname : ∀ file ∈ ts.filterMap Turn.written?, Path.IsName file := by
    intro file hfile
    obtain ⟨t, ht, hwritten⟩ := List.mem_filterMap.mp hfile
    exact hcourse.isName t ht file (Turn.file?_of_written (Turn.written?_eq_some.mp hwritten))
  rw [hc.files, paths_eq_map, List.map_map]
  apply List.Nodup.map_on _ (hcourse.written_nodup hkeep).1
  intro a ha b hb hab
  exact law.apart e.destination a b (hname a ha) (hname b hb) hab

theorem Completed.holds {e : Setting σ} (hkeep : e.options.collision ≠ .overwrite)
    {place : String → κ} {held : σ → κ → Option String} (law : e.store.Lawful place held)
    {selection : List Summary} {store : σ} {r : BatchResult} {ts : List Turn}
    (hc : Completed e selection store r ts) {i : Nat} {path : String} {m : Module}
    (hpath : r.files[i]? = some path) (hm : r.outputs[i]? = some m) :
    held (run e selection store).store (place path) = some m.emit := by
  refine hc.held_last law hpath hm ?_
  intro j hij hj
  have hnodup := (hc.places_nodup hkeep law).of_map
  obtain ⟨hi, _⟩ := List.getElem?_eq_some_iff.mp hpath
  have hsame := (List.getElem?_inj hi hnodup).mp (hpath.trans hj.symm)
  omega

theorem Completed.all_tried {e : Setting σ} (hqualify : e.options.collision = .qualifyById)
    {selection : List Summary} {store : σ} {r : BatchResult} {ts : List Turn}
    (hc : Completed e selection store r ts) :
    ((run e selection store).events.filterMap BatchEvent.attempt?).map Prod.snd =
      ts.map (·.generated.emit) := by
  obtain ⟨opened, w, _, hcourse, _⟩ := hc.course
  have htried : ∀ t ∈ ts, (t.attempt? e.destination).map Prod.snd = some t.generated.emit := by
    intro t ht
    obtain ⟨before, after, rfl⟩ := List.append_of_mem ht
    obtain ⟨u, f, _, rfl⟩ := hcourse.split
    obtain ⟨file, hfile⟩ := turnOf_tries hqualify u f
    simp only [Turn.attempt?, hfile, Option.map_some]
  rw [hc.attempts, List.map_filterMap, List.filterMap_congr htried, List.filterMap_eq_map']

/-- When names are refused, a turn is refused exactly for an earlier one that wrote under
its name. -/
theorem Completed.refused_iff {e : Setting σ} (hreject : e.options.collision = .reject)
    {selection : List Summary} {store : σ} {r : BatchResult} {ts : List Turn}
    (hc : Completed e selection store r ts) {i : Nat} {t : Turn} (ht : ts[i]? = some t)
    (file : String) (earlier : Nat) :
    t.fate = .refused file earlier ↔
      file = t.generated.fileName ∧ ∃ j s, j < i ∧ ts[j]? = some s ∧ s.fate = .written file ∧
        s.generated.fileName = file ∧ s.generated.id = earlier := by
  have hkeep : e.options.collision ≠ .overwrite := by
    rw [hreject]
    exact Collision.noConfusion
  obtain ⟨opened, w, _, hcourse, _⟩ := hc.course
  obtain ⟨hi, hget⟩ := List.getElem?_eq_some_iff.mp ht
  have hsplit : ts = ts.take i ++ t :: ts.drop (i + 1) := by
    rw [← hget, List.getElem_cons_drop, List.take_append_drop]
  have hplain : ∀ s ∈ ts, s.fate = .written file → s.generated.fileName = file := by
    intro s hs hwritten
    obtain ⟨before, after, rfl⟩ := List.append_of_mem hs
    obtain ⟨u, f, _, rfl⟩ := hcourse.split
    exact turnOf_plain hreject hwritten
  rw [hsplit] at hcourse
  obtain ⟨u, f, hbefore, rfl⟩ := hcourse.split
  rw [turnOf_refused hreject, hbefore.find?_taken hkeep]
  refine and_congr_right fun _ => ?_
  have hnone : Assoc.find? file (openingState e selection opened).taken = none := rfl
  rw [hnone]
  constructor
  · rintro (hopening | ⟨s, hs, hwritten, hid⟩)
    · cases hopening
    · obtain ⟨j, hj⟩ := List.mem_iff_getElem?.mp hs
      rw [List.getElem?_take] at hj
      split at hj
      · next hlt =>
        exact ⟨j, s, hlt, hj, hwritten, hplain s (List.mem_of_getElem? hj) hwritten, hid⟩
      · cases hj
  · rintro ⟨j, s, hlt, hj, hwritten, _, hid⟩
    refine .inr ⟨s, ?_, hwritten, hid⟩
    rw [List.mem_iff_getElem?]
    exact ⟨j, by rw [List.getElem?_take_of_lt hlt, hj]⟩

/-- No module of a batch is lost to another one of the same batch unless later ones
replace earlier ones. The files of a result are different, also for the store, and each
holds its module. Some first part of the selection was processed. When modules are told
apart by their ids, a write was tried for each of these; when names are refused, one of
these was refused exactly if an earlier one was written under its name, whose id the
reason tells. -/
theorem run_keeps_modules (e : Setting σ) (place : String → κ) (held : σ → κ → Option String)
    (law : e.store.Lawful place held)
    (hkeep : e.options.collision = .qualifyById ∨ e.options.collision = .reject)
    (selection : List Summary) (store : σ) (r : BatchResult)
    (h : (run e selection store).outcome = .ok r) :
    r.files.Nodup ∧ (r.files.map place).Nodup ∧ r.files.length = r.outputs.length ∧
      (∀ (i : Nat) (path : String) (m : Module), r.files[i]? = some path →
        r.outputs[i]? = some m →
        held (run e selection store).store (place path) = some m.emit) ∧
      ∃ ts : List Turn,
        ts.map Turn.fetched = (Fetching.answers e.source selection).take ts.length ∧
        (run e selection store).events.filterMap BatchEvent.generated? =
          ts.map (·.fetched.detail) ∧
        r.outputs = ts.filterMap Turn.output? ∧
        r.files = ts.filterMap (Turn.path? e.destination) ∧
        r.failures = ts.filterMap Turn.failure? ++ leftOver (selection.drop ts.length) ∧
        (e.options.collision = .qualifyById →
          ((run e selection store).events.filterMap BatchEvent.attempt?).map Prod.snd =
            ts.map (·.generated.emit)) ∧
        (e.options.collision = .reject →
          ∀ (i : Nat) (t : Turn), ts[i]? = some t → ∀ (file : String) (earlier : Nat),
            t.fate = .refused file earlier ↔
              file = t.generated.fileName ∧ ∃ j s, j < i ∧ ts[j]? = some s ∧
                s.fate = .written file ∧ s.generated.fileName = file ∧
                s.generated.id = earlier) := by
  have hreplace : e.options.collision ≠ .overwrite := by
    rcases hkeep with hkeep | hkeep <;> rw [hkeep] <;> exact Collision.noConfusion
  obtain ⟨ts, hc⟩ := exists_completed h
  have hnodup := hc.places_nodup hreplace law
  refine ⟨hnodup.of_map, hnodup, ?_, ?_, ts, hc.fetched, hc.generated, hc.outputs, hc.files,
    hc.failures, ?_, ?_⟩
  · rw [hc.files, hc.outputs, Turn.length_paths]
  · intro i path m hpath hm
    exact hc.holds hreplace law hpath hm
  · intro hqualify
    exact hc.all_tried hqualify
  · intro hreject i t ht file earlier
    exact hc.refused_iff hreject ht file earlier

/-- The second of two modules of one name gets a name with its id. -/
theorem run_keeps_modules_qualified : ∃ r,
    (run (smallBatch .qualifyById (fun _ => none) fun _ => false) threeInterfaces
      []).outcome = .ok r ∧
    r.files = ["out/list.ts", "out/list_2.ts", "out/c.ts"] ∧ r.files.Nodup := by
  have hresult : (run (smallBatch .qualifyById (fun _ => none) fun _ => false) threeInterfaces
      []).outcome.toOption.map BatchResult.files =
        some ["out/list.ts", "out/list_2.ts", "out/c.ts"] := by decide +kernel
  obtain ⟨r, hr, hfiles⟩ := Option.map_eq_some_iff.mp hresult
  have hok := ok_of_toOption hr
  exact ⟨r, hok, hfiles, (run_keeps_modules _ id _ (smallBatch_lawful .qualifyById _ _) (.inl rfl)
    threeInterfaces [] r hok).1⟩

end ApiTypings.Batch
