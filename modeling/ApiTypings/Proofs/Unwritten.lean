import ApiTypings.Proofs.Accounting
import ApiTypings.Proofs.Cancellation

/-!
# Cancelled batches that write nothing

As long as nothing is written no name is taken, so every turn tries a write, and every
write fails. A cancellation is looked for before each turn, and a batch that finds one then
has no result. What is not looked for is a cancellation that arrives during the last write:
such a batch has a result without a single module, and its failures do not mention the
cancellation.
-/

namespace ApiTypings

/-- The path that an event tells was written. -/
def BatchEvent.written? : BatchEvent → Option String
  | .writeEnded _ path _ none => some path
  | _ => none

theorem BatchEvent.written?_of_attempt? {ev : BatchEvent} (h : ev.attempt? = none) :
    ev.written? = none := by
  cases ev <;> first | rfl | cases h

namespace Batch

variable {σ : Type}

/-! ## What turns write -/

theorem Turn.ending?_written (destination : String) (t : Turn) :
    (t.ending? destination).bind BatchEvent.written? = t.path? destination := by
  unfold Turn.ending? Turn.file? Turn.error? Turn.path?
  cases t.fate <;> rfl

theorem Course.written {e : Setting σ} {w w' : Writing σ} {ts : List Turn}
    (h : Course e w ts w') :
    w'.events.filterMap BatchEvent.written? =
      w.events.filterMap BatchEvent.written? ++ ts.filterMap (Turn.path? e.destination) := by
  simp only [h.endings fun _ => BatchEvent.written?_of_attempt?, Turn.ending?_written]

/-! ## Turns that write nothing -/

/-- A turn that writes nothing takes no name. -/
theorem Turn.takenAfter_of_unwritten {destination : String} {t : Turn} (taken : Taken)
    (h : t.path? destination = none) : t.takenAfter taken = taken := by
  unfold Turn.path? at h
  unfold Turn.takenAfter
  cases hfate : t.fate with
  | written file =>
    rw [hfate] at h
    cases h
  | failed file error => rfl
  | refused file earlier => rfl

/-- As long as nothing is written, every turn tries a write. -/
theorem Course.length_attempts {e : Setting σ} {w w' : Writing σ} {ts : List Turn}
    (h : Course e w ts w') (htaken : w.taken = [])
    (hnone : ts.filterMap (Turn.path? e.destination) = []) :
    (ts.filterMap (Turn.attempt? e.destination)).length = ts.length := by
  induction h with
  | done w => rfl
  | @turn w w' f ts _ _ _ ih =>
    have hall := List.filterMap_eq_nil_iff.mp hnone
    have hfirst : (turnOf e w f).path? e.destination = none := hall _ (by simp)
    have hrest : ts.filterMap (Turn.path? e.destination) = [] :=
      List.filterMap_eq_nil_iff.mpr fun t ht => hall t (by simp [ht])
    have hkept : (w.process e f).taken = [] := by
      rw [(process_spec e w f).2.1, Turn.takenAfter_of_unwritten _ hfirst, htaken]
    have hattempt : (turnOf e w f).attempt? e.destination =
        some (Path.join e.destination (Module.ofDetail f.detail).fileName,
          (Module.ofDetail f.detail).emit) := by
      rw [Turn.attempt?, file?_of_untaken e f htaken]
      rfl
    rw [List.filterMap_cons_some hattempt, List.length_cons, List.length_cons, ih hkept hrest]

/-- A batch that gets through some turns and is cancelled then was cancelled during the
write of the last one. -/
theorem Course.cancelled_at_last {e : Setting σ} {w w' : Writing σ} {ts : List Turn}
    (h : Course e w ts w') (hts : ts ≠ []) (hc : w'.cancelled = true) :
    ∃ before t file, ts = before ++ [t] ∧
      e.cancel.arrives (.write t.fetched.position file) = true := by
  induction h with
  | done => exact (hts rfl).elim
  | @turn w w' f ts hw _ hrest ih =>
    by_cases hlast : ts = []
    · subst hlast
      cases hrest
      rw [(process_spec e w f).2.2.2.1, hw, Bool.false_or, Option.any_eq_true] at hc
      obtain ⟨file, _, harrives⟩ := hc
      exact ⟨[], turnOf e w f, file, rfl, harrives⟩
    · obtain ⟨before, t, file, rfl, harrives⟩ := ih hlast hc
      exact ⟨turnOf e w f :: before, t, file, rfl, harrives⟩

/-- The last of the turns for a whole selection is that of its last position. -/
theorem last_position {selection : List Summary} {before : List Turn} {t : Turn}
    (h : (before ++ [t]).map (·.fetched.key) = Fetching.positions selection) :
    t.fetched.position = selection.length - 1 := by
  have hlength : before.length + 1 = selection.length := by
    have := congrArg List.length h
    simpa using this
  have hpositions : (before ++ [t]).map (·.fetched.position) = List.range selection.length := by
    have := congrArg (List.map Prod.fst) h
    rw [List.map_map, Fetching.positions_map_fst] at this
    exact this
  rw [← hlength, List.range_succ, List.map_append] at hpositions
  have hlast := (List.append_inj' hpositions rfl).2
  rw [← hlength]
  exact (List.cons.inj hlast).1

/-! ## Batches -/

@[simp] theorem opening_written (e : Setting σ) (selection : List Summary) :
    (openingEvents e selection).filterMap BatchEvent.written? = [] :=
  List.filterMap_eq_nil_iff.mpr fun ev hev =>
    BatchEvent.written?_of_attempt? (opening_silent e selection ev hev).2

section Course
variable {e : Setting σ} {selection : List Summary} {opened : σ} {w : Writing σ} {ts : List Turn}

/-- The turns of a batch that wrote nothing so far: each of them tried a write, and each
failed for a reason of its own. -/
theorem turns_of_unwritten (h : Course e (openingState e selection opened) ts w)
    (hnone : ∀ ev ∈ w.events, ev.written? = none) :
    (w.events.filterMap BatchEvent.attempt?).length = ts.length ∧ w.result.succeeded = 0 ∧
      w.result.failures.length = ts.length ∧ ∀ f ∈ w.result.failures, f.isCancelled = false := by
  have hattempts := h.attempts
  have hwritten := h.written
  simp only [openingState, opening_attempts, opening_written, List.nil_append]
    at hattempts hwritten
  have hpaths : ts.filterMap (Turn.path? e.destination) = [] := by
    rw [← hwritten]
    exact List.filterMap_eq_nil_iff.mpr hnone
  have houtputs : (ts.filterMap Turn.output?).length = 0 := by
    rw [← Turn.length_paths e.destination, hpaths]
    rfl
  have hcount := length_outputs_add_failures ts
  have hresult := h.result
  simp only [openingState, BatchResult.empty, Nat.zero_add, List.nil_append] at hresult
  rw [hattempts, hresult]
  refine ⟨h.length_attempts rfl hpaths, houtputs, ?_, turn_failures_not_cancelled ts⟩
  rw [houtputs, Nat.zero_add] at hcount
  exact hcount

/-- A batch that is cancelled when all its turns are over was cancelled during its last
write. -/
theorem arrives_at_last (h : Course e (openingState e selection opened) ts w)
    (hselection : selection ≠ [])
    (hfetched : (fetching e selection).results.reverse = ts.map Turn.fetched)
    (hc : w.cancelled = true) :
    ∃ file, e.cancel.arrives (.write (selection.length - 1) file) = true := by
  have hts : ts ≠ [] := by
    rintro rfl
    exact Fetching.results_ne_nil _ _ _ _ _ hselection hfetched
  have hkeys := Fetching.run_keys e.source e.cancel e.options.concurrency selection
    (e.cancel.arrives .directory)
  rw [hfetched, List.map_map] at hkeys
  obtain ⟨before, t, file, rfl, harrives⟩ := h.cancelled_at_last hts hc
  rw [last_position hkeys] at harrives
  exact ⟨file, harrives⟩

end Course

/-- How often a batch tries to write. -/
def Run.attempts (r : Run σ) : Nat := (r.events.filterMap BatchEvent.attempt?).length

/-- Once its destination is made, a cancelled batch that writes nothing ends before its last
write is tried and reports the cancellation, or has tried every write and was cancelled
during the last one. -/
theorem generate_of_unwritten {e : Setting σ} {selection : List Summary} {opened : σ}
    (hselection : selection ≠ []) (hc : (generate e selection opened).cancelled = true)
    (hnone : ∀ ev ∈ (generate e selection opened).events, ev.written? = none) :
    ((generate e selection opened).outcome = .error .cancelled ∧
      (generate e selection opened).attempts < selection.length) ∨
    ∃ r, (generate e selection opened).outcome = .ok r ∧
      (generate e selection opened).attempts = selection.length ∧
      r.succeeded = 0 ∧ r.failures.length = selection.length ∧
      (∀ f ∈ r.failures, f.isCancelled = false) ∧
      ∃ file, e.cancel.arrives (.write (selection.length - 1) file) = true := by
  obtain ⟨ts, w, hcourse, hend⟩ := all_cases e (openingState e selection opened)
    (fetching e selection).results.reverse
  have hlength : (fetching e selection).results.reverse.length = selection.length := by
    rw [List.length_reverse]
    exact Fetching.length_results _ _ _ _ _
  rw [generate_eq] at hc hnone ⊢
  unfold Run.attempts
  rcases hend with ⟨hfs, hall⟩ | ⟨f, rest, hfs, _, ⟨_, hall⟩ | ⟨hsome, hall⟩⟩ <;>
    rw [hfs] at hlength <;> rw [hall] at hc hnone ⊢ <;>
    simp only [conclude, Writing.stop, Writing.pass, List.forall_mem_append] at hc hnone
  · -- Every turn is over.
    right
    obtain ⟨htried, hnothing, hfailures, hown⟩ := turns_of_unwritten hcourse hnone.1
    rw [List.length_map] at hlength
    refine ⟨w.result, rfl, ?_, hnothing, hfailures.trans hlength, hown,
      arrives_at_last hcourse hselection hfs hc⟩
    simp only [conclude, List.filterMap_append, List.length_append, htried, hlength]
    rfl
  · -- The cancellation is found before a turn.
    left
    have htried := (turns_of_unwritten hcourse hnone.1).1
    refine ⟨rfl, ?_⟩
    simp only [conclude, Writing.pass, List.filterMap_append, cancel_attempt, List.append_nil,
      htried]
    simp only [List.length_append, List.length_map, List.length_cons] at hlength
    omega
  · exact (hsome (turns_of_unwritten hcourse hnone.1.1.1).2.1).elim

/-- A cancelled batch that writes nothing reports the cancellation exactly when it ends
before its last write is tried. Otherwise it has a result without a module, in which every
interface failed for a reason of its own, and the cancellation arrived during the last
write. -/
theorem run_of_unwritten (e : Setting σ) (selection : List Summary) (store : σ)
    (hselection : selection ≠ []) (hdestination : e.destination ≠ "")
    (hensured : e.cancel.atStart = false → (e.store.ensureDirectory store e.destination).2 = none)
    (hc : (run e selection store).cancelled = true)
    (hnone : ∀ ev ∈ (run e selection store).events, ev.written? = none) :
    ((run e selection store).outcome = .error .cancelled ↔
        (run e selection store).attempts < selection.length) ∧
      (¬ (run e selection store).attempts < selection.length →
        ∃ r, (run e selection store).outcome = .ok r ∧
          (run e selection store).attempts = selection.length ∧
          r.succeeded = 0 ∧ r.failures.length = selection.length ∧
          (∀ f ∈ r.failures, f.isCancelled = false) ∧
          ∃ file, e.cancel.arrives (.write (selection.length - 1) file) = true) := by
  cases hstart : e.cancel.atStart with
  | true =>
    have hrun := run_of_refusal (refusal_eq_cancelled hselection hdestination hstart) store
    have hlt : (run e selection store).attempts < selection.length := by
      rw [hrun]
      exact List.length_pos_iff.mpr hselection
    rw [hrun] at hlt ⊢
    exact ⟨⟨fun _ => hlt, fun _ => rfl⟩, fun hnot => (hnot hlt).elim⟩
  | false =>
    rw [run_eq_generate hselection hdestination hstart (hensured hstart)] at hc hnone ⊢
    rcases generate_of_unwritten hselection hc hnone with ⟨houtcome, hlt⟩ | ⟨r, houtcome, hrest⟩
    · exact ⟨⟨fun _ => hlt, fun _ => houtcome⟩, fun hnot => (hnot hlt).elim⟩
    · have hnot := Nat.not_lt_of_le (Nat.le_of_eq hrest.1.symm)
      refine ⟨⟨fun herror => ?_, fun hlt => (hnot hlt).elim⟩, fun _ => ⟨r, houtcome, hrest⟩⟩
      rw [houtcome] at herror
      cases herror

/-- The first of three writes fails and brings the cancellation, which is found before the
second one. -/
theorem run_of_unwritten_first :
    let e := smallBatch .overwrite (fun _ => some "disk full") (· = .write 0 "list.ts")
    (run e threeInterfaces []).attempts = 1 ∧
      (run e threeInterfaces []).outcome = .error .cancelled := by
  intro e
  have hensured : (e.store.ensureDirectory [] e.destination).2 = none := by decide +kernel
  have hc : (run e threeInterfaces []).cancelled = true := by decide +kernel
  have hnone : ∀ ev ∈ (run e threeInterfaces []).events, ev.written? = none := by decide +kernel
  have hattempts : (run e threeInterfaces []).attempts = 1 := by decide +kernel
  obtain ⟨hiff, _⟩ := run_of_unwritten e threeInterfaces [] (by decide) (by decide)
    (fun _ => hensured) hc hnone
  exact ⟨hattempts, hiff.mpr (by rw [hattempts]; decide)⟩

/-- One interface, whose write fails and brings the cancellation. -/
def failingBatch : Setting MemoryStore where
  options := ⟨BatchOptions.defaultConcurrency, .overwrite⟩
  source := ⟨fun _ id => .ok ⟨id, "Interface 1", "/api/a", "GET", [], [], none, none⟩, fun _ _ => 0⟩
  store := MemoryStore.store.withFaults
    ⟨none, fun path => if path = "out/a.ts" then some "disk full" else none⟩
  cancel := ⟨true, false, (· = .write 0 "a.ts")⟩
  destination := "out"

/-- No one looks for a cancellation after the last write, so this batch, which was cancelled
and wrote nothing, has a result. -/
theorem cancelled_during_last_write :
    let selection : List Summary := [⟨1, "Interface 1", "/api/a", "GET", "default"⟩]
    (failingBatch.store.ensureDirectory [] failingBatch.destination).2 = none ∧
      (run failingBatch selection []).cancelled = true ∧
      (∀ ev ∈ (run failingBatch selection []).events, ev.written? = none) ∧
      ∃ r, (run failingBatch selection []).outcome = .ok r ∧ r.succeeded = 0 := by
  intro selection
  have hresult : (run failingBatch selection []).outcome.toOption.map (·.succeeded) = some 0 := by
    decide +kernel
  obtain ⟨r, hr, hsucceeded⟩ := Option.map_eq_some_iff.mp hresult
  exact ⟨by decide +kernel, by decide +kernel, by decide +kernel, r, ok_of_toOption hr,
    hsucceeded⟩

end Batch

end ApiTypings
