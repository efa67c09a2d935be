import ApiTypings.Proofs.Turns

/-!
# Every interface of a batch is accounted for

A batch with a result reports each interface of its selection once: as written, as
not written for a reason of its own, or as left over by a cancellation. A
cancellation is recognized by its text, so the texts of all other reasons have to
differ from it: each of them holds a blank.
-/

namespace ApiTypings

/-! ## Telling cancellations from errors -/

theorem blank_mem_append {start : String} (h : ' ' ∈ start.toList) (rest : String) :
    ' ' ∈ (start ++ rest).toList := by
  rw [String.toList_append]
  exact List.mem_append_left _ h

theorem blank_mem_fetchError (error : FetchError) : ' ' ∈ error.message.toList := by
  cases error with
  | http status => exact (by decide : ' ' ∈ "HTTP request failed: <detail>".toList)
  | api code message =>
    exact blank_mem_append (blank_mem_append (blank_mem_append (by decide) _) _) _
  | decode => exact (by decide : ' ' ∈ "Unexpected YAPI payload: <detail>".toList)
  | missing what => exact blank_mem_append (by decide) _
  | invalidUrl error => exact blank_mem_append (by decide) _

theorem blank_mem_storeError (error : StoreError) : ' ' ∈ error.message.toList := by
  cases error with
  | createDirectory path cause =>
    exact blank_mem_append (blank_mem_append (blank_mem_append (by decide) _) _) _
  | write path cause =>
    exact blank_mem_append (blank_mem_append (blank_mem_append (by decide) _) _) _

/-- Every reason but a cancellation is a phrase of several words. -/
theorem blank_mem_reason {reason : Reason} (h : reason ≠ .cancelled) :
    ' ' ∈ reason.text.toList := by
  cases reason with
  | cancelled => exact (h rfl).elim
  | fetch error => exact blank_mem_fetchError error
  | write error => exact blank_mem_storeError error
  | rejected file earlier =>
    have hphrase : ' ' ∈ " was already written for interface ".toList := by decide
    apply blank_mem_append
    rw [String.toList_append]
    exact List.mem_append_right _ hphrase

/-- The text of a failure tells whether it is a cancellation. -/
theorem isCancelled_iff (f : Failure) : f.isCancelled = true ↔ f.reason = .cancelled := by
  unfold Failure.isCancelled
  rw [beq_iff_eq]
  constructor
  · intro htext
    by_contra hreason
    have hblank := blank_mem_reason hreason
    rw [htext] at hblank
    revert hblank
    decide
  · intro hreason
    rw [hreason]
    rfl

namespace Batch

variable {σ : Type}

def degradation (source : DetailSource) (key : Nat × Summary) : Option Failure :=
  match source.fetch key.1 key.2.id with
  | .ok _ => none
  | .error error => some ⟨key.2.id, .fetch error⟩

/-- The turn of an answer reports the fetch that failed, and no other. -/
theorem degradation?_answer (source : DetailSource) (key : Nat × Summary) (fate : Fate) :
    (Turn.mk (Fetching.answer source key) fate).degradation? = degradation source key := by
  unfold Turn.degradation? degradation Fetching.answer Fetching.resultOf
  cases source.fetch key.1 key.2.id with
  | ok detail => rfl
  | error error => rfl

/-- A turn writes one file for one module, or fails for a reason of its own. -/
theorem turn_outcome (destination : String) (t : Turn) :
    (∃ path, t.output? = some t.generated ∧ t.path? destination = some path ∧
        t.failure? = none) ∨
      ∃ f, t.output? = none ∧ t.path? destination = none ∧ t.failure? = some f ∧
        f.isCancelled = false := by
  unfold Turn.output? Turn.path? Turn.failure?
  cases t.fate with
  | written file => exact .inl ⟨_, rfl, rfl, rfl⟩
  | failed file error =>
    refine .inr ⟨_, rfl, rfl, rfl, ?_⟩
    rw [← Bool.not_eq_true, isCancelled_iff]
    simp
  | refused file earlier =>
    refine .inr ⟨_, rfl, rfl, rfl, ?_⟩
    rw [← Bool.not_eq_true, isCancelled_iff]
    simp

theorem length_outputs_add_failures (ts : List Turn) :
    (ts.filterMap Turn.output?).length + (ts.filterMap Turn.failure?).length = ts.length := by
  induction ts with
  | nil => rfl
  | cons t ts ih =>
    simp only [List.filterMap_cons]
    rcases turn_outcome "" t with ⟨path, hout, _, hfailure⟩ | ⟨f, hout, _, hfailure, _⟩
    · simp only [hout, hfailure, List.length_cons]
      omega
    · simp only [hout, hfailure, List.length_cons]
      omega

theorem turn_failures_not_cancelled (ts : List Turn) :
    ∀ f ∈ ts.filterMap Turn.failure?, f.isCancelled = false := by
  intro f hf
  obtain ⟨t, _, htf⟩ := List.mem_filterMap.mp hf
  rcases turn_outcome "" t with ⟨path, _, _, hnone⟩ | ⟨g, _, _, hsome, hcancelled⟩
  · rw [hnone] at htf
    cases htf
  · rw [hsome] at htf
    cases htf
    exact hcancelled

theorem leftOver_cancelled (rest : List Summary) :
    ∀ f ∈ leftOver rest, f.isCancelled = true := by
  intro f hf
  obtain ⟨s, _, rfl⟩ := List.mem_map.mp hf
  exact (isCancelled_iff _).mpr rfl

/-- Turns about answers report the fetches that failed, in order. -/
theorem degradations_of_answers {source : DetailSource} {keys : List (Nat × Summary)}
    {ts : List Turn} (h : ts.map Turn.fetched = keys.map (Fetching.answer source)) :
    ts.filterMap Turn.degradation? = keys.filterMap (degradation source) := by
  induction ts generalizing keys with
  | nil =>
    cases keys with
    | nil => rfl
    | cons key keys => cases h
  | cons t ts ih =>
    cases keys with
    | nil => cases h
    | cons key keys =>
      simp only [List.map_cons, List.cons.injEq] at h
      have ht : t.degradation? = degradation source key := by
        rw [← degradation?_answer source key t.fate, ← h.1]
      rw [List.filterMap_cons, List.filterMap_cons, ht, ih h.2]

/-- A batch with a result accounts for every interface of its selection. Some first
part of the selection was processed, each interface once and in order, and each of
these gave a written module or a failure that is no cancellation. The rest is reported
as cancelled, in order, and nothing else is; then some module was written. The degraded
interfaces are those among the processed ones whose fetch failed. -/
theorem run_accounts (e : Setting σ) (selection : List Summary) (store : σ) (r : BatchResult)
    (h : (run e selection store).outcome = .ok r) :
    r.outputs.length = r.succeeded ∧ r.files.length = r.succeeded ∧
      r.succeeded + r.failures.length = selection.length ∧
      ∃ ts : List Turn, ts.length ≤ selection.length ∧
        ts.map Turn.fetched = (Fetching.answers e.source selection).take ts.length ∧
        (run e selection store).events.filterMap BatchEvent.generated? =
          ts.map (·.fetched.detail) ∧
        (∀ t ∈ ts,
          (∃ path, t.output? = some t.generated ∧ t.path? e.destination = some path ∧
            t.failure? = none) ∨
          ∃ f, t.output? = none ∧ t.path? e.destination = none ∧ t.failure? = some f ∧
            f.isCancelled = false) ∧
        r.outputs = ts.filterMap Turn.output? ∧
        r.files = ts.filterMap (Turn.path? e.destination) ∧
        r.failures = ts.filterMap Turn.failure? ++ leftOver (selection.drop ts.length) ∧
        r.failures.filter Failure.isCancelled = leftOver (selection.drop ts.length) ∧
        (∀ f ∈ r.degraded, f.isCancelled = false) ∧
        (ts.length < selection.length → 1 ≤ r.succeeded) ∧
        r.degraded =
          ((Fetching.positions selection).take ts.length).filterMap (degradation e.source) := by
  obtain ⟨ts, hc⟩ := exists_completed h
  have hdegraded : r.degraded =
      ((Fetching.positions selection).take ts.length).filterMap (degradation e.source) := by
    rw [hc.degraded]
    apply degradations_of_answers
    rw [hc.fetched, Fetching.answers, List.map_take]
  refine ⟨?_, ?_, ?_, ts, hc.bound, hc.fetched, hc.generated, ?_, hc.outputs, hc.files,
    hc.failures, ?_, ?_, hc.written, hdegraded⟩
  · rw [hc.outputs, hc.succeeded]
  · rw [hc.files, hc.succeeded, Turn.length_paths]
  · have hcount := length_outputs_add_failures ts
    have hbound := hc.bound
    rw [hc.succeeded, hc.failures, List.length_append, leftOver, List.length_map, List.length_drop]
    omega
  · intro t _
    exact turn_outcome e.destination t
  · rw [hc.failures, List.filter_append, List.filter_eq_self.mpr (leftOver_cancelled _),
      List.filter_eq_nil_iff.mpr]
    · rfl
    · intro f hf
      rw [turn_failures_not_cancelled ts f hf]
      exact Bool.false_ne_true
  · intro f hf
    rw [hdegraded] at hf
    obtain ⟨key, _, hkey⟩ := List.mem_filterMap.mp hf
    unfold degradation at hkey
    split at hkey
    · cases hkey
    · cases hkey
      rw [← Bool.not_eq_true, isCancelled_iff]
      simp

/-- The first of three modules is written, the second one refused, and the batch is
cancelled before the third. -/
theorem run_accounts_cancelled : ∃ r,
    (run (smallBatch .reject (fun _ => none) (· = .turn 2)) threeInterfaces []).outcome = .ok r ∧
      r.failures.filter Failure.isCancelled = leftOver (threeInterfaces.drop 2) ∧
      r.succeeded + r.failures.length = 3 := by
  have hresult : (run (smallBatch .reject (fun _ => none) (· = .turn 2)) threeInterfaces
      []).outcome.toOption.map (·.failures.filter Failure.isCancelled) =
        some (leftOver (threeInterfaces.drop 2)) := by decide +kernel
  obtain ⟨r, hr, hcancelled⟩ := Option.map_eq_some_iff.mp hresult
  have hok := ok_of_toOption hr
  exact ⟨r, hok, hcancelled, (run_accounts _ threeInterfaces [] r hok).2.2.1⟩

end Batch

end ApiTypings
