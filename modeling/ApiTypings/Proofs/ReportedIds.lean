import ApiTypings.Proofs.Accounting

/-!
# The ids in a report

An entry of a report is about one position of the selection, and the interface there can be
asked for again only by the id under which it was selected. What a cancellation leaves over
and what could not be fetched is reported under that id. A module that was not written is
reported under the id of its detail, and that id is the source's: an entry is of no use for
another try exactly when the source answered under an id other than the one it was asked for
and the module was then not written.
-/

namespace ApiTypings

/-- Whether a source that answers for an interface does so under the id it was asked for. -/
def DetailSource.KeepsId (source : DetailSource) (position : Nat) (s : Summary) : Prop :=
  ∀ detail, source.fetch position s.id = .ok detail → detail.id = s.id

namespace Batch

variable {σ : Type}

/-! ## Single turns -/

/-- What is reported about the interface of a turn. -/
def Turn.entries (t : Turn) : List Failure := t.failure?.toList ++ t.degradation?.toList

/-- Whether all that is reported about the interface of a turn is reported under the id by
which it was selected. -/
def Turn.Retriable (t : Turn) : Prop := ∀ f ∈ t.entries, f.id = t.fetched.summary.id

/-- A failure is reported under the id of the detail. -/
theorem Turn.failure?_id {t : Turn} {f : Failure} (h : t.failure? = some f) :
    f.id = t.fetched.detail.id := by
  unfold failure? at h
  split at h
  · cases h
  · cases h
    rfl
  · cases h
    rfl

/-- A turn reports a failure exactly if it writes no module. -/
theorem Turn.failure?_isSome_iff (t : Turn) : t.failure?.isSome = true ↔ t.output? = none := by
  unfold failure? output?
  cases t.fate <;> simp

/-- A source that gives no answer leaves the detail of the listing, and that has the id. -/
theorem answer_id_iff (source : DetailSource) (position : Nat) (s : Summary) :
    (Fetching.answer source (position, s)).detail.id = s.id ↔ source.KeepsId position s := by
  unfold Fetching.answer Fetching.resultOf DetailSource.KeepsId
  cases source.fetch position s.id with
  | ok detail => simp
  | error error => simp [Summary.toDetail]

section Answered
variable {source : DetailSource} {t : Turn} {position : Nat} {s : Summary}

/-- What was not fetched is reported under the id that was asked for. -/
theorem degradation?_id (ht : t.fetched = Fetching.answer source (position, s)) {f : Failure}
    (h : t.degradation? = some f) : f.id = s.id := by
  have hanswer := degradation?_answer source (position, s) t.fate
  rw [← ht] at hanswer
  rw [hanswer] at h
  unfold degradation at h
  split at h
  · cases h
  · cases h
    rfl

theorem summary_of_answer (ht : t.fetched = Fetching.answer source (position, s)) :
    t.fetched.summary = s ∧ t.fetched.position = position := by
  have hkey := Fetching.answer_key source (position, s)
  rw [← ht] at hkey
  exact ⟨congrArg Prod.snd hkey, congrArg Prod.fst hkey⟩

/-- The entries of a turn are of use unless its module was not written and the source
answered under another id. -/
theorem retriable_iff (ht : t.fetched = Fetching.answer source (position, s)) :
    t.Retriable ↔ (t.output? = none → source.KeepsId position s) := by
  have hsummary := (summary_of_answer ht).1
  have hid : t.fetched.detail.id = s.id ↔ source.KeepsId position s := by
    rw [ht]
    exact answer_id_iff source position s
  unfold Turn.Retriable Turn.entries
  rw [← Turn.failure?_isSome_iff, ← hid, hsummary]
  constructor
  · intro hall hfailed
    obtain ⟨f, hf⟩ := Option.isSome_iff_exists.mp hfailed
    rw [← Turn.failure?_id hf]
    exact hall f (by simp [hf])
  · intro hdetail f hf
    simp only [List.mem_append, Option.mem_toList] at hf
    rcases hf with hf | hf
    · rw [Turn.failure?_id hf]
      exact hdetail (by simp [hf])
    · exact degradation?_id ht hf

end Answered

/-- The turns of a batch are about answers of the source. -/
theorem exists_answer {source : DetailSource} {selection : List Summary} {ts : List Turn}
    (h : ts.map Turn.fetched = (Fetching.answers source selection).take ts.length) {t : Turn}
    (ht : t ∈ ts) : ∃ position s, t.fetched = Fetching.answer source (position, s) := by
  have hmem : t.fetched ∈ ts.map Turn.fetched := List.mem_map_of_mem ht
  rw [h] at hmem
  obtain ⟨⟨position, s⟩, _, hanswer⟩ := List.mem_map.mp (List.mem_of_mem_take hmem)
  exact ⟨position, s, hanswer.symm⟩

/-! ## Batches -/

/-- A batch with a result reports about its turns and about the interfaces that a
cancellation left over, in order. The latter, and what could not be fetched, is reported
under the id by which it was selected. So is a module that was not written, unless the
source answered for its interface under another id. -/
theorem run_reports_ids (e : Setting σ) (selection : List Summary) (store : σ) (r : BatchResult)
    (h : (run e selection store).outcome = .ok r) :
    ∃ ts : List Turn, ts.length ≤ selection.length ∧
      ts.map Turn.fetched = (Fetching.answers e.source selection).take ts.length ∧
      r.outputs = ts.filterMap Turn.output? ∧
      r.failures = ts.filterMap Turn.failure? ++ leftOver (selection.drop ts.length) ∧
      r.degraded = ts.filterMap Turn.degradation? ∧
      (∀ t ∈ ts, ∀ f, t.degradation? = some f → f.id = t.fetched.summary.id) ∧
      ∀ t ∈ ts, t.Retriable ↔
        (t.output? = none → e.source.KeepsId t.fetched.position t.fetched.summary) := by
  obtain ⟨ts, hc⟩ := exists_completed h
  refine ⟨ts, hc.bound, hc.fetched, hc.outputs, hc.failures, hc.degraded, ?_, ?_⟩
  · intro t ht f hf
    obtain ⟨position, s, hanswer⟩ := exists_answer hc.fetched ht
    rw [(summary_of_answer hanswer).1]
    exact degradation?_id hanswer hf
  · intro t ht
    obtain ⟨position, s, hanswer⟩ := exists_answer hc.fetched ht
    rw [(summary_of_answer hanswer).1, (summary_of_answer hanswer).2]
    exact retriable_iff hanswer

/-- The second of three interfaces could not be fetched, and its module is refused. All
answers have the ids that were asked for, so both entries have. -/
theorem run_reports_ids_refused : ∃ r,
    (run (smallBatch .reject (fun _ => none) fun _ => false) threeInterfaces []).outcome = .ok r ∧
      r.failures = [⟨2, .rejected "list.ts" 1⟩] ∧ r.degraded = [⟨2, .fetch .decode⟩] ∧
      ∃ ts : List Turn,
        r.failures = ts.filterMap Turn.failure? ++ leftOver (threeInterfaces.drop ts.length) ∧
        ∀ t ∈ ts, t.Retriable := by
  have hresult : (run (smallBatch .reject (fun _ => none) fun _ => false) threeInterfaces
      []).outcome.toOption.map (fun r => (r.failures, r.degraded)) =
        some ([⟨2, .rejected "list.ts" 1⟩], [⟨2, .fetch .decode⟩]) := by decide +kernel
  obtain ⟨r, hr, hreport⟩ := Option.map_eq_some_iff.mp hresult
  have hok := ok_of_toOption hr
  obtain ⟨hfailures, hdegraded⟩ := Prod.mk.inj hreport
  obtain ⟨ts, _, _, _, hsplit, _, _, hretriable⟩ := run_reports_ids _ threeInterfaces [] r hok
  refine ⟨r, hok, hfailures, hdegraded, ts, hsplit, ?_⟩
  intro t ht
  apply (hretriable t ht).mpr
  intro _ detail hdetail
  change (if t.fetched.position = 1 then Except.error FetchError.decode else _) = _ at hdetail
  split at hdetail <;> cases hdetail
  rfl

/-- One interface, for which the source answers under another id and whose write fails. -/
def misnamedBatch : Setting MemoryStore where
  options := ⟨BatchOptions.defaultConcurrency, .overwrite⟩
  source := ⟨fun _ _ => .ok ⟨99, "Interface 1", "/api/a", "GET", [], [], none, none⟩, fun _ _ => 0⟩
  store := MemoryStore.store.withFaults
    ⟨none, fun path => if path = "out/a.ts" then some "disk full" else none⟩
  cancel := .none
  destination := "out"

/-- The failed write is reported under an id that was not selected. -/
theorem write_reported_under_other_id :
    let selection : List Summary := [⟨1, "Interface 1", "/api/a", "GET", "default"⟩]
    ∃ r, (run misnamedBatch selection []).outcome = .ok r ∧
      ∃ f ∈ r.failures, ∀ s ∈ selection, f.id ≠ s.id := by
  intro selection
  have hresult : (run misnamedBatch selection []).outcome.toOption.map
      (·.failures.map Failure.id) = some [99] := by decide +kernel
  obtain ⟨r, hr, hids⟩ := Option.map_eq_some_iff.mp hresult
  obtain ⟨f, hf, hid⟩ := List.mem_map.mp (hids ▸ List.mem_singleton_self 99)
  refine ⟨r, ok_of_toOption hr, f, hf, ?_⟩
  intro s hs
  rw [hid, List.mem_singleton.mp hs]
  decide

end Batch

end ApiTypings
