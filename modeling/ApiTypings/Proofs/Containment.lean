import ApiTypings.Proofs.DistinctNames
import ApiTypings.Proofs.Repetition

/-!
# Failures stay with the interface they hit

In a batch whose modules have different names every interface has an account of its own. So an
interface that fares differently leaves the accounts of the others as they were. The accounts know
nothing of positions either: in another order they are the same ones in that order, and since they
are about different files these end up the same.
-/

namespace ApiTypings.Batch

variable {σ : Type}

/-! ## Another order -/

/-- The answers of a source to an interface of a selection do not depend on the position they are
asked for. -/
theorem answer_position {source source' : DetailSource} {i j : Nat} {s : Summary}
    (h : source'.fetch j s.id = source.fetch i s.id) :
    (Fetching.answer source' (j, s)).detail = (Fetching.answer source (i, s)).detail ∧
      (Fetching.answer source' (j, s)).reason = (Fetching.answer source (i, s)).reason := by
  unfold Fetching.answer
  simp only [h]
  cases source.fetch i s.id with
  | ok detail => exact ⟨rfl, rfl⟩
  | error error => exact ⟨rfl, rfl⟩

theorem position_eq_idxOf {selection : List Summary} (hnodup : selection.Nodup) {i : Nat}
    {s : Summary} (h : (i, s) ∈ Fetching.positions selection) : i = selection.idxOf s := by
  obtain ⟨k, hk, hget⟩ := List.mem_iff_getElem.mp h
  simp only [Fetching.positions, List.getElem_zip, List.getElem_range, Prod.mk.injEq] at hget
  obtain ⟨rfl, rfl⟩ := hget
  exact (hnodup.idxOf_getElem _ _).symm

/-- A source that answers the interfaces of a selection in another order as before answers with a
permutation of what it answered. -/
theorem answers_perm {β : Type} (g : Detail → Option Reason → β) {source source' : DetailSource}
    {selection selection' : List Summary} (hids : (selection.map (·.id)).Nodup)
    (hperm : selection'.Perm selection)
    (h : ∀ i j s, (i, s) ∈ Fetching.positions selection → (j, s) ∈ Fetching.positions selection' →
      source'.fetch j s.id = source.fetch i s.id) :
    ((Fetching.answers source' selection').map fun f => g f.detail f.reason).Perm
      ((Fetching.answers source selection).map fun f => g f.detail f.reason) := by
  have hnodup : selection.Nodup := List.Nodup.of_map _ hids
  -- What is answered to an interface, said by the place it has in the first selection.
  let content (s : Summary) : β :=
    g (Fetching.answer source (selection.idxOf s, s)).detail
      (Fetching.answer source (selection.idxOf s, s)).reason
  have hfirst : (Fetching.answers source selection).map (fun f => g f.detail f.reason) =
      selection.map content := by
    conv_rhs => rw [← Fetching.positions_map_snd selection]
    rw [Fetching.answers, List.map_map, List.map_map]
    apply List.map_congr_left
    rintro ⟨i, s⟩ hkey
    simp only [Function.comp_apply, content, ← position_eq_idxOf hnodup hkey]
  have hsecond : (Fetching.answers source' selection').map (fun f => g f.detail f.reason) =
      selection'.map content := by
    conv_rhs => rw [← Fetching.positions_map_snd selection']
    rw [Fetching.answers, List.map_map, List.map_map]
    apply List.map_congr_left
    rintro ⟨j, s⟩ hkey
    have hs : s ∈ selection' := by
      rw [← Fetching.positions_map_snd selection']
      exact List.mem_map_of_mem hkey
    have hlt := List.idxOf_lt_length_iff.mpr (hperm.mem_iff.mp hs)
    have hin := Fetching.mem_positions hlt
    rw [List.getElem_idxOf hlt] at hin
    obtain ⟨hdetail, hreason⟩ := answer_position (h _ j s hin hkey)
    simp only [Function.comp_apply, content, hdetail, hreason]
  rw [hfirst, hsecond]
  exact hperm.map content

/-- A batch that is not cancelled was not cancelled before. -/
theorem atStart_of_not_cancelled {e : Setting σ} {selection : List Summary} {store : σ}
    (h : (run e selection store).cancelled = false) : e.cancel.atStart = false := by
  rw [← Bool.not_eq_true]
  intro hstart
  obtain ⟨error, hrefusal⟩ := exists_refusal hstart selection
  rw [run_of_refusal hrefusal, hstart] at h
  cases h

/-- A batch that selects the same interfaces in another order, from a source that answers them as
before, for the same destination. Its policy, its schedule and its cancellation are its own. -/
structure Reordered (e e' : Setting σ) (selection selection' : List Summary) : Prop where
  store : e'.store = e.store
  destination : e'.destination = e.destination
  perm : selection'.Perm selection
  fetch : ∀ i j s, (i, s) ∈ Fetching.positions selection →
    (j, s) ∈ Fetching.positions selection' → e'.source.fetch j s.id = e.source.fetch i s.id

section Reordered
variable {e e' : Setting σ} {selection selection' : List Summary} {store : σ}

theorem Reordered.separate (hre : Reordered e e' selection selection')
    (h : Separate e selection store) (hcancelled : (run e' selection' store).cancelled = false) :
    Separate e' selection' store where
  uncancelled := hcancelled
  ids := (hre.perm.map _).nodup_iff.mpr h.ids
  names :=
    (answers_perm (fun detail _ => (Module.ofDetail detail).fileName) h.ids hre.perm
      hre.fetch).nodup_iff.mpr h.names

theorem Reordered.exists_result (hre : Reordered e e' selection selection')
    (hcancelled : (run e' selection' store).cancelled = false) {r : BatchResult}
    (hr : (run e selection store).outcome = .ok r) :
    ∃ r', (run e' selection' store).outcome = .ok r' := by
  obtain ⟨hselection, opened, hopened, _⟩ := run_ok hr
  have hselection' : selection' ≠ [] := by
    rintro rfl
    exact hselection hre.perm.nil_eq.symm
  have hdestination : e'.destination ≠ "" := by
    intro hempty
    have hrefusal : refusal e selection = some .noDestination := by
      rw [hre.destination] at hempty
      simp [refusal, hselection, hempty]
    rw [run_of_refusal hrefusal] at hr
    cases hr
  have hstart := atStart_of_not_cancelled hcancelled
  have hensured : (e'.store.ensureDirectory store e'.destination).2 = none := by
    rw [hre.store, hre.destination, hopened]
  rw [run_eq_generate hselection' hdestination hstart hensured] at hcancelled ⊢
  exact generate_ok hcancelled

theorem Reordered.accounts_perm (hre : Reordered e e' selection selection')
    (steady : e.store.Steady) (h : Separate e selection store) {r r' : BatchResult}
    (hr : (run e selection store).outcome = .ok r) (h' : Separate e' selection' store)
    (hr' : (run e' selection' store).outcome = .ok r') :
    (accounts e' selection' store).Perm (accounts e selection store) := by
  have hsame : e'.account store = e.account store := by
    funext f
    simp only [Setting.account, Setting.writeError, hre.store, hre.destination]
  rw [h'.accounts_eq (hre.store ▸ steady) hr', h.accounts_eq steady hr, hsame]
  exact answers_perm (fun detail reason => Account.of e.destination detail reason
    (e.writeError store (Module.ofDetail detail).fileName)) h.ids hre.perm hre.fetch

end Reordered

/-! ## Containment -/

/-- A batch without a result, not cancelled, was stopped before it tried a write, whatever its
source answers. -/
theorem stopped_before_writing {e : Setting σ} {selection : List Summary} {store : σ}
    (h : (run e selection store).cancelled = false) {error : BatchError}
    (herror : (run e selection store).outcome = .error error) :
    (run e selection store).events.filterMap BatchEvent.attempt? = [] ∧
      ∀ source, (run (e.asking source) selection store).outcome = .error error := by
  cases hrefusal : refusal e selection with
  | some reason =>
    rw [run_of_refusal hrefusal] at herror ⊢
    refine ⟨rfl, fun source => ?_⟩
    have hrefusal' : refusal (e.asking source) selection = some reason := hrefusal
    rw [run_of_refusal hrefusal']
    exact herror
  | none =>
    obtain ⟨hselection, ⟨left, cause, hleft, hrun⟩ | ⟨opened, _, hrun⟩⟩ :=
      run_of_admitted hrefusal store <;> rw [hrun] at h herror ⊢
    · constructor
      · rw [List.filterMap_cons_none rfl, cancel_attempt]
      · intro source
        have hrefusal' : refusal (e.asking source) selection = none := hrefusal
        have hleft' : (e.asking source).store.ensureDirectory store
          (e.asking source).destination = (left, some cause) := hleft
        rw [run_of_unopened hrefusal' hleft']
        exact herror
    · obtain ⟨r, hr⟩ := generate_ok h
      rw [hr] at herror
      cases herror

/-- The same was fetched in two batches, and the write of its module ends the same way. -/
structure FaresAlike {σ' : Type} (e : Setting σ) (store : σ) (f : Fetched) (e' : Setting σ')
    (store' : σ') (f' : Fetched) : Prop where
  detail : f.detail = f'.detail
  reason : f.reason = f'.reason
  write : e.writeError store f.fileName = e'.writeError store' f'.fileName

/-- Failures stay with the interface they hit. A batch whose modules have different names has a
result, once its destination is made, and tries each module once under its own name. The result
consists of one account for each interface, which follows from what was fetched for it and from how
its own write ended; so does what its file holds. On a steady store a position has the same account
in all batches in which it fares alike, however the others fare. In another order the accounts are
permuted, and the files are the same. -/
theorem run_contains_failures (e : Setting σ) (selection : List Summary) (store : σ)
    (h : Separate e selection store) :
    (selection ≠ [] → e.destination ≠ "" →
      (e.store.ensureDirectory store e.destination).2 = none →
        ∃ r, (run e selection store).outcome = .ok r) ∧
    (∀ error, (run e selection store).outcome = .error error →
      (run e selection store).events.filterMap BatchEvent.attempt? = [] ∧
        ∀ source, (run (e.asking source) selection store).outcome = .error error) ∧
    ∀ r, (run e selection store).outcome = .ok r →
      (accounts e selection store).length = selection.length ∧
      r = ofAccounts (accounts e selection store) ∧
      (run e selection store).events.filterMap BatchEvent.attempt? =
        (Fetching.answers e.source selection).map (fun f =>
          (Path.join e.destination f.fileName, (Module.ofDetail f.detail).emit)) ∧
      (∀ (κ : Type) [DecidableEq κ] (place : String → κ) (held : σ → κ → Option String),
        e.store.Lawful place held → ∀ (j : Nat) (f : Fetched) (a : Account),
          (Fetching.answers e.source selection)[j]? = some f →
            (accounts e selection store)[j]? = some a →
              held (run e selection store).store (place (Path.join e.destination f.fileName)) =
                (a.written.map fun v => v.2.emit).or
                  (held store (place (Path.join e.destination f.fileName)))) ∧
      (e.store.Steady →
        accounts e selection store =
          (Fetching.answers e.source selection).map (e.account store) ∧
        (∀ (σ' : Type) (e' : Setting σ') (selection' : List Summary) (store' : σ')
          (r' : BatchResult), e'.store.Steady → Separate e' selection' store' →
            (run e' selection' store').outcome = .ok r' → e'.destination = e.destination →
              ∀ (j : Nat) (f f' : Fetched), (Fetching.answers e.source selection)[j]? = some f →
                (Fetching.answers e'.source selection')[j]? = some f' →
                  FaresAlike e store f e' store' f' →
                    (accounts e selection store)[j]? = (accounts e' selection' store')[j]?) ∧
        ∀ (e' : Setting σ) (selection' : List Summary), Reordered e e' selection selection' →
          (run e' selection' store).cancelled = false →
            ∃ r', (run e' selection' store).outcome = .ok r' ∧
              (accounts e' selection' store).Perm (accounts e selection store) ∧
              r'.succeeded = r.succeeded ∧ r'.outputs.Perm r.outputs ∧ r'.files.Perm r.files ∧
              r'.failures.Perm r.failures ∧ r'.degraded.Perm r.degraded ∧
              ∀ (κ : Type) [DecidableEq κ] (place : String → κ) (held : σ → κ → Option String),
                e.store.Lawful place held →
                  held (run e' selection' store).store = held (run e selection store).store) := by
  refine ⟨?_, fun error => stopped_before_writing h.uncancelled, ?_⟩
  · intro hselection hdestination hensured
    have hcancelled := h.uncancelled
    have hstart := atStart_of_not_cancelled hcancelled
    rw [run_eq_generate hselection hdestination hstart hensured] at hcancelled ⊢
    exact generate_ok hcancelled
  intro r hr
  refine ⟨h.length_accounts hr, h.result hr, h.attempts hr, ?_, ?_⟩
  · intro κ _ place held law j f a hf ha
    exact h.file_own law hr hf ha
  intro steady
  refine ⟨h.accounts_eq steady hr, ?_, ?_⟩
  · intro σ' e' selection' store' r' steady' h' hr' hdestination j f f' hf hf' halike
    rw [h.accounts_eq steady hr, h'.accounts_eq steady' hr', List.getElem?_map, List.getElem?_map,
      hf, hf']
    simp only [Option.map_some, Setting.account, halike.detail, halike.reason, halike.write,
      hdestination]
  · intro e' selection' hre hcancelled
    have h' := hre.separate h hcancelled
    obtain ⟨r', hr'⟩ := hre.exists_result hcancelled hr
    have hperm := hre.accounts_perm steady h hr h' hr'
    have hwritten := hperm.filterMap Account.written
    refine ⟨r', hr', hperm, ?_⟩
    rw [h.result hr, h'.result hr']
    refine ⟨hwritten.length_eq, hwritten.map _, hwritten.map _, hperm.filterMap _,
      hperm.filterMap _, ?_⟩
    intro κ _ place held law
    have law' : e'.store.Lawful place held := hre.store ▸ law
    rw [h.files law hr, h'.files law' hr']
    exact overwritten_perm hwritten (h'.accounts_apart law' hr') _

/-- One file that cannot be written. -/
def fullDisk : Faults := ⟨none, fun path => if path = "out/c.ts" then some "disk full" else none⟩

/-- A batch in memory. Interface 2 cannot be fetched, and the module of interface 3 cannot be
written. -/
def troubledBatch (collision : Collision) : Setting MemoryStore where
  options := ⟨2, collision⟩
  source := ⟨fun _ id =>
    if id = 2 then .error .decode
    else .ok ⟨id, "", if id = 1 then "/list" else "/c", "GET", [], [], none, none⟩,
    fun _ _ => 1⟩
  store := MemoryStore.store.withFaults fullDisk
  cancel := .none
  destination := "out"

def troubledInterfaces : List Summary :=
  [⟨1, "", "/list", "GET", ""⟩, ⟨2, "", "/menu", "GET", ""⟩, ⟨3, "", "/c", "GET", ""⟩]

/-- In the opposite order and under another policy the same modules are written, and the files are
the same. -/
theorem run_contains_failures_reversed : ∃ r r',
    (run (troubledBatch .overwrite) troubledInterfaces [("out/c.ts", "old")]).outcome = .ok r ∧
    r.files = ["out/list.ts", "out/menu.ts"] ∧ r.failures.map Failure.id = [3] ∧
    r.degraded.map Failure.id = [2] ∧
    (run (troubledBatch .reject) troubledInterfaces.reverse [("out/c.ts", "old")]).outcome =
      .ok r' ∧
    r'.files.Perm r.files ∧
    ∀ path, Assoc.find? path
        (run (troubledBatch .reject) troubledInterfaces.reverse [("out/c.ts", "old")]).store =
      Assoc.find? path
        (run (troubledBatch .overwrite) troubledInterfaces [("out/c.ts", "old")]).store := by
  have hresult : (run (troubledBatch .overwrite) troubledInterfaces
      [("out/c.ts", "old")]).outcome.toOption.map
        (fun r => (r.files, r.failures.map Failure.id, r.degraded.map Failure.id)) =
      some (["out/list.ts", "out/menu.ts"], [3], [2]) := by decide +kernel
  obtain ⟨r, hr, hfields⟩ := Option.map_eq_some_iff.mp hresult
  obtain ⟨hfiles, hentries⟩ := Prod.mk.inj hfields
  obtain ⟨hfailures, hdegraded⟩ := Prod.mk.inj hentries
  have hok := ok_of_toOption hr
  have hsteady := MemoryStore.steady.withFaults fullDisk
  have hseparate : Separate (troubledBatch .overwrite) troubledInterfaces [("out/c.ts", "old")] :=
    ⟨by decide +kernel, by decide, by decide +kernel⟩
  have hreversed : Reordered (troubledBatch .overwrite) (troubledBatch .reject) troubledInterfaces
      troubledInterfaces.reverse := ⟨rfl, rfl, List.reverse_perm _, fun _ _ _ _ _ => rfl⟩
  obtain ⟨_, _, hall⟩ := run_contains_failures (troubledBatch .overwrite) troubledInterfaces
    [("out/c.ts", "old")] hseparate
  obtain ⟨_, _, _, _, hsteadily⟩ := hall r hok
  obtain ⟨_, _, hany⟩ := hsteadily hsteady
  obtain ⟨r', hr', _, _, _, hpaths, _, _, hheld⟩ :=
    hany (troubledBatch .reject) troubledInterfaces.reverse hreversed (by decide +kernel)
  refine ⟨r, r', hok, hfiles, hfailures, hdegraded, hr', hpaths, ?_⟩
  exact congrFun (hheld String id _ (MemoryStore.lawful.withFaults fullDisk))

end ApiTypings.Batch
