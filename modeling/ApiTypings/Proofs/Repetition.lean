import ApiTypings.Proofs.AlikeStores
import ApiTypings.Proofs.Scheduling
import ApiTypings.Proofs.SteadyStores

/-!
# Running a batch again

A batch that is run again on what it left does nothing new, provided that the source answers as
before and the store is steady. Names are chosen from what this run has written and not from what
the store holds, so the second run goes through the same turns as the first, whatever was there and
however many modules share a name. It writes the same texts to the same files in the same order,
and so a file holds in the end what the last write to it says, as after the first run.

What is compared are the turns on two states of the store that come about by writing in the
destination: the one right after it was made and the one the first run left.
-/

namespace ApiTypings.Batch

variable {σ : Type}

/-- The same batch with another source. -/
def Setting.asking (e : Setting σ) (source : DetailSource) : Setting σ :=
  { e with source := source }

/-- A source that answers for the positions of a selection like another one. How long its fetches
take is left open. -/
def DetailSource.AnswersAs (source other : DetailSource) (selection : List Summary) : Prop :=
  ∀ key ∈ Fetching.positions selection, source.fetch key.1 key.2.id = other.fetch key.1 key.2.id

theorem answers_eq {source other : DetailSource} {selection : List Summary}
    (h : DetailSource.AnswersAs source other selection) :
    Fetching.answers source selection = Fetching.answers other selection := by
  unfold Fetching.answers Fetching.answer
  apply List.map_congr_left
  intro key hkey
  rw [h key hkey]

/-- Writing does not ask the source. -/
theorem all_asking (e : Setting σ) (source : DetailSource) (w : Writing σ) (fs : List Fetched) :
    Writing.all (e.asking source) w fs = Writing.all e w fs := by
  induction fs generalizing w with
  | nil => rfl
  | cons f rest ih =>
    simp only [Writing.all, ih]
    rfl

/-- Writing comes to the same with a source that answers as before. -/
theorem written_asking {e : Setting σ} {source : DetailSource} {selection : List Summary}
    (h : DetailSource.AnswersAs source e.source selection) (opened : σ) :
    written (e.asking source) selection opened = written e selection opened := by
  unfold written
  rw [all_asking, ← answers_eq h]
  rfl

/-- Whether fetching is cancelled does not depend on the source. -/
theorem fetching_asking (e : Setting σ) (source : DetailSource) (selection : List Summary) :
    (fetching (e.asking source) selection).cancelled = (fetching e selection).cancelled := by
  rw [Bool.eq_iff_iff]
  exact (Fetching.run_cancelled_iff _ _ _ _ _).trans (Fetching.run_cancelled_iff _ _ _ _ _).symm

/-- States that come about by writing in the destination of a batch that was made. -/
def Visited (e : Setting σ) (opened a b : σ) : Prop :=
  e.store.Reaches e.destination opened a ∧ e.store.Reaches e.destination opened b

/-- On a steady store all states that are visited answer alike. -/
theorem answersAlike_visited {e : Setting σ} (steady : e.store.Steady) {store opened : σ}
    (hopened : e.store.ensureDirectory store e.destination = (opened, none)) :
    e.store.AnswersAlike e.destination (Visited e opened) := by
  intro a b file path text h hpath
  constructor
  · rw [steady.outcome text text hopened h.1 hpath, steady.outcome text text hopened h.2 hpath]
  · exact ⟨h.1.wrote text hpath, h.2.wrote text hpath⟩

/-- After a batch that made its destination, the same batch comes to the same on what is left. -/
theorem generate_again {e : Setting σ} (steady : e.store.Steady) {source : DetailSource}
    {selection : List Summary} (hsource : DetailSource.AnswersAs source e.source selection)
    (hselection : selection ≠ []) {store opened : σ}
    (hopened : e.store.ensureDirectory store e.destination = (opened, none))
    (hcancelled : (generate e selection opened).cancelled = false) :
    (generate (e.asking source) selection (generate e selection opened).store).outcome =
        (generate e selection opened).outcome ∧
      (generate (e.asking source) selection (generate e selection opened).store).cancelled =
        false := by
  have hfetching := fetching_of_not_cancelled hselection hcancelled
  have hfetching' := (fetching_asking e source selection).trans hfetching
  have hleft := (generate_stays e selection opened).2
  have hwriting : Writing.Alike (Visited e opened) ⟨.empty, [], opened, [], false⟩
      ⟨.empty, [], (generate e selection opened).store, [], false⟩ :=
    ⟨rfl, rfl, rfl, rfl, .start, hleft⟩
  have halike : Run.Alike (Visited e opened) (written e selection opened)
      (written e selection (generate e selection opened).store) :=
    conclude_all_alike (answersAlike_visited steady hopened) hwriting _
  rw [generate_eq_written hfetching', written_asking hsource]
  rw [generate_eq_written hfetching] at hcancelled halike ⊢
  constructor
  · exact halike.outcome.symm
  · exact halike.cancelled.symm.trans hcancelled

/-- A batch that is run again on a steady store, by a source that answers as before, has the same
result, or none if it had none. -/
theorem outcome_again {e : Setting σ} (steady : e.store.Steady) {source : DetailSource}
    {selection : List Summary} (hsource : DetailSource.AnswersAs source e.source selection)
    {store : σ} (hcancelled : (run e selection store).cancelled = false) :
    (run (e.asking source) selection (run e selection store).store).cancelled = false ∧
      ((run (e.asking source) selection (run e selection store).store).outcome =
          (run e selection store).outcome ∨
        ∃ error error', (run e selection store).outcome = .error (.createDirectory error) ∧
          (run (e.asking source) selection (run e selection store).store).outcome =
            .error (.createDirectory error')) := by
  cases hrefusal : refusal e selection with
  | some error =>
    have hrefusal' : refusal (e.asking source) selection = some error := hrefusal
    rw [run_of_refusal hrefusal] at hcancelled ⊢
    rw [run_of_refusal hrefusal']
    exact ⟨hcancelled, .inl rfl⟩
  | none =>
    have hrefusal' : refusal (e.asking source) selection = none := hrefusal
    obtain ⟨hselection, ⟨left, error, hleft, hrun⟩ | ⟨opened, hopened, hrun⟩⟩ :=
      run_of_admitted hrefusal store <;> rw [hrun] at hcancelled ⊢
    · obtain ⟨error', herror⟩ := Option.ne_none_iff_exists'.mp (steady.unmade hleft)
      have hagain : (e.asking source).store.ensureDirectory left (e.asking source).destination =
          ((e.store.ensureDirectory left e.destination).1, some error') := Prod.ext rfl herror
      rw [run_of_unopened hrefusal' hagain]
      exact ⟨hcancelled, .inr ⟨error, error', rfl, rfl⟩⟩
    · have hagain : (e.asking source).store.ensureDirectory (generate e selection opened).store
          (e.asking source).destination = ((generate e selection opened).store, none) :=
        steady.made hopened (generate_stays e selection opened).2
      obtain ⟨houtcome, hsecond⟩ := generate_again steady hsource hselection hopened hcancelled
      rw [run_of_opened hrefusal' hagain]
      exact ⟨hsecond, .inl houtcome⟩

/-- A batch that is run again on what it left, by a source that answers as before, does nothing
new. It has the same result, and a batch without a result has none again, for the same reason
unless its destination cannot be made for another one. Every file holds what it held after the
first run. -/
theorem run_again (e : Setting σ) (steady : e.store.Steady) (source : DetailSource)
    (selection : List Summary) (hsource : DetailSource.AnswersAs source e.source selection)
    (store : σ) (hcancelled : (run e selection store).cancelled = false) :
    (run (e.asking source) selection (run e selection store).store).cancelled = false ∧
      (∀ r, (run e selection store).outcome = .ok r →
        (run (e.asking source) selection (run e selection store).store).outcome = .ok r) ∧
      (∀ error, (run e selection store).outcome = .error error →
        (run (e.asking source) selection (run e selection store).store).outcome = .error error ∨
        ∃ cause cause', error = .createDirectory cause ∧
          (run (e.asking source) selection (run e selection store).store).outcome =
            .error (.createDirectory cause')) ∧
      ∀ (κ : Type) [DecidableEq κ] (place : String → κ) (held : σ → κ → Option String),
        e.store.Lawful place held →
          held (run (e.asking source) selection (run e selection store).store).store =
            held (run e selection store).store := by
  obtain ⟨hsecond, houtcome⟩ := outcome_again steady hsource hcancelled
  have hresult (r : BatchResult) (hr : (run e selection store).outcome = .ok r) :
      (run (e.asking source) selection (run e selection store).store).outcome = .ok r := by
    rcases houtcome with hsame | ⟨error, _, herror, _⟩
    · rw [hsame, hr]
    · rw [herror] at hr
      cases hr
  have hnone (error : BatchError) (herror : (run e selection store).outcome = .error error) :
      (run (e.asking source) selection (run e selection store).store).outcome = .error error ∨
      ∃ cause cause', error = .createDirectory cause ∧
        (run (e.asking source) selection (run e selection store).store).outcome =
          .error (.createDirectory cause') := by
    rcases houtcome with hsame | ⟨cause, cause', hcause, hcause'⟩
    · exact .inl (hsame.trans herror)
    · rw [hcause] at herror
      cases herror
      exact .inr ⟨cause, cause', rfl, hcause'⟩
  refine ⟨hsecond, hresult, hnone, ?_⟩
  intro κ _ place held law
  have law' : (e.asking source).store.Lawful place held := law
  cases hfirst : (run e selection store).outcome with
  | ok r =>
    -- Both runs write the modules of one result to its files.
    obtain ⟨_, hc⟩ := exists_completed hfirst
    obtain ⟨_, hc'⟩ := exists_completed (hresult r hfirst)
    rw [hc'.held law', hc.held law, overwritten_again]
  | error error =>
    rcases hnone error hfirst with hagain | ⟨_, _, _, hagain⟩ <;>
      exact held_of_error law' hagain

/-- Two modules share a name that is there before, and the third one's write fails. -/
theorem run_again_overwrite :
    let e := smallBatch .overwrite
      (fun path => if path = "out/c.ts" then some "disk full" else none) fun _ => false
    let first := run e threeInterfaces [("out/list.ts", "old"), ("notes", "mine")]
    let second := run (e.asking ⟨e.source.fetch, fun _ _ => 7⟩) threeInterfaces first.store
    ∃ r, first.outcome = .ok r ∧ r.files = ["out/list.ts", "out/list.ts"] ∧
      r.failures.map Failure.id = [3] ∧ second.outcome = .ok r ∧
      ∀ path, Assoc.find? path second.store = Assoc.find? path first.store := by
  intro e first second
  have hresult : first.outcome.toOption.map (fun r => (r.files, r.failures.map Failure.id)) =
      some (["out/list.ts", "out/list.ts"], [3]) := by decide +kernel
  have hcancelled : first.cancelled = false := by decide +kernel
  obtain ⟨r, hr, hfields⟩ := Option.map_eq_some_iff.mp hresult
  obtain ⟨hfiles, hfailures⟩ := Prod.mk.inj hfields
  obtain ⟨_, hok, _, hheld⟩ := run_again e (smallBatch_steady _ _ _)
    ⟨e.source.fetch, fun _ _ => 7⟩ threeInterfaces (fun _ _ => rfl)
    [("out/list.ts", "old"), ("notes", "mine")] hcancelled
  refine ⟨r, ok_of_toOption hr, hfiles, hfailures, hok r (ok_of_toOption hr), ?_⟩
  exact congrFun (hheld String id _ (smallBatch_lawful _ _ _))

end ApiTypings.Batch
