import ApiTypings.Proofs.FetchOrder
import ApiTypings.Proofs.Turns

/-!
# Batches do not depend on their schedule

A schedule is a concurrency together with the durations of all fetches. Writing reads
neither of them. It starts from what fetching hands over, and that is what the source
answered, in selection order, unless the batch was cancelled while it fetched; and
whether it was does not depend on the schedule either. So the schedules of a batch that
is not cancelled are told apart by the events of its fetches alone.

Those events come before all writing. Writing adds to the events without reading them,
so what came earlier can be split off.
-/

namespace ApiTypings

/-- Whether an event starts or ends a fetch. -/
def BatchEvent.ofFetch : BatchEvent → Bool
  | .fetchStarted _ => true
  | .fetchEnded _ _ => true
  | _ => false

namespace Batch

variable {σ : Type}

/-- The same batch with another concurrency and other durations of its fetches. -/
def Setting.scheduled (e : Setting σ) (concurrency : Nat) (duration : Nat → Nat → Nat) :
    Setting σ :=
  { e with
    options := { e.options with concurrency := concurrency }
    source := { e.source with duration := duration } }

/-! ## Writing with a longer past -/

/-- The state of writing with events that came earlier. -/
def Writing.after (w : Writing σ) (earlier : List BatchEvent) : Writing σ :=
  { w with events := earlier ++ w.events }

def Run.after (r : Run σ) (earlier : List BatchEvent) : Run σ :=
  { r with events := earlier ++ r.events }

theorem pass_after (e : Setting σ) (m : Moment) (w : Writing σ) (earlier : List BatchEvent) :
    (w.after earlier).pass e m = (w.pass e m).after earlier := by
  simp [Writing.pass, Writing.after]

theorem announced_after (e : Setting σ) (w : Writing σ) (f : Fetched)
    (earlier : List BatchEvent) :
    announced e (w.after earlier) f = (announced e w f).after earlier := by
  unfold announced Writing.note
  cases f.reason <;> simp [Writing.after]

theorem write_after (e : Setting σ) (w : Writing σ) (f : Fetched) (m : Module) (file : String)
    (earlier : List BatchEvent) :
    (w.after earlier).write e f m file = (w.write e f m file).after earlier := by
  simp only [Writing.write, Writing.after, Writing.pass, List.append_assoc]
  split <;> rfl

theorem process_after (e : Setting σ) (w : Writing σ) (f : Fetched)
    (earlier : List BatchEvent) :
    (w.after earlier).process e f = (w.process e f).after earlier := by
  have htaken : (w.after earlier).taken = w.taken := rfl
  rw [process_eq, process_eq, announced_after, htaken]
  cases choose e.options.collision w.taken (Module.ofDetail f.detail) with
  | rejected file id => rfl
  | plain file => exact write_after e _ f _ file earlier
  | overwriting file id => exact write_after e _ f _ file earlier
  | qualified file => exact write_after e _ f _ file earlier

/-- What came before has no say in what writing comes to. -/
theorem conclude_all_after (e : Setting σ) (w : Writing σ) (fs : List Fetched)
    (earlier : List BatchEvent) :
    conclude (Writing.all e (w.after earlier) fs) =
      (conclude (Writing.all e w fs)).after earlier := by
  -- The earlier events are carried along from turn to turn; each turn decides by the state
  -- alone.
  induction fs generalizing w with
  | nil => simp [Writing.all, conclude, Writing.after, Run.after]
  | cons f rest ih =>
    simp only [Writing.all, pass_after, process_after]
    cases hc : (w.pass e (.turn f.position)).cancelled with
    | false =>
      have hafter : ((w.pass e (.turn f.position)).after earlier).cancelled = false := hc
      rw [hafter]
      simp only [Bool.false_eq_true, if_false]
      exact ih _
    | true =>
      have hafter : ((w.pass e (.turn f.position)).after earlier).cancelled = true := hc
      have hresult : ((w.pass e (.turn f.position)).after earlier).result =
        (w.pass e (.turn f.position)).result := rfl
      rw [hafter, hresult]
      simp only [if_true]
      split
      · rfl
      · simp [conclude, Writing.stop, Writing.after, Run.after]

/-- Writing reads neither the concurrency nor the durations. -/
theorem all_scheduled (e : Setting σ) (concurrency : Nat) (duration : Nat → Nat → Nat)
    (w : Writing σ) (fs : List Fetched) :
    Writing.all (e.scheduled concurrency duration) w fs = Writing.all e w fs := by
  induction fs generalizing w with
  | nil => rfl
  | cons f rest ih =>
    simp only [Writing.all, ih]
    rfl

/-! ## What fetching hands to writing -/

/-- The details a batch fetches and whether it is cancelled by then. -/
abbrev fetching (e : Setting σ) (selection : List Summary) : Fetching :=
  Fetching.run e.source e.cancel e.options.concurrency selection (e.cancel.arrives .directory)

/-- A batch that is cancelled while it fetches ends without a result or a write. -/
theorem generate_of_cancelled {e : Setting σ} {selection : List Summary} {opened : σ}
    (hselection : selection ≠ []) (h : (fetching e selection).cancelled = true) :
    (generate e selection opened).outcome = .error .cancelled ∧
      (generate e selection opened).cancelled = true ∧
      (generate e selection opened).store = opened := by
  have hresults : (fetching e selection).results.reverse ≠ [] :=
    Fetching.results_ne_nil _ _ _ _ _ hselection
  obtain ⟨f, rest, hfs⟩ := List.exists_cons_of_ne_nil hresults
  have hpass : ((openingState e selection opened).pass e (.turn f.position)).cancelled = true := by
    simp [Writing.pass, openingState, h]
  have hall : Writing.all e (openingState e selection opened) (f :: rest) =
      .error ((openingState e selection opened).pass e (.turn f.position)) := by
    rw [Writing.all, if_pos hpass]
    rfl
  rw [generate_eq, hfs, hall]
  exact ⟨rfl, hpass, rfl⟩

/-- What writing makes of the answers of the source. -/
def written (e : Setting σ) (selection : List Summary) (opened : σ) : Run σ :=
  conclude (Writing.all e ⟨.empty, [], opened, [], false⟩ (Fetching.answers e.source selection))

/-- Unless it is cancelled while it fetches, a batch goes on with the answers of the
source. -/
theorem generate_eq_written {e : Setting σ} {selection : List Summary} {opened : σ}
    (h : (fetching e selection).cancelled = false) :
    generate e selection opened = (written e selection opened).after (openingEvents e selection) := by
  have hstate : openingState e selection opened =
      Writing.after ⟨.empty, [], opened, [], false⟩ (openingEvents e selection) := by
    simp only [openingState, Writing.after, h, List.append_nil]
  rw [generate_eq, Fetching.run_answers _ _ _ _ _ h, hstate, conclude_all_after]
  rfl

theorem fetching_scheduled (e : Setting σ) (selection : List Summary) (concurrency : Nat)
    (duration : Nat → Nat → Nat) :
    (fetching (e.scheduled concurrency duration) selection).cancelled =
      (fetching e selection).cancelled := by
  rw [Bool.eq_iff_iff]
  exact (Fetching.run_cancelled_iff _ _ _ _ _).trans (Fetching.run_cancelled_iff _ _ _ _ _).symm

theorem written_scheduled (e : Setting σ) (selection : List Summary) (opened : σ)
    (concurrency : Nat) (duration : Nat → Nat → Nat) :
    written (e.scheduled concurrency duration) selection opened = written e selection opened :=
  congrArg conclude (all_scheduled e concurrency duration _ _)

/-! ## Events of fetches and other events -/

theorem ofFetch_cancel (cancel : Cancellation) (m : Moment) :
    ∀ ev ∈ cancel.events m, ev.ofFetch = false := by
  intro ev hev
  unfold Cancellation.events at hev
  split at hev
  · rw [List.mem_singleton.mp hev]
    rfl
  · cases hev

theorem ofFetch_attempt (e : Setting σ) (f : Fetched) (file : String)
    (error : Option StoreError) : ∀ ev ∈ attemptEvents e f file error, ev.ofFetch = false := by
  intro ev hev
  simp only [attemptEvents, List.cons_append, List.mem_cons, List.mem_append, List.not_mem_nil,
    or_false] at hev
  rcases hev with rfl | hev | rfl
  · rfl
  · exact ofFetch_cancel e.cancel _ ev hev
  · rfl

theorem ofFetch_turn (e : Setting σ) (w : Writing σ) (f : Fetched) :
    ∀ ev ∈ turnEvents e w f, ev.ofFetch = false := by
  have hchoice (c : Choice) (id : Nat) : ∀ ev ∈ c.events id, ev.ofFetch = false := by
    cases c <;> simp [Choice.events, BatchEvent.ofFetch]
  intro ev hev
  simp only [turnEvents, List.cons_append, List.mem_cons, List.mem_append] at hev
  rcases hev with rfl | hev | hev
  · rfl
  · exact hchoice _ _ ev hev
  · cases hfile : (turnOf e w f).file? with
    | none =>
      rw [hfile] at hev
      cases hev
    | some file =>
      rw [hfile] at hev
      exact ofFetch_attempt e f file _ ev hev

theorem Course.ofFetch {e : Setting σ} {w w' : Writing σ} {ts : List Turn} (h : Course e w ts w')
    (hw : ∀ ev ∈ w.events, ev.ofFetch = false) : ∀ ev ∈ w'.events, ev.ofFetch = false := by
  induction h with
  | done w => exact hw
  | @turn w w' f ts _ _ _ ih =>
    apply ih
    intro ev hev
    rw [(process_spec e w f).2.2.2.2] at hev
    rcases List.mem_append.mp hev with hev | hev
    · exact hw ev hev
    · exact ofFetch_turn e w f ev hev

/-- No fetch starts or ends while modules are written. -/
theorem ofFetch_written (e : Setting σ) (selection : List Summary) (opened : σ) :
    ∀ ev ∈ (written e selection opened).events, ev.ofFetch = false := by
  obtain ⟨ts, w, hcourse, hend⟩ := all_cases e ⟨.empty, [], opened, [], false⟩
    (Fetching.answers e.source selection)
  have hw := hcourse.ofFetch (List.forall_mem_nil _)
  intro ev hev
  unfold written at hev
  rcases hend with ⟨_, hall⟩ | ⟨f, rest, _, _, ⟨_, hall⟩ | ⟨_, hall⟩⟩ <;> rw [hall] at hev <;>
    simp only [conclude, Writing.stop, Writing.pass, List.mem_append, List.mem_singleton] at hev
  · rcases hev with hev | rfl
    · exact hw ev hev
    · rfl
  · rcases hev with hev | hev
    · exact hw ev hev
    · exact ofFetch_cancel e.cancel _ ev hev
  · rcases hev with ((hev | hev) | rfl) | rfl
    · exact hw ev hev
    · exact ofFetch_cancel e.cancel _ ev hev
    · rfl
    · rfl

theorem started_silent {events : List BatchEvent} (h : ∀ ev ∈ events, ev.ofFetch = false) :
    events.filterMap BatchEvent.started? = [] := by
  rw [List.filterMap_eq_nil_iff]
  intro ev hev
  have hev := h ev hev
  cases ev <;> simp_all [BatchEvent.ofFetch, BatchEvent.started?]

theorem tally_silent {events : List BatchEvent} (h : ∀ ev ∈ events, ev.ofFetch = false)
    (before : Nat × Nat) : events.foldl Fetching.tally before = before := by
  induction events with
  | nil => rfl
  | cons ev events ih =>
    have hev : Fetching.tally before ev = before := by
      have hev := h ev (by simp)
      cases ev <;> first | rfl | cases hev
    rw [List.foldl_cons, hev]
    exact ih fun ev hev => h ev (by simp [hev])

theorem opening_split (e : Setting σ) (selection : List Summary) :
    ∃ before, (∀ ev ∈ before, ev.ofFetch = false) ∧
      openingEvents e selection = before ++ (fetching e selection).events.reverse := by
  refine ⟨[.directory e.destination] ++ e.cancel.events .directory ++
    [.announced selection.length e.destination], ?_, rfl⟩
  intro ev hev
  simp only [List.mem_append, List.mem_singleton] at hev
  rcases hev with (rfl | hev) | rfl
  · rfl
  · exact ofFetch_cancel e.cancel _ ev hev
  · rfl

/-- Apart from the fetches and the cancellation, every batch opens alike. -/
theorem opening_apart (e : Setting σ) (selection : List Summary) :
    (openingEvents e selection).filter (!Fetching.ofFetching ·) =
      [.directory e.destination, .announced selection.length e.destination] := by
  have hsilent {events : List BatchEvent} (h : ∀ ev ∈ events, Fetching.ofFetching ev = true) :
      events.filter (!Fetching.ofFetching ·) = [] := by
    rw [List.filter_eq_nil_iff]
    intro ev hev
    simp [h ev hev]
  have hfetching : ∀ ev ∈ (fetching e selection).events.reverse,
      Fetching.ofFetching ev = true := fun ev hev =>
    Fetching.run_events _ _ _ _ _ ev (List.mem_reverse.mp hev)
  rw [openingEvents, List.filter_append, List.filter_append, List.filter_append,
    hsilent (Fetching.pass_events e.cancel .directory), hsilent hfetching]
  rfl

/-! ## Batches -/

theorem fetching_of_not_cancelled {e : Setting σ} {selection : List Summary} {opened : σ}
    (hselection : selection ≠ []) (h : (generate e selection opened).cancelled = false) :
    (fetching e selection).cancelled = false := by
  rw [← Bool.not_eq_true] at h ⊢
  exact fun hc => h (generate_of_cancelled hselection hc).2.1

/-- A batch that is not cancelled does the same on every schedule, its fetches aside. -/
theorem run_scheduled {e : Setting σ} {selection : List Summary} {store : σ}
    (h : (run e selection store).cancelled = false) (concurrency : Nat)
    (duration : Nat → Nat → Nat) :
    (run (e.scheduled concurrency duration) selection store).outcome =
        (run e selection store).outcome ∧
      (run (e.scheduled concurrency duration) selection store).store =
        (run e selection store).store ∧
      (run (e.scheduled concurrency duration) selection store).cancelled = false ∧
      (run (e.scheduled concurrency duration) selection store).events.filter
          (!Fetching.ofFetching ·) =
        (run e selection store).events.filter (!Fetching.ofFetching ·) := by
  cases hrefusal : refusal e selection with
  | some error =>
    have hother : refusal (e.scheduled concurrency duration) selection = some error := hrefusal
    rw [run_of_refusal hrefusal] at h ⊢
    rw [run_of_refusal hother]
    exact ⟨rfl, rfl, h, rfl⟩
  | none =>
    have hother : refusal (e.scheduled concurrency duration) selection = none := hrefusal
    cases hopened : e.store.ensureDirectory store e.destination with
    | mk opened error =>
      cases error with
      | some error =>
        rw [run_of_unopened hrefusal hopened] at h ⊢
        rw [run_of_unopened hother hopened]
        exact ⟨rfl, rfl, h, rfl⟩
      | none =>
        rw [run_of_opened hrefusal hopened] at h ⊢
        have hfetching := fetching_of_not_cancelled (run_of_admitted hrefusal store).1 h
        have hfetching' : (fetching (e.scheduled concurrency duration) selection).cancelled =
          false := (fetching_scheduled e selection concurrency duration).trans hfetching
        rw [generate_eq_written hfetching] at h ⊢
        rw [run_of_opened hother hopened, generate_eq_written hfetching', written_scheduled]
        refine ⟨rfl, rfl, h, ?_⟩
        simp only [Run.after, List.filter_append, opening_apart]
        rfl

/-- The state of fetching after so many of its steps; four for each interface are all. -/
def fetchingAt (e : Setting σ) (selection : List Summary) (k : Nat) : Fetching :=
  Fetching.steps e.source e.cancel (Fetching.limitOf e.options.concurrency selection) k
    (Fetching.initial selection (e.cancel.arrives .directory))

/-- The events of a batch that goes on with the answers of the source: some that are about
no fetch, those of fetching, and again some that are about no fetch. -/
theorem events_split {e : Setting σ} {selection : List Summary} (opened : σ)
    (h : (fetching e selection).cancelled = false) :
    ∃ before after, (∀ ev ∈ before, ev.ofFetch = false) ∧ (∀ ev ∈ after, ev.ofFetch = false) ∧
      (generate e selection opened).events =
        before ++ (fetching e selection).events.reverse ++ after := by
  obtain ⟨before, hbefore, hopening⟩ := opening_split e selection
  refine ⟨before, (written e selection opened).events, hbefore,
    ofFetch_written e selection opened, ?_⟩
  rw [generate_eq_written h, Run.after, hopening]

/-- A batch that is not cancelled has a result once its destination is made. -/
theorem generate_ok {e : Setting σ} {selection : List Summary} {opened : σ}
    (h : (generate e selection opened).cancelled = false) :
    ∃ r, (generate e selection opened).outcome = .ok r := by
  obtain ⟨ts, w, _, hend⟩ := all_cases e (openingState e selection opened)
    (fetching e selection).results.reverse
  rcases hend with ⟨_, hall⟩ | ⟨f, rest, _, hc, ⟨_, hall⟩ | ⟨_, hall⟩⟩ <;>
    rw [generate_eq, hall] at h ⊢
  · exact ⟨_, rfl⟩
  · exact (Bool.false_ne_true (h.symm.trans hc)).elim
  · exact ⟨_, rfl⟩

/-- What a batch that is not cancelled comes to does not depend on its schedule: under any
concurrency and any durations of its fetches it has the same outcome, makes the same writes
and leaves the same store. Once the destination is made, each interface is fetched once, in
selection order, and the results come out in that order too. At every moment the fetches
that have started are the first ones of the selection: those handed over, and after them no
more than the concurrency allows. When every fetch takes time, as many run at once as that
and the selection allow. -/
theorem run_independent_of_schedule (e : Setting σ) (selection : List Summary) (store : σ)
    (h : (run e selection store).cancelled = false) :
    (∀ concurrency duration,
      (run (e.scheduled concurrency duration) selection store).outcome =
          (run e selection store).outcome ∧
        (run (e.scheduled concurrency duration) selection store).store =
          (run e selection store).store ∧
        (run (e.scheduled concurrency duration) selection store).cancelled = false ∧
        (run (e.scheduled concurrency duration) selection store).events.filter
            (!Fetching.ofFetching ·) =
          (run e selection store).events.filter (!Fetching.ofFetching ·)) ∧
      (selection ≠ [] → e.destination ≠ "" →
        (e.store.ensureDirectory store e.destination).2 = none →
        (∃ r, (run e selection store).outcome = .ok r) ∧
          (run e selection store).events.filterMap BatchEvent.started? = selection.map (·.id) ∧
          (fetching e selection).results.reverse = Fetching.answers e.source selection ∧
          (∀ k,
            Fetching.startedIds (fetchingAt e selection k) <+: selection.map (·.id) ∧
            ∃ underWay : List Nat,
              underWay.length ≤ Fetching.limitOf e.options.concurrency selection ∧
                Fetching.startedIds (fetchingAt e selection k) =
                  (fetchingAt e selection k).results.reverse.map (·.summary.id) ++ underWay) ∧
          ((∀ key ∈ Fetching.positions selection, 0 < e.source.duration key.1 key.2.id) →
            maxInFlight (run e selection store).events =
              min selection.length (Fetching.limitOf e.options.concurrency selection))) := by
  refine ⟨run_scheduled h, ?_⟩
  intro hselection hdestination hensured
  have hstart : e.cancel.atStart = false := by
    rw [← Bool.not_eq_true]
    intro hstart
    obtain ⟨error, hrefusal⟩ := exists_refusal hstart selection
    rw [run_of_refusal hrefusal] at h
    exact Bool.false_ne_true (h.symm.trans hstart)
  have hrun := run_eq_generate hselection hdestination hstart hensured
  rw [hrun] at h ⊢
  have hfetching := fetching_of_not_cancelled hselection h
  obtain ⟨before, after, hbefore, hafter, hevents⟩ :=
    events_split (e.store.ensureDirectory store e.destination).1 hfetching
  refine ⟨generate_ok h, ?_, Fetching.run_answers _ _ _ _ _ hfetching, ?_, ?_⟩
  · rw [hevents, List.filterMap_append, List.filterMap_append, started_silent hbefore,
      started_silent hafter, List.nil_append, List.append_nil]
    exact Fetching.run_started _ _ _ _ _ hfetching
  · intro k
    exact ⟨Fetching.started_in_order _ _ _ _ _ _,
      Fetching.started_under_way _ _ _ _ _ hfetching _ _⟩
  · intro hpositive
    have hmost := Fetching.run_overlap _ _ _ _ _ hpositive hfetching
    rw [Fetching.maxInFlight_eq] at hmost ⊢
    rw [hevents, List.foldl_append, List.foldl_append, tally_silent hbefore, tally_silent hafter]
    exact hmost

/-- The first fetch takes longest, and yet the interfaces come out as they would one at a
time. Two fetches run together. -/
theorem run_independent_of_schedule_slow_first :
    let e := (smallBatch .qualifyById (fun _ => none) fun _ => false).scheduled 2
      fun position _ => 3 - position
    (run e threeInterfaces []).outcome =
        (run (e.scheduled 1 fun _ _ => 1) threeInterfaces []).outcome ∧
      maxInFlight (run e threeInterfaces []).events = 2 := by
  intro e
  have hcancelled : (run e threeInterfaces []).cancelled = false := by decide +kernel
  have hensured : (e.store.ensureDirectory [] e.destination).2 = none := by decide +kernel
  obtain ⟨hsame, hopened⟩ := run_independent_of_schedule e threeInterfaces [] hcancelled
  obtain ⟨_, _, _, _, hmost⟩ := hopened (by decide) (by decide) hensured
  exact ⟨(hsame 1 fun _ _ => 1).1.symm, hmost (by decide)⟩

end Batch

end ApiTypings
