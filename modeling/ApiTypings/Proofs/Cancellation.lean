import ApiTypings.Proofs.Scheduling

/-!
# Nothing starts after a cancellation

A batch looks for a cancellation before each fetch and before each module. Its events tell
when the cancellation arrives: they hold one as soon as the batch is cancelled, and none of
the later ones starts a fetch or a write. This is kept by every move of fetching and by
every turn of writing, as neither starts anything in a state that is cancelled.

The first turn of a batch always tries a write, since no name is taken by then. A batch
that tries none was therefore cancelled before its first turn, and has no result.
-/

namespace ApiTypings

namespace BatchEvent

/-- Whether an event starts a write. -/
def startsWrite : BatchEvent → Bool
  | .writeStarted _ => true
  | _ => false

/-- Whether an event starts a fetch or a write. -/
def starts : BatchEvent → Bool
  | .fetchStarted _ => true
  | .writeStarted _ => true
  | _ => false

theorem starts_of_startsWrite {ev : BatchEvent} (h : ev.startsWrite = true) :
    ev.starts = true := by
  cases ev <;> first | rfl | cases h

end BatchEvent

namespace Batch

variable {σ : Type}

/-! ## Heeding the cancellation -/

/-- The events hold a cancellation when the batch is cancelled, and nothing starts
afterwards. -/
structure Heeded (cancelled : Bool) (events : List BatchEvent) : Prop where
  arrived : cancelled = true ↔ .cancellation ∈ events
  quiet : events.Pairwise fun a b => a = .cancellation → b.starts = false

namespace Heeded

variable {cancelled : Bool} {events : List BatchEvent}

theorem nil : Heeded false [] := ⟨by simp, List.Pairwise.nil⟩

/-- Something starts in a batch that is not cancelled. -/
theorem start (h : Heeded false events) (ev : BatchEvent) (hev : ev ≠ .cancellation) :
    Heeded false (events ++ [ev]) := by
  have hnone : .cancellation ∉ events := fun hmem => Bool.false_ne_true (h.arrived.mpr hmem)
  refine ⟨?_, ?_⟩
  · simp [hnone, hev.symm]
  · rw [List.pairwise_append]
    refine ⟨h.quiet, List.pairwise_singleton _ _, ?_⟩
    rintro a ha b _ rfl
    exact (hnone ha).elim

/-- Events that start nothing may come at any time. -/
theorem others (h : Heeded cancelled events) {more : List BatchEvent}
    (hmore : ∀ ev ∈ more, ev ≠ .cancellation ∧ ev.starts = false) :
    Heeded cancelled (events ++ more) := by
  have hnone : .cancellation ∉ more := fun hmem => (hmore _ hmem).1 rfl
  refine ⟨?_, ?_⟩
  · rw [List.mem_append, h.arrived]
    exact ⟨.inl, fun hmem => hmem.resolve_right hnone⟩
  · rw [List.pairwise_append]
    refine ⟨h.quiet, ?_, fun _ _ b hb _ => (hmore b hb).2⟩
    exact List.pairwise_of_forall_mem_list fun a ha b hb _ => (hmore b hb).2

theorem other (h : Heeded cancelled events) (ev : BatchEvent) (hev : ev ≠ .cancellation)
    (hstarts : ev.starts = false) : Heeded cancelled (events ++ [ev]) := by
  apply h.others
  intro other hother
  rw [List.mem_singleton.mp hother]
  exact ⟨hev, hstarts⟩

/-- At a moment the cancellation arrives or it does not. -/
theorem moment (h : Heeded cancelled events) (cancel : Cancellation) (m : Moment) :
    Heeded (cancelled || cancel.arrives m) (events ++ cancel.events m) := by
  unfold Cancellation.events
  cases cancel.arrives m with
  | false => simpa using h
  | true =>
    refine ⟨by simp, ?_⟩
    rw [if_pos rfl, List.pairwise_append]
    refine ⟨h.quiet, List.pairwise_singleton _ _, ?_⟩
    intro a _ b hb _
    rw [List.mem_singleton.mp hb]
    rfl

/-- After a cancellation nothing starts. -/
theorem after (h : Heeded cancelled events) {before after : List BatchEvent}
    (hevents : events = before ++ .cancellation :: after) : ∀ ev ∈ after, ev.starts = false := by
  have hquiet := h.quiet
  rw [hevents, List.pairwise_append, List.pairwise_cons] at hquiet
  exact fun ev hev => hquiet.2.1.1 ev hev rfl

end Heeded

/-! ## Fetching heeds the cancellation -/

section Fetching
variable {source : DetailSource} {cancel : Cancellation} {limit : Nat}

theorem reverse_events (cancel : Cancellation) (m : Moment) :
    (cancel.events m).reverse = cancel.events m := by
  unfold Cancellation.events
  split <;> rfl

/-- The events before fetching and those of fetching so far heed the cancellation. -/
def Heeding (opening : List BatchEvent) (st : Fetching) : Prop :=
  Heeded st.cancelled (opening ++ st.events.reverse)

theorem Heeding.finish {opening : List BatchEvent} {st : Fetching} (h : Heeding opening st)
    (before : List Slot) (s : Slot) (after : List Slot) :
    Heeding opening (Fetching.finish source cancel st before s after) := by
  have hended := (Heeded.moment h cancel (.fetch s.position)).other
    (.fetchEnded s.summary.id (Fetching.errorOf (source.fetch s.position s.summary.id)))
    (by simp) rfl
  simpa [Heeding, Fetching.finish, Fetching.pass, reverse_events] using hended

theorem Heeding.move {opening : List BatchEvent} {st st' : Fetching} (h : Heeding opening st)
    (move : Fetching.Move source cancel limit st st') : Heeding opening st' := by
  cases move with
  | enter => exact h
  | handOver => exact h
  | @finish before after s due time _ _ _ _ =>
    have hlater : Heeding opening { st with clock := time } := h
    exact hlater.finish before s after
  | @start before after s _ _ _ =>
    -- A fetch starts only in a state that is not cancelled, when no cancellation is among
    -- the events.
    have hstarted (hc : st.cancelled = false) :
        Heeding opening { st with events := .fetchStarted s.summary.id :: st.events } := by
      unfold Heeding at h ⊢
      rw [hc] at h ⊢
      simpa using h.start (.fetchStarted s.summary.id) (by simp)
    rcases Fetching.start_cases source cancel st before s after with
      ⟨_, hstart⟩ | ⟨hc, _, ⟨d, _, hstart⟩ | ⟨_, hstart⟩⟩ <;> rw [hstart]
    · simpa [Heeding, Fetching.pass, reverse_events] using
        Heeded.moment h cancel (.start s.position)
    · exact hstarted hc
    · exact (hstarted hc).finish _ _ _

end Fetching

/-- What happens up to the first turn heeds the cancellation. -/
theorem opening_heeded (e : Setting σ) (selection : List Summary) :
    Heeded (fetching e selection).cancelled (openingEvents e selection) := by
  have hdirectory := ((Heeded.nil.other (.directory e.destination) (by simp) rfl).moment
    e.cancel .directory).other (.announced selection.length e.destination) (by simp) rfl
  have hinitial : Heeding ([.directory e.destination] ++ e.cancel.events .directory ++
      [.announced selection.length e.destination])
      (Fetching.initial selection (e.cancel.arrives .directory)) := by
    simpa [Heeding, Fetching.initial] using hdirectory
  exact Fetching.steps_keep (P := Heeding _) (fun move h => Heeding.move h move) hinitial _

/-! ## Writing heeds the cancellation -/

theorem choice_others (c : Choice) (id : Nat) :
    ∀ ev ∈ c.events id, ev ≠ .cancellation ∧ ev.starts = false := by
  cases c <;> simp [Choice.events, BatchEvent.starts]

theorem process_heeded (e : Setting σ) {w : Writing σ} (f : Fetched) (hw : w.cancelled = false)
    (h : Heeded w.cancelled w.events) :
    Heeded (w.process e f).cancelled (w.process e f).events := by
  obtain ⟨_, _, _, hcancelled, hevents⟩ := process_spec e w f
  rw [hcancelled, hevents, turnEvents, ← List.append_assoc]
  rw [hw] at h ⊢
  have hgenerated := (h.other (.generated f.detail) (by simp) rfl).others
    (choice_others (choose e.options.collision w.taken (Module.ofDetail f.detail))
      (Module.ofDetail f.detail).id)
  rw [List.append_assoc, List.singleton_append] at hgenerated
  cases (turnOf e w f).file? with
  | none => simpa using hgenerated
  | some file =>
    have hended := ((hgenerated.start (.writeStarted (Path.join e.destination file))
      (by simp)).moment e.cancel (.write f.position file)).other
        (.writeEnded f.detail.id (Path.join e.destination file)
          (Module.ofDetail f.detail).emit (turnOf e w f).error?) (by simp) rfl
    simpa [attemptEvents] using hended

theorem Course.heeded {e : Setting σ} {w w' : Writing σ} {ts : List Turn} (h : Course e w ts w')
    (hw : Heeded w.cancelled w.events) : Heeded w'.cancelled w'.events := by
  induction h with
  | done w => exact hw
  | turn hc _ _ ih => exact ih (process_heeded e _ hc hw)

theorem generate_heeded (e : Setting σ) (selection : List Summary) (opened : σ) :
    Heeded (generate e selection opened).cancelled (generate e selection opened).events := by
  obtain ⟨ts, w, hcourse, hend⟩ := all_cases e (openingState e selection opened)
    (fetching e selection).results.reverse
  have hw : Heeded w.cancelled w.events := hcourse.heeded (opening_heeded e selection)
  rcases hend with ⟨_, hall⟩ | ⟨f, rest, _, _, ⟨_, hall⟩ | ⟨_, hall⟩⟩ <;> rw [generate_eq, hall]
  · exact hw.other _ (by simp) rfl
  · exact hw.moment e.cancel (.turn f.position)
  · exact ((hw.moment e.cancel (.turn f.position)).other _ (by simp) rfl).other _ (by simp) rfl

/-! ## Batches that try no write -/

theorem Course.events_extend {e : Setting σ} {w w' : Writing σ} {ts : List Turn}
    (h : Course e w ts w') : ∃ more, w'.events = w.events ++ more := by
  induction h with
  | done w => exact ⟨[], (List.append_nil _).symm⟩
  | @turn w w' f ts _ _ _ ih =>
    obtain ⟨more, hmore⟩ := ih
    exact ⟨turnEvents e w f ++ more, by
      rw [hmore, (process_spec e w f).2.2.2.2, List.append_assoc]⟩

theorem generate_extend (e : Setting σ) (selection : List Summary) (opened : σ) :
    ∃ more, (generate e selection opened).events = openingEvents e selection ++ more := by
  obtain ⟨ts, w, hcourse, hend⟩ := all_cases e (openingState e selection opened)
    (fetching e selection).results.reverse
  obtain ⟨more, hmore⟩ := hcourse.events_extend
  have hopening : w.events = openingEvents e selection ++ more := hmore
  rcases hend with ⟨_, hall⟩ | ⟨f, rest, _, _, ⟨_, hall⟩ | ⟨_, hall⟩⟩ <;>
    rw [generate_eq, hall] <;>
    simp only [conclude, Writing.stop, Writing.pass, hopening, List.append_assoc] <;>
    exact ⟨_, rfl⟩

/-- As long as no name is taken, a turn tries to write to the plain name. -/
theorem file?_of_untaken (e : Setting σ) {w : Writing σ} (f : Fetched) (h : w.taken = []) :
    (turnOf e w f).file? = some (Module.ofDetail f.detail).fileName := by
  rw [turnOf_file?, h]
  rfl

/-- The first of some turns tries a write. -/
theorem Course.startsWrite {e : Setting σ} {w w' : Writing σ} {ts : List Turn}
    (h : Course e w ts w') (hts : ts ≠ []) (htaken : w.taken = []) :
    ∃ ev ∈ w'.events, ev.startsWrite = true := by
  cases h with
  | done => exact (hts rfl).elim
  | @turn _ _ f ts _ _ hrest =>
    obtain ⟨more, hmore⟩ := hrest.events_extend
    refine ⟨.writeStarted (Path.join e.destination (Module.ofDetail f.detail).fileName), ?_, rfl⟩
    rw [hmore, (process_spec e w f).2.2.2.2, turnEvents, file?_of_untaken e f htaken]
    simp [attemptEvents]

/-- Up to the first turn no write is tried. -/
theorem opening_startsWrite (e : Setting σ) (selection : List Summary) :
    ∀ ev ∈ openingEvents e selection, ev.startsWrite = false := by
  refine opening_forall e selection rfl rfl ?_
  intro ev hev
  cases ev <;> first | rfl | cases hev

/-- A batch that tries no write is cancelled and changes nothing in its destination. -/
theorem generate_of_no_write {e : Setting σ} {selection : List Summary} {opened : σ}
    (hselection : selection ≠ [])
    (h : ∀ ev ∈ (generate e selection opened).events, ev.startsWrite = false) :
    (generate e selection opened).outcome = .error .cancelled ∧
      (generate e selection opened).store = opened := by
  obtain ⟨ts, w, hcourse, hend⟩ := all_cases e (openingState e selection opened)
    (fetching e selection).results.reverse
  -- A first turn would have tried a write.
  have hts (hevents : ∀ ev ∈ w.events, ev.startsWrite = false) : ts = [] := by
    by_contra hts
    obtain ⟨ev, hev, hwrite⟩ := hcourse.startsWrite hts rfl
    exact Bool.false_ne_true ((hevents ev hev).symm.trans hwrite)
  rw [generate_eq] at h ⊢
  rcases hend with ⟨hfs, hall⟩ | ⟨f, rest, _, _, ⟨_, hall⟩ | ⟨hsome, hall⟩⟩ <;>
    rw [hall] at h ⊢ <;>
    simp only [conclude, Writing.stop, Writing.pass, List.forall_mem_append] at h
  · cases hts h.1
    exact (Fetching.results_ne_nil _ _ _ _ _ hselection hfs).elim
  · cases hts h.1
    cases hcourse
    exact ⟨rfl, rfl⟩
  · cases hts h.1.1.1
    cases hcourse
    exact (hsome rfl).elim

/-! ## Batches -/

/-- The cancellation arrives before any write is tried. -/
def CancelledFirst (e : Setting σ) (selection : List Summary) (store : σ) : Prop :=
  e.cancel.atStart = true ∨
    ∃ before after, (run e selection store).events = before ++ .cancellation :: after ∧
      ∀ ev ∈ before, ev.startsWrite = false

theorem run_of_atStart {e : Setting σ} (h : e.cancel.atStart = true) (selection : List Summary)
    (store : σ) : (run e selection store).events = [] ∧ (run e selection store).cancelled = true := by
  obtain ⟨error, hrefusal⟩ := exists_refusal h selection
  rw [run_of_refusal hrefusal]
  exact ⟨rfl, h⟩

theorem run_heeded {e : Setting σ} (h : e.cancel.atStart = false) (selection : List Summary)
    (store : σ) : Heeded (run e selection store).cancelled (run e selection store).events := by
  cases hrefusal : refusal e selection with
  | some error =>
    rw [run_of_refusal hrefusal, h]
    exact .nil
  | none =>
    obtain ⟨_, ⟨opened, error, _, hrun⟩ | ⟨opened, _, hrun⟩⟩ := run_of_admitted hrefusal store <;>
      rw [hrun]
    · have hdirectory := (Heeded.nil.other (.directory e.destination) (by simp) rfl).moment
        e.cancel .directory
      rwa [Bool.false_or] at hdirectory
    · exact generate_heeded e selection opened

/-- A cancellation that arrives while details are fetched comes before any write. -/
theorem cancelledFirst_of_fetching {e : Setting σ} {selection : List Summary} {store opened : σ}
    (hrun : run e selection store = generate e selection opened)
    (h : (fetching e selection).cancelled = true) : CancelledFirst e selection store := by
  have hmem := (opening_heeded e selection).arrived.mp h
  obtain ⟨before, between, hopening⟩ := List.append_of_mem hmem
  obtain ⟨more, hmore⟩ := generate_extend e selection opened
  refine .inr ⟨before, between ++ more, ?_, ?_⟩
  · rw [hrun, hmore, hopening, List.append_assoc, List.cons_append]
  · intro ev hev
    apply opening_startsWrite e selection
    rw [hopening]
    exact List.mem_append_left _ hev

/-- A batch that is cancelled before any write is tried never tries one. -/
theorem no_write_of_cancelledFirst {e : Setting σ} {selection : List Summary} {store : σ}
    (hstart : e.cancel.atStart = false) (h : CancelledFirst e selection store) :
    ∀ ev ∈ (run e selection store).events, ev.startsWrite = false := by
  obtain ⟨before, after, hevents, hbefore⟩ := h.resolve_left (by simp [hstart])
  have hafter := (run_heeded hstart selection store).after hevents
  rw [hevents]
  intro ev hev
  rcases List.mem_append.mp hev with hev | hev
  · exact hbefore ev hev
  · rcases List.mem_cons.mp hev with rfl | hev
    · rfl
    · have hstarts := hafter ev hev
      rw [← Bool.not_eq_true] at hstarts ⊢
      exact fun hwrite => hstarts (BatchEvent.starts_of_startsWrite hwrite)

/-- Once the cancellation has arrived, no fetch and no write starts. A batch that is
cancelled by its end has had it arrive in between, or was cancelled before, and then does
nothing at all. A cancellation that arrives while the destination is made or around any
fetch comes before the first write. In that case no write is tried, the batch has no result
but reports the cancellation, and nothing is added to what the store held when the
destination was made. -/
theorem run_heeds_cancellation (e : Setting σ) (selection : List Summary) (store : σ) :
    (∀ before after, (run e selection store).events = before ++ .cancellation :: after →
        ∀ ev ∈ after, ev.starts = false) ∧
      ((run e selection store).cancelled = true ↔
        e.cancel.atStart = true ∨ .cancellation ∈ (run e selection store).events) ∧
      (e.cancel.atStart = true → (run e selection store).events = []) ∧
      (selection ≠ [] → e.destination ≠ "" →
        (e.cancel.atStart = false → (e.store.ensureDirectory store e.destination).2 = none) →
        ((e.cancel.arrives .directory = true ∨
            ∃ position < selection.length, Fetching.strikes e.cancel position = true) →
          CancelledFirst e selection store) ∧
        (CancelledFirst e selection store →
          (run e selection store).outcome = .error .cancelled ∧
            (∀ ev ∈ (run e selection store).events, ev.startsWrite = false) ∧
            (run e selection store).store =
              if e.cancel.atStart then store
              else (e.store.ensureDirectory store e.destination).1)) := by
  cases hstart : e.cancel.atStart with
  | true =>
    obtain ⟨hevents, hcancelled⟩ := run_of_atStart hstart selection store
    rw [hevents]
    refine ⟨?_, by simp [hcancelled], fun _ => rfl, ?_⟩
    · intro before after hsplit
      simp at hsplit
    · intro hselection hdestination _
      refine ⟨fun _ => .inl hstart, fun _ => ?_⟩
      have hrefusal : refusal e selection = some .cancelled :=
        refusal_eq_cancelled hselection hdestination hstart
      rw [run_of_refusal hrefusal]
      exact ⟨rfl, List.forall_mem_nil _, rfl⟩
  | false =>
    have heeded := run_heeded hstart selection store
    refine ⟨fun before after hevents => heeded.after hevents, ?_, by simp, ?_⟩
    · rw [heeded.arrived]
      simp
    · intro hselection hdestination hensured
      have hrun := run_eq_generate hselection hdestination hstart (hensured rfl)
      refine ⟨?_, ?_⟩
      · intro harrives
        apply cancelledFirst_of_fetching hrun
        rw [Fetching.run_cancelled_iff]
        refine harrives.imp_right ?_
        rintro ⟨position, hlt, hstrikes⟩
        exact ⟨(position, selection[position]), Fetching.mem_positions hlt, hstrikes⟩
      · intro hfirst
        have hwrites := no_write_of_cancelledFirst hstart hfirst
        refine ⟨?_, hwrites, ?_⟩ <;> rw [hrun] at hwrites ⊢
        · exact (generate_of_no_write hselection hwrites).1
        · exact (generate_of_no_write hselection hwrites).2

/-- The second fetch fails and brings the cancellation, when the first one has succeeded and
the third one runs. -/
theorem run_heeds_cancellation_in_flight :
    let e := smallBatch .overwrite (fun _ => none) (· = .fetch 1)
    (run e threeInterfaces []).outcome = .error .cancelled ∧
      ∀ ev ∈ (run e threeInterfaces []).events, ev.startsWrite = false := by
  intro e
  have hensured : (e.store.ensureDirectory [] e.destination).2 = none := by decide +kernel
  obtain ⟨_, _, _, hopened⟩ := run_heeds_cancellation e threeInterfaces []
  obtain ⟨hfirst, hnone⟩ := hopened (by decide) (by decide) fun _ => hensured
  obtain ⟨houtcome, hwrites, _⟩ := hnone (hfirst (.inr ⟨1, by decide, by decide⟩))
  exact ⟨houtcome, hwrites⟩

end Batch

end ApiTypings
