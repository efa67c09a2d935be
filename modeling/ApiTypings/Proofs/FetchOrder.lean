import ApiTypings.Proofs.Fetching

/-!
# When fetches start, and how many run at once

Fetches start in selection order. Until the batch is cancelled every fetch that was
waiting has started when the next one does, and at no moment have more fetches started
than were handed over and fit into the window. When every fetch takes time, the window
is full before the first one ends, so the greatest number of fetches that run together
is the size of the window, or of the selection if that is smaller.

Whether fetching ends cancelled depends on the moments at which the cancellation arrives,
but not on the durations or on the size of the window.
-/

namespace ApiTypings

/-- The id of the fetch that an event starts. -/
def BatchEvent.started? : BatchEvent → Option Nat
  | .fetchStarted id => some id
  | _ => none

namespace Batch

def Slot.hasStarted (s : Slot) : Bool :=
  match s.progress with
  | .waiting => false
  | _ => true

def Slot.isRunning (s : Slot) : Bool :=
  match s.progress with
  | .running _ => true
  | _ => false

theorem Slot.hasStarted_iff {s : Slot} : s.hasStarted = true ↔ s.progress ≠ .waiting := by
  unfold hasStarted
  cases s.progress <;> simp

namespace Fetching

variable {source : DetailSource} {cancel : Cancellation} {limit : Nat}
  {keys : List (Nat × Summary)}

/-! ## The order of starts -/

/-- The fetches handed over and those in the window whose time to start has come. -/
def takenUp (st : Fetching) : List (Nat × Summary) :=
  st.results.reverse.map Fetched.key ++ (st.window.filter Slot.hasStarted).map Slot.key

/-- The fetches that have started, in order. -/
def startedIds (st : Fetching) : List Nat := st.events.reverse.filterMap BatchEvent.started?

/-- Fetches start in the order of the window, and only a cancellation keeps them from
starting when their time has come. -/
structure InOrder (st : Fetching) : Prop where
  window : (st.window.map Slot.hasStarted).Pairwise fun a b => b = true → a = true
  started : startedIds st <+: (takenUp st).map (·.2.id)
  all : st.cancelled = false → startedIds st = (takenUp st).map (·.2.id)

@[simp] theorem cancel_started (cancel : Cancellation) (m : Moment) :
    (cancel.events m).filterMap BatchEvent.started? = [] := filterMap_cancel rfl cancel m

@[simp] theorem startedIds_finish (st : Fetching) (before : List Slot) (s : Slot)
    (after : List Slot) :
    startedIds (finish source cancel st before s after) = startedIds st := by
  simp [startedIds, finish, pass, BatchEvent.started?, List.filterMap_reverse]

/-- The state after a change to how far a fetch has come that started before. -/
theorem takenUp_replace {st st' : Fetching} {before after : List Slot} {s : Slot} {p : Progress}
    (hwindow : st.window = before ++ s :: after) (hresults : st'.results = st.results)
    (hwindow' : st'.window = before ++ { s with progress := p } :: after)
    (hs : s.hasStarted = true) (hp : Slot.hasStarted { s with progress := p } = true) :
    takenUp st' = takenUp st := by
  unfold takenUp
  rw [hresults, hwindow, hwindow']
  simp only [List.filter_append, List.filter_cons_of_pos hs, List.filter_cons_of_pos hp,
    List.map_append, List.map_cons]
  rfl

/-- After a fetch that waits, none has started. -/
theorem filter_hasStarted_after {s : Slot} {rest : List Slot}
    (h : ((s :: rest).map Slot.hasStarted).Pairwise fun a b => b = true → a = true)
    (hs : s.hasStarted = false) : rest.filter Slot.hasStarted = [] := by
  rw [List.map_cons, List.pairwise_cons] at h
  rw [List.filter_eq_nil_iff]
  intro t ht hstarted
  rw [h.1 _ (List.mem_map_of_mem ht) hstarted] at hs
  cases hs

/-- The fetches that have started or been withheld come first in the window. -/
theorem filter_hasStarted_first {window : List Slot}
    (h : (window.map Slot.hasStarted).Pairwise fun a b => b = true → a = true) :
    window.filter Slot.hasStarted <+: window := by
  induction window with
  | nil => exact List.prefix_refl _
  | cons s rest ih =>
    cases hs : s.hasStarted with
    | true =>
      rw [List.filter_cons_of_pos hs]
      rw [List.map_cons, List.pairwise_cons] at h
      exact (List.prefix_cons_inj s).mpr (ih h.2)
    | false =>
      rw [List.filter_cons_of_neg (by simp [hs]), filter_hasStarted_after h hs]
      exact List.nil_prefix

/-- The first fetch that waits comes after all that have started. -/
theorem takenUp_start {st st' : Fetching} {before after : List Slot} {s : Slot} {p : Progress}
    (h : InOrder st) (hwindow : st.window = before ++ s :: after)
    (hwaiting : s.progress = .waiting) (hresults : st'.results = st.results)
    (hwindow' : st'.window = before ++ { s with progress := p } :: after)
    (hp : Slot.hasStarted { s with progress := p } = true) :
    takenUp st' = takenUp st ++ [s.key] := by
  have hs : s.hasStarted = false := by simp [Slot.hasStarted, hwaiting]
  have hafter : after.filter Slot.hasStarted = [] := by
    have hlast := h.window
    rw [hwindow, List.map_append, List.pairwise_append] at hlast
    exact filter_hasStarted_after hlast.2.1 hs
  unfold takenUp
  rw [hresults, hwindow, hwindow']
  simp [List.filter_append, hs, hp, hafter, Slot.key]

theorem InOrder.of_eq {st st' : Fetching} (h : InOrder st)
    (hwindow : (st'.window.map Slot.hasStarted).Pairwise fun a b => b = true → a = true)
    (htaken : takenUp st' = takenUp st) (hstarted : startedIds st' = startedIds st)
    (hcancelled : st.cancelled = true → st'.cancelled = true) : InOrder st' := by
  refine ⟨hwindow, ?_, ?_⟩
  · rw [hstarted, htaken]
    exact h.started
  · intro hc
    rw [hstarted, htaken]
    apply h.all
    rw [← Bool.not_eq_true] at hc ⊢
    exact fun hbefore => hc (hcancelled hbefore)

/-- What starting, or withholding, the next fetch adds to the fetches that have started. -/
theorem start_started (source : DetailSource) (cancel : Cancellation) (st : Fetching)
    (before : List Slot) (s : Slot) (after : List Slot) :
    (startedIds (start source cancel st before s after) = startedIds st ∧
        (start source cancel st before s after).cancelled = true) ∨
      startedIds (start source cancel st before s after) = startedIds st ++ [s.summary.id] ∧
        st.cancelled = false := by
  rcases start_cases source cancel st before s after with
    ⟨hc, hstart⟩ | ⟨hc, _, ⟨d, _, hstart⟩ | ⟨_, hstart⟩⟩ <;> rw [hstart]
  · left
    exact ⟨by simp [startedIds, pass, List.filterMap_reverse], hc⟩
  · right
    exact ⟨by simp [startedIds, BatchEvent.started?], hc⟩
  · right
    rw [startedIds_finish]
    exact ⟨by simp [startedIds, BatchEvent.started?], hc⟩

theorem Move.inOrder {st st' : Fetching} (ho : Orderly source keys st) (h : InOrder st)
    (move : Move source cancel limit st st') : InOrder st' := by
  have hlast := h.window
  cases move with
  | @enter position s queue hqueue _ =>
    refine h.of_eq ?_ (by simp [takenUp, Slot.hasStarted]) rfl id
    rw [List.map_append, List.pairwise_append]
    refine ⟨hlast, List.pairwise_singleton _ _, ?_⟩
    intro a _ b hb
    simp only [List.map_cons, List.map_nil, List.mem_singleton] at hb
    subst hb
    exact fun hstarted => Bool.noConfusion hstarted
  | @handOver s r rest hwindow hended =>
    have hs : s.hasStarted = true := by simp [Slot.hasStarted, hended]
    have hkey : r.key = s.key := (ho.window s (by simp [hwindow]) r hended).1
    rw [hwindow, List.map_cons] at hlast
    exact h.of_eq (List.pairwise_cons.mp hlast).2 (by simp [takenUp, hwindow, hs, hkey]) rfl id
  | @finish before after s due time hwindow hrunning _ _ =>
    obtain ⟨_, hr, hc, hw⟩ := finish_spec source cancel { st with clock := time } before s after
    have hs : s.hasStarted = true := by simp [Slot.hasStarted, hrunning]
    refine h.of_eq ?_ (takenUp_replace hwindow hr hw hs rfl) (startedIds_finish _ _ _ _) hc
    rw [hwindow, List.map_append, List.map_cons, hs] at hlast
    rw [hw, List.map_append, List.map_cons]
    exact hlast
  | @start before after s hwindow hwaiting hbefore =>
    obtain ⟨_, hr, _, p, hw, hp⟩ := start_spec source cancel st before s after
    have hs : Slot.hasStarted { s with progress := p } = true := by
      rcases hp with ⟨due, rfl⟩ | rfl | ⟨rfl, _⟩ <;> rfl
    have htaken := takenUp_start h hwindow hwaiting hr hw hs
    have hwindow' : ((Fetching.start source cancel st before s after).window.map
        Slot.hasStarted).Pairwise fun a b => b = true → a = true := by
      rw [hwindow, List.map_append, List.map_cons, List.pairwise_append, List.pairwise_cons] at hlast
      rw [hw, List.map_append, List.map_cons, List.pairwise_append, List.pairwise_cons, hs]
      refine ⟨hlast.1, ⟨fun _ _ _ => rfl, hlast.2.1.2⟩, ?_⟩
      intro a ha b _ _
      obtain ⟨t, ht, rfl⟩ := List.mem_map.mp ha
      exact Slot.hasStarted_iff.mpr (hbefore t ht)
    rcases start_started source cancel st before s after with ⟨hsame, hc⟩ | ⟨hmore, hc⟩
    · refine ⟨hwindow', ?_, fun hnot => ?_⟩
      · rw [hsame, htaken, List.map_append]
        exact h.started.trans (List.prefix_append _ _)
      · rw [hc] at hnot
        cases hnot
    · have hids : startedIds (Fetching.start source cancel st before s after) =
          (takenUp (Fetching.start source cancel st before s after)).map (·.2.id) := by
        rw [hmore, htaken, List.map_append, h.all hc]
        rfl
      exact ⟨hwindow', hids ▸ List.prefix_refl _, fun _ => hids⟩

theorem initial_inOrder (selection : List Summary) (cancelled : Bool) :
    InOrder (initial selection cancelled) :=
  ⟨List.Pairwise.nil, List.nil_prefix, fun _ => rfl⟩

theorem steps_inOrder {k : Nat} {selection : List Summary} {cancelled : Bool} :
    InOrder (steps source cancel limit k (initial selection cancelled)) :=
  (steps_keep (fun move h => And.intro (move.orderly h.1) (move.inOrder h.1 h.2))
    (And.intro (initial_orderly source selection cancelled) (initial_inOrder selection cancelled))
    k).2

/-- The fetches taken up are the first ones of the selection. -/
theorem InOrder.takenUp_first {st : Fetching} (ho : Orderly source keys st) (h : InOrder st) :
    takenUp st <+: keys := by
  have hwindow := (filter_hasStarted_first h.window).map Slot.key
  rw [← ho.order, List.append_assoc]
  exact (List.prefix_append_right_inj _).mpr (hwindow.trans (List.prefix_append _ _))

/-! ## The size of the window -/

theorem Move.length_le {st st' : Fetching} (h : st.window.length ≤ limit)
    (move : Move source cancel limit st st') : st'.window.length ≤ limit := by
  cases move with
  | enter _ hlt =>
    simp only [List.length_append, List.length_singleton]
    omega
  | handOver hwindow _ =>
    simp only [hwindow, List.length_cons] at h
    exact Nat.le_of_succ_le h
  | @finish before after s due time hwindow _ _ _ =>
    obtain ⟨_, _, _, hw⟩ := finish_spec source cancel { st with clock := time } before s after
    rw [hw]
    simpa [hwindow] using h
  | @start before after s hwindow _ _ =>
    obtain ⟨_, _, _, p, hw, _⟩ := start_spec source cancel st before s after
    rw [hw]
    simpa [hwindow] using h

theorem steps_length_le {k : Nat} {st : Fetching} (h : st.window.length ≤ limit) :
    (steps source cancel limit k st).window.length ≤ limit :=
  steps_keep (P := fun st => st.window.length ≤ limit) (fun move h => move.length_le h) h k

/-! ## Whether fetching ends cancelled -/

/-- Whether the cancellation arrives around the fetch of a position. -/
def strikes (cancel : Cancellation) (position : Nat) : Bool :=
  cancel.arrives (.start position) || cancel.arrives (.fetch position)

/-- No moment that a fetch in the window has gone through was that of the cancellation. -/
def Spared (cancel : Cancellation) (s : Slot) : Prop :=
  (s.progress ≠ .waiting → cancel.arrives (.start s.position) = false) ∧
    ∀ r, s.progress = .ended r → cancel.arrives (.fetch s.position) = false

/-- Fetching is cancelled by what came before it or around a fetch, and as long as it is
not, no moment gone through was that of the cancellation. -/
structure Watched (cancel : Cancellation) (before : Bool) (keys : List (Nat × Summary))
    (st : Fetching) : Prop where
  origin : st.cancelled = true → before = true ∨ ∃ key ∈ keys, strikes cancel key.1 = true
  before : st.cancelled = false → before = false
  results : st.cancelled = false → ∀ r ∈ st.results, strikes cancel r.position = false
  window : st.cancelled = false → ∀ s ∈ st.window, Spared cancel s

theorem Orderly.key_mem {st : Fetching} (h : Orderly source keys st) {s : Slot}
    (hs : s ∈ st.window) : s.key ∈ keys := by
  rw [← h.order]
  exact List.mem_append_left _ (List.mem_append_right _ (List.mem_map_of_mem hs))

/-- A change to how far one fetch has come, at a moment at which the cancellation may
arrive. -/
theorem Watched.replace {first : Bool} {st st' : Fetching} (ho : Orderly source keys st)
    (h : Watched cancel first keys st) {before after : List Slot} {s : Slot} {p : Progress}
    (hwindow : st.window = before ++ s :: after) (hresults : st'.results = st.results)
    (hmono : st.cancelled = true → st'.cancelled = true)
    (hstruck : st'.cancelled = true → st.cancelled = true ∨ strikes cancel s.position = true)
    (hwindow' : st'.window = before ++ { s with progress := p } :: after)
    (hspared : st'.cancelled = false → Spared cancel { s with progress := p }) :
    Watched cancel first keys st' := by
  have hs : s ∈ st.window := by simp [hwindow]
  have hclear (hc : st'.cancelled = false) : st.cancelled = false := by
    rw [← Bool.not_eq_true] at hc ⊢
    exact fun hbefore => hc (hmono hbefore)
  refine ⟨?_, fun hc => h.before (hclear hc), ?_, ?_⟩
  · intro hc
    rcases hstruck hc with hold | hnew
    · exact h.origin hold
    · exact .inr ⟨s.key, ho.key_mem hs, hnew⟩
  · rw [hresults]
    exact fun hc => h.results (hclear hc)
  · intro hc t ht
    rw [hwindow'] at ht
    have old (ht : t ∈ st.window) : Spared cancel t := h.window (hclear hc) t ht
    rcases List.mem_append.mp ht with ht | ht
    · exact old (by simp [hwindow, ht])
    · rcases List.mem_cons.mp ht with rfl | ht
      · exact hspared hc
      · exact old (by simp [hwindow, ht])

theorem Watched.finish {first : Bool} {st : Fetching} (ho : Orderly source keys st)
    (h : Watched cancel first keys st) {before after : List Slot} {s : Slot}
    (hwindow : st.window = before ++ s :: after)
    (hstart : st.cancelled = false → cancel.arrives (.start s.position) = false) :
    Watched cancel first keys (finish source cancel st before s after) := by
  obtain ⟨_, hr, hc, hw⟩ := finish_spec source cancel st before s after
  have hcancelled : (Fetching.finish source cancel st before s after).cancelled =
      (st.cancelled || cancel.arrives (.fetch s.position)) := rfl
  refine h.replace ho hwindow hr hc ?_ hw ?_
  · intro hstruck
    rw [hcancelled, Bool.or_eq_true] at hstruck
    exact hstruck.imp_right fun hfetch => by rw [strikes, hfetch, Bool.or_true]
  · intro hclear
    rw [hcancelled, Bool.or_eq_false_iff] at hclear
    exact ⟨fun _ => hstart hclear.1, fun _ _ => hclear.2⟩

theorem Move.watched {first : Bool} {st st' : Fetching} (ho : Orderly source keys st)
    (h : Watched cancel first keys st) (move : Move source cancel limit st st') :
    Watched cancel first keys st' := by
  cases move with
  | @enter position s queue _ _ =>
    refine ⟨h.origin, h.before, h.results, ?_⟩
    intro hc t ht
    rcases List.mem_append.mp ht with ht | ht
    · exact h.window hc t ht
    · rw [List.mem_singleton.mp ht]
      exact ⟨fun hnot => (hnot rfl).elim, fun r hr => Progress.noConfusion hr⟩
  | @handOver s r rest hwindow hended =>
    have hs : s ∈ st.window := by simp [hwindow]
    have hposition : r.position = s.position := congrArg Prod.fst (ho.window s hs r hended).1
    refine ⟨h.origin, h.before, ?_, ?_⟩
    · intro hc t ht
      rcases List.mem_cons.mp ht with rfl | ht
      · obtain ⟨hstart, hfetch⟩ := h.window hc s hs
        rw [strikes, hposition, hstart (by simp [hended]), hfetch t hended]
        rfl
      · exact h.results hc t ht
    · intro hc t ht
      exact h.window hc t (by simp [hwindow, ht])
  | @finish before after s due time hwindow hrunning _ _ =>
    have hs : s ∈ st.window := by simp [hwindow]
    have horderly : Orderly source keys { st with clock := time } :=
      ⟨ho.order, ho.results, ho.window⟩
    have hwatched : Watched cancel first keys { st with clock := time } :=
      ⟨h.origin, h.before, h.results, h.window⟩
    exact hwatched.finish horderly hwindow fun hc => (h.window hc s hs).1 (by simp [hrunning])
  | @start before after s hwindow hwaiting _ =>
    rcases start_cases source cancel st before s after with
      ⟨hc, hstart⟩ | ⟨hc, harrives, ⟨d, _, hstart⟩ | ⟨_, hstart⟩⟩ <;> rw [hstart]
    · refine h.replace ho hwindow rfl (fun _ => hc) ?_ rfl ?_
      · intro _
        rw [pass, Bool.or_eq_true] at hc
        exact hc.imp_right fun hstruck => by rw [strikes, hstruck, Bool.true_or]
      · intro hclear
        exact (Bool.false_ne_true (hclear.symm.trans hc)).elim
    · refine h.replace ho hwindow rfl id .inl rfl ?_
      exact fun _ => ⟨fun _ => harrives, fun r hr => Progress.noConfusion hr⟩
    · have horderly : Orderly source keys
          { st with events := .fetchStarted s.summary.id :: st.events } :=
        ⟨ho.order, ho.results, ho.window⟩
      have hwatched : Watched cancel first keys
          { st with events := .fetchStarted s.summary.id :: st.events } :=
        ⟨h.origin, h.before, h.results, h.window⟩
      exact hwatched.finish horderly hwindow fun _ => harrives

theorem initial_watched (cancel : Cancellation) (selection : List Summary) (cancelled : Bool) :
    Watched cancel cancelled (positions selection) (initial selection cancelled) :=
  ⟨.inl, id, fun _ => List.forall_mem_nil _, fun _ => List.forall_mem_nil _⟩

theorem steps_watched {k : Nat} {selection : List Summary} {cancelled : Bool} :
    Watched cancel cancelled (positions selection)
      (steps source cancel limit k (initial selection cancelled)) :=
  (steps_keep (fun move h => And.intro (move.orderly h.1) (move.watched h.1 h.2))
    (And.intro (initial_orderly source selection cancelled)
      (initial_watched cancel selection cancelled)) k).2

/-! ## Fetches that run together -/

/-- How an event changes the number of running fetches and the greatest such number. -/
def tally (counts : Nat × Nat) (ev : BatchEvent) : Nat × Nat :=
  match ev with
  | .fetchStarted _ => (counts.1 + 1, max counts.2 (counts.1 + 1))
  | .fetchEnded _ _ => (counts.1 - 1, counts.2)
  | _ => counts

/-- The fetches that run, and the most that ever ran at once, by events with the latest
one first. -/
def counts (events : List BatchEvent) : Nat × Nat :=
  events.foldr (fun ev before => tally before ev) (0, 0)

theorem maxInFlight_eq (events : List BatchEvent) :
    maxInFlight events = (events.foldl tally (0, 0)).2 := by
  unfold maxInFlight
  congr 2

theorem maxInFlight_reverse (events : List BatchEvent) :
    maxInFlight events.reverse = (counts events).2 := by
  rw [counts, ← List.foldl_reverse]
  exact maxInFlight_eq events.reverse

@[simp] theorem counts_cancel (cancel : Cancellation) (m : Moment) (events : List BatchEvent) :
    counts (cancel.events m ++ events) = counts events := by
  unfold Cancellation.events
  split <;> rfl

@[simp] theorem counts_fetchStarted (id : Nat) (events : List BatchEvent) :
    counts (.fetchStarted id :: events) =
      ((counts events).1 + 1, max (counts events).2 ((counts events).1 + 1)) := rfl

@[simp] theorem counts_fetchEnded (id : Nat) (error : Option FetchError)
    (events : List BatchEvent) :
    counts (.fetchEnded id error :: events) = ((counts events).1 - 1, (counts events).2) := rfl

/-- The events tell how many fetches of the window run, and there were never more than the
bound. -/
structure Metered (bound : Nat) (st : Fetching) : Prop where
  running : (counts st.events).1 = st.window.countP Slot.isRunning
  reached : (counts st.events).1 ≤ (counts st.events).2
  most : (counts st.events).2 ≤ bound

/-- A fetch that counts as running ends. -/
theorem metered_finish {bound : Nat} {st : Fetching} {before after : List Slot} {s : Slot}
    (hrunning : (counts st.events).1 =
      before.countP Slot.isRunning + after.countP Slot.isRunning + 1)
    (hreached : (counts st.events).1 ≤ (counts st.events).2)
    (hmost : (counts st.events).2 ≤ bound) :
    Metered bound (finish source cancel st before s after) := by
  have hcounts : counts (finish source cancel st before s after).events =
      ((counts st.events).1 - 1, (counts st.events).2) := by
    simp [finish, pass]
  refine ⟨?_, ?_, ?_⟩
  · rw [hcounts, hrunning]
    simp [finish, List.countP_append, Slot.isRunning]
  · rw [hcounts]
    exact Nat.le_trans (Nat.sub_le _ _) hreached
  · rw [hcounts]
    exact hmost

theorem Move.metered {bound : Nat} {st st' : Fetching} (hlength : st.window.length ≤ bound)
    (h : Metered bound st) (move : Move source cancel limit st st') : Metered bound st' := by
  have hrunning := h.running
  cases move with
  | enter _ _ =>
    refine ⟨?_, h.reached, h.most⟩
    simpa [Slot.isRunning] using hrunning
  | @handOver s r rest hwindow hended =>
    refine ⟨?_, h.reached, h.most⟩
    simpa [hwindow, Slot.isRunning, hended] using hrunning
  | @finish before after s due time hwindow hprogress _ _ =>
    have hs : s.isRunning = true := by simp [Slot.isRunning, hprogress]
    rw [hwindow, List.countP_append, List.countP_cons_of_pos hs] at hrunning
    exact metered_finish (hrunning.trans (Nat.add_assoc _ _ _).symm) h.reached h.most
  | @start before after s hwindow hwaiting _ =>
    have hs : ¬ s.isRunning = true := by simp [Slot.isRunning, hwaiting]
    rw [hwindow, List.countP_append, List.countP_cons_of_neg hs] at hrunning
    have hfits : (counts st.events).1 + 1 ≤ bound := by
      have hbefore := before.countP_le_length (p := Slot.isRunning)
      have hafter := after.countP_le_length (p := Slot.isRunning)
      simp only [hwindow, List.length_append, List.length_cons] at hlength
      omega
    rcases start_cases source cancel st before s after with
      ⟨_, hstart⟩ | ⟨_, _, ⟨d, _, hstart⟩ | ⟨_, hstart⟩⟩ <;> rw [hstart]
    · refine ⟨?_, ?_, ?_⟩
      · simpa [pass, Slot.isRunning] using hrunning
      · simpa [pass] using h.reached
      · simpa [pass] using h.most
    · refine ⟨?_, Nat.le_max_right _ _, Nat.max_le.mpr ⟨h.most, hfits⟩⟩
      simp only [counts_fetchStarted, List.countP_append]
      rw [List.countP_cons_of_pos rfl, hrunning, Nat.add_assoc]
    · apply metered_finish
      · simp only [counts_fetchStarted, hrunning]
      · exact Nat.le_max_right _ _
      · exact Nat.max_le.mpr ⟨h.most, hfits⟩

theorem Orderly.length_eq {st : Fetching} (h : Orderly source keys st) :
    st.results.length + st.window.length + st.queue.length = keys.length := by
  rw [← h.order]
  simp [Nat.add_assoc]

theorem steps_metered {k : Nat} {st : Fetching} (ho : Orderly source keys st)
    (hlength : st.window.length ≤ limit) (h : Metered (min keys.length limit) st) :
    Metered (min keys.length limit) (steps source cancel limit k st) := by
  have keep {st st' : Fetching} (move : Move source cancel limit st st')
      (h : Orderly source keys st ∧ st.window.length ≤ limit ∧
        Metered (min keys.length limit) st) :
      Orderly source keys st' ∧ st'.window.length ≤ limit ∧
        Metered (min keys.length limit) st' := by
    obtain ⟨ho, hlength, hm⟩ := h
    have hfits : st.window.length ≤ min keys.length limit := by
      have := ho.length_eq
      omega
    exact ⟨move.orderly ho, move.length_le hlength, move.metered hfits hm⟩
  exact (steps_keep keep ⟨ho, hlength, h⟩ k).2.2

theorem Move.most_mono {st st' : Fetching} (move : Move source cancel limit st st') :
    (counts st.events).2 ≤ (counts st'.events).2 := by
  cases move with
  | enter => exact Nat.le_refl _
  | handOver => exact Nat.le_refl _
  | finish => simp [Fetching.finish, pass]
  | @start before after s _ _ _ =>
    rcases start_cases source cancel st before s after with
      ⟨_, hstart⟩ | ⟨_, _, ⟨d, _, hstart⟩ | ⟨_, hstart⟩⟩ <;> rw [hstart]
    · simp [pass]
    · exact Nat.le_max_left _ _
    · simp only [Fetching.finish, pass, counts_fetchEnded, counts_cancel]
      exact Nat.le_max_left _ _

theorem Move.cancelled_mono {st st' : Fetching} (move : Move source cancel limit st st')
    (h : st.cancelled = true) : st'.cancelled = true := by
  cases move with
  | enter => exact h
  | handOver => exact h
  | finish => exact (finish_spec _ _ _ _ _ _).2.2.1 h
  | start => exact (start_spec _ _ _ _ _ _).2.2.1 h

/-- Nothing has ended yet, and what runs is not due. -/
structure Early (st : Fetching) : Prop where
  results : st.results = []
  window : ∀ s ∈ st.window, s.progress = .waiting ∨
    ∃ due, s.progress = .running due ∧ st.clock < due

/-- The first fetch to end leaves a full window behind, all of which ran. -/
theorem full_of_busy {st : Fetching} {bound : Nat} (ho : Orderly source keys st)
    (hm : Metered bound st) (he : Early st) (hbusy : Busy limit st) :
    min keys.length limit ≤ (counts st.events).2 := by
  have hrunning : ∀ s ∈ st.window, s.isRunning = true := by
    intro s hs
    rcases he.window s hs with hwaiting | ⟨due, hdue, _⟩
    · exact (hbusy.2 s hs hwaiting).elim
    · simp [Slot.isRunning, hdue]
  have hall : (counts st.events).1 = st.window.length := by
    rw [hm.running, List.countP_eq_length.mpr hrunning]
  have hlength : min keys.length limit ≤ st.window.length := by
    have htotal := ho.length_eq
    rw [he.results] at htotal
    rcases hbusy.1 with hqueue | hfull
    · simp only [hqueue, List.length_nil] at htotal
      omega
    · omega
  have := hm.reached
  omega

/-- Unless a fetch is withheld, the state stays early until the window is full. -/
theorem Move.early {bound : Nat} {st st' : Fetching} (ho : Orderly source keys st)
    (hm : Metered bound st) (he : Early st)
    (hpositive : ∀ key ∈ keys, 0 < source.duration key.1 key.2.id)
    (hc : st'.cancelled = false) (move : Move source cancel limit st st') :
    Early st' ∨ min keys.length limit ≤ (counts st.events).2 := by
  cases move with
  | @enter position s queue _ _ =>
    refine .inl ⟨he.results, ?_⟩
    intro t ht
    rcases List.mem_append.mp ht with ht | ht
    · exact he.window t ht
    · rw [List.mem_singleton.mp ht]
      exact .inl rfl
  | @handOver s r rest hwindow hended =>
    rcases he.window s (by simp [hwindow]) with hs | ⟨due, hs, _⟩ <;> rw [hended] at hs <;> cases hs
  | @finish before after s due time hwindow hrunning hle htime =>
    -- What is due without any time passing would not be early, so time passes, and it does
    -- so only when the window is full.
    rcases htime with rfl | hbusy
    · rcases he.window s (by simp [hwindow]) with hs | ⟨due', hs, hlt⟩ <;> rw [hrunning] at hs <;>
        cases hs
      exact (Nat.not_le_of_lt hlt hle).elim
    · exact .inr (full_of_busy ho hm he hbusy)
  | @start before after s hwindow _ _ =>
    left
    rcases start_cases source cancel st before s after with
      ⟨hwithheld, hstart⟩ | ⟨_, _, ⟨d, _, hstart⟩ | ⟨hzero, hstart⟩⟩
    · rw [hstart] at hc
      exact (Bool.false_ne_true (hc.symm.trans hwithheld)).elim
    · rw [hstart]
      refine ⟨he.results, ?_⟩
      intro t ht
      have old (ht : t ∈ st.window) := he.window t ht
      rcases List.mem_append.mp ht with ht | ht
      · exact old (by simp [hwindow, ht])
      · rcases List.mem_cons.mp ht with rfl | ht
        · exact .inr ⟨_, rfl, Nat.lt_add_of_pos_right (Nat.succ_pos d)⟩
        · exact old (by simp [hwindow, ht])
    · have hs : s ∈ st.window := by simp [hwindow]
      have hlt : 0 < source.duration s.position s.summary.id := hpositive s.key (ho.key_mem hs)
      rw [hzero] at hlt
      cases hlt

/-- A run that starts early and comes to its end has had a full window of running
fetches. -/
theorem steps_overlap {k : Nat} {st : Fetching} (ho : Orderly source keys st)
    (hlength : st.window.length ≤ limit) (hm : Metered (min keys.length limit) st)
    (he : Early st) (hpositive : ∀ key ∈ keys, 0 < source.duration key.1 key.2.id)
    (hqueue : (steps source cancel limit k st).queue = [])
    (hwindow : (steps source cancel limit k st).window = [])
    (hc : (steps source cancel limit k st).cancelled = false) :
    min keys.length limit ≤ (counts (steps source cancel limit k st).events).2 := by
  have empty {st : Fetching} (ho : Orderly source keys st) (he : Early st)
      (hqueue : st.queue = []) (hwindow : st.window = []) (most : Nat) :
      min keys.length limit ≤ most := by
    have htotal := ho.length_eq
    simp only [he.results, hqueue, hwindow, List.length_nil] at htotal
    omega
  -- The state stays early until the first fetch ends, and from then on the maximum stays.
  induction k generalizing st with
  | zero => exact empty ho he hqueue hwindow _
  | succ k ih =>
    unfold steps at hqueue hwindow hc ⊢
    cases hstep : step source cancel limit st with
    | none =>
      simp only [hstep] at hqueue hwindow
      exact empty ho he hqueue hwindow _
    | some st' =>
      simp only [hstep] at hqueue hwindow hc ⊢
      have move := step_move hstep
      have hc' : st'.cancelled = false := by
        rw [← Bool.not_eq_true] at hc ⊢
        exact fun h => hc (steps_keep (P := fun st => st.cancelled = true)
          Move.cancelled_mono h k)
      rcases move.early ho hm he hpositive hc' with he' | hfull
      · have hfits : st.window.length ≤ min keys.length limit := by
          have := ho.length_eq
          omega
        exact ih (move.orderly ho) (move.length_le hlength) (move.metered hfits hm) he' hqueue
          hwindow hc
      · exact steps_keep (P := fun st => min keys.length limit ≤ (counts st.events).2)
          (fun move h => Nat.le_trans h move.most_mono) (Nat.le_trans hfull move.most_mono) k

/-! ## Whole runs -/

section Runs
variable (source : DetailSource) (cancel : Cancellation) (concurrency : Nat)
  (selection : List Summary) (cancelled : Bool)

theorem positions_map_id : (positions selection).map (·.2.id) = selection.map (·.id) :=
  calc (positions selection).map (·.2.id)
      = ((positions selection).map Prod.snd).map (·.id) := List.map_map.symm
    _ = selection.map (·.id) := by rw [positions_map_snd]

/-- All fetches start, in selection order and each once, unless the batch is cancelled. -/
theorem run_started (h : (run source cancel concurrency selection cancelled).cancelled = false) :
    startedIds (run source cancel concurrency selection cancelled) = selection.map (·.id) := by
  have horder : InOrder (run source cancel concurrency selection cancelled) := steps_inOrder
  obtain ⟨_, hwindow⟩ := run_drained source cancel concurrency selection cancelled
  rw [horder.all h, takenUp, hwindow, List.filter_nil, List.map_nil, List.append_nil, run_keys,
    positions_map_id]

/-- At every moment the first fetches of the selection have started, in order. -/
theorem started_in_order (k : Nat) (limit : Nat) :
    startedIds (steps source cancel limit k (initial selection cancelled)) <+:
      selection.map (·.id) := by
  have ho := initial_orderly source selection cancelled
  have horder : InOrder (steps source cancel limit k (initial selection cancelled)) :=
    steps_inOrder
  rw [← positions_map_id selection]
  exact horder.started.trans ((horder.takenUp_first (steps_orderly ho)).map _)

/-- The schedule has no say in whether fetching ends cancelled. -/
theorem run_cancelled_iff :
    (run source cancel concurrency selection cancelled).cancelled = true ↔
      cancelled = true ∨ ∃ key ∈ positions selection, strikes cancel key.1 = true := by
  have hwatched : Watched cancel cancelled (positions selection)
      (run source cancel concurrency selection cancelled) := steps_watched
  refine ⟨hwatched.origin, ?_⟩
  intro h
  by_contra hnot
  have hclear := eq_false_of_ne_true hnot
  rcases h with hfirst | ⟨key, hkey, hstruck⟩
  · exact Bool.false_ne_true ((hwatched.before hclear).symm.trans hfirst)
  · rw [← run_keys source cancel concurrency selection cancelled] at hkey
    obtain ⟨r, hr, rfl⟩ := List.mem_map.mp hkey
    have hspared := hwatched.results hclear r (List.mem_reverse.mp hr)
    exact Bool.false_ne_true (hspared.symm.trans hstruck)

/-- Fetching that ends without a cancellation was never cancelled. -/
theorem steps_cancelled_eq_false
    (h : (run source cancel concurrency selection cancelled).cancelled = false) (k limit : Nat) :
    (steps source cancel limit k (initial selection cancelled)).cancelled = false := by
  rw [← Bool.not_eq_true] at h ⊢
  intro hc
  have horigin := Watched.origin steps_watched hc
  exact h ((run_cancelled_iff source cancel concurrency selection cancelled).mpr horigin)

/-- At every moment the fetches that have started are those handed over, and after them no
more than the window holds. -/
theorem started_under_way
    (h : (run source cancel concurrency selection cancelled).cancelled = false) (k limit : Nat) :
    ∃ underWay : List Nat, underWay.length ≤ limit ∧
      startedIds (steps source cancel limit k (initial selection cancelled)) =
        (steps source cancel limit k (initial selection cancelled)).results.reverse.map
          (·.summary.id) ++ underWay := by
  have hc := steps_cancelled_eq_false source cancel concurrency selection cancelled h k limit
  have horder : InOrder (steps source cancel limit k (initial selection cancelled)) :=
    steps_inOrder
  have hlength : (steps source cancel limit k (initial selection cancelled)).window.length ≤
      limit := steps_length_le (Nat.zero_le limit)
  refine ⟨((steps source cancel limit k (initial selection cancelled)).window.filter
    Slot.hasStarted).map (·.summary.id), ?_, ?_⟩
  · rw [List.length_map]
    exact Nat.le_trans (List.length_filter_le _ _) hlength
  · rw [horder.all hc, takenUp, List.map_append, List.map_map, List.map_map]
    rfl

/-- When every fetch takes time, as many run at once as the window and the selection
allow, and never more. -/
theorem run_overlap
    (hpositive : ∀ key ∈ positions selection, 0 < source.duration key.1 key.2.id)
    (h : (run source cancel concurrency selection cancelled).cancelled = false) :
    maxInFlight (run source cancel concurrency selection cancelled).events.reverse =
      min selection.length (limitOf concurrency selection) := by
  have ho := initial_orderly source selection cancelled
  have hempty : (initial selection cancelled).window.length ≤ limitOf concurrency selection :=
    Nat.zero_le _
  have hmetered : Metered (min (positions selection).length (limitOf concurrency selection))
      (initial selection cancelled) := ⟨rfl, Nat.le_refl _, Nat.zero_le _⟩
  obtain ⟨hqueue, hwindow⟩ := run_drained source cancel concurrency selection cancelled
  have hmost : Metered (min (positions selection).length (limitOf concurrency selection))
      (run source cancel concurrency selection cancelled) := steps_metered ho hempty hmetered
  have hreached := steps_overlap ho hempty hmetered ⟨rfl, List.forall_mem_nil _⟩ hpositive hqueue
    hwindow h
  rw [maxInFlight_reverse, ← length_positions selection]
  exact Nat.le_antisymm hmost.most hreached

end Runs

end Fetching

end Batch

end ApiTypings
