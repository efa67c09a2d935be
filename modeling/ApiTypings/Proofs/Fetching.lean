import ApiTypings.Batch.Fetching
import Mathlib.Algebra.Ring.Nat
import Mathlib.Tactic.Common

/-!
# What fetching side by side comes to

Every step of fetching is one of four moves. Each of them brings some fetch closer
to its end, so the allowance of four steps for each interface is enough, and each
keeps the order of the selection. What comes out of a batch that is not cancelled
while it fetches is therefore what the source answered, position by position,
whatever the durations and the size of the window.

Nothing is said here about the order of the events, or about how many fetches run at
once.
-/

namespace ApiTypings.Batch

def Fetched.key (r : Fetched) : Nat × Summary := (r.position, r.summary)

def Slot.key (s : Slot) : Nat × Summary := (s.position, s.summary)

namespace Fetching

/-- What a source answers for a position. -/
def answer (source : DetailSource) (key : Nat × Summary) : Fetched :=
  resultOf key.1 key.2 (source.fetch key.1 key.2.id)

/-- What a source answers for a selection, in order. -/
def answers (source : DetailSource) (selection : List Summary) : List Fetched :=
  (positions selection).map (answer source)

@[simp] theorem answer_key (source : DetailSource) (key : Nat × Summary) :
    (answer source key).key = key := by
  unfold answer resultOf
  split <;> rfl

@[simp] theorem withheld_key (position : Nat) (s : Summary) :
    (withheld position s).key = (position, s) := rfl

@[simp] theorem length_positions (selection : List Summary) :
    (positions selection).length = selection.length := by simp [positions]

@[simp] theorem positions_map_snd (selection : List Summary) :
    (positions selection).map Prod.snd = selection := by
  simp [positions, List.map_snd_zip]

@[simp] theorem positions_map_fst (selection : List Summary) :
    (positions selection).map Prod.fst = List.range selection.length := by
  simp [positions, List.map_fst_zip]

theorem mem_positions {selection : List Summary} {position : Nat} (h : position < selection.length) :
    (position, selection[position]) ∈ positions selection := by
  have hlt : position < (positions selection).length := by simpa using h
  have hkey : (positions selection)[position] = (position, selection[position]) := by
    simp [positions]
  exact hkey ▸ List.getElem_mem hlt

@[simp] theorem length_answers (source : DetailSource) (selection : List Summary) :
    (answers source selection).length = selection.length := by simp [answers]

@[simp] theorem answers_map_summary (source : DetailSource) (selection : List Summary) :
    (answers source selection).map Fetched.summary = selection := by
  have hsummary : Fetched.summary ∘ answer source = Prod.snd :=
    funext fun key => congrArg Prod.snd (answer_key source key)
  rw [answers, List.map_map, hsummary, positions_map_snd]

/-! ## Looking into the window -/

theorem splitWaiting_eq_some {window before after : List Slot} {s : Slot}
    (h : splitWaiting window = some (before, s, after)) :
    window = before ++ s :: after ∧ s.progress = .waiting ∧
      ∀ t ∈ before, t.progress ≠ .waiting := by
  induction window generalizing before with
  | nil => simp [splitWaiting] at h
  | cons t rest ih =>
    unfold splitWaiting at h
    split at h
    · next hw =>
      simp only [Option.some.injEq, Prod.mk.injEq] at h
      obtain ⟨rfl, rfl, rfl⟩ := h
      exact ⟨rfl, hw, List.forall_mem_nil _⟩
    · next hw =>
      simp only [Option.map_eq_some_iff, Prod.mk.injEq] at h
      obtain ⟨⟨b, u, a⟩, hsplit, rfl, rfl, rfl⟩ := h
      obtain ⟨rfl, hu, hb⟩ := ih hsplit
      exact ⟨rfl, hu, List.forall_mem_cons.mpr ⟨hw, hb⟩⟩

theorem splitWaiting_eq_none {window : List Slot} (h : splitWaiting window = none) :
    ∀ s ∈ window, s.progress ≠ .waiting := by
  induction window with
  | nil => simp
  | cons t rest ih =>
    unfold splitWaiting at h
    split at h
    · simp at h
    · next hw =>
      intro s hs
      rcases List.mem_cons.mp hs with rfl | hs
      · exact hw
      · exact ih (Option.map_eq_none_iff.mp h) s hs

theorem splitDue_eq_some {time : Nat} {window before after : List Slot} {s : Slot}
    (h : splitDue time window = some (before, s, after)) :
    window = before ++ s :: after ∧ ∃ due ≤ time, s.progress = .running due := by
  induction window generalizing before with
  | nil => simp [splitDue] at h
  | cons t rest ih =>
    have later (h : (splitDue time rest).map (fun found => (t :: found.1, found.2.1, found.2.2)) =
        some (before, s, after)) : t :: rest = before ++ s :: after ∧
          ∃ due ≤ time, s.progress = .running due := by
      simp only [Option.map_eq_some_iff, Prod.mk.injEq] at h
      obtain ⟨⟨b, u, a⟩, hsplit, rfl, rfl, rfl⟩ := h
      obtain ⟨rfl, hu⟩ := ih hsplit
      exact ⟨rfl, hu⟩
    unfold splitDue at h
    split at h
    · next due hr =>
      split at h
      · next hle =>
        simp only [Option.some.injEq, Prod.mk.injEq] at h
        obtain ⟨rfl, rfl, rfl⟩ := h
        exact ⟨rfl, due, hle, hr⟩
      · exact later h
    · exact later h

theorem splitDue_eq_none {time : Nat} {window : List Slot} (h : splitDue time window = none) :
    ∀ s ∈ window, ∀ due, s.progress = .running due → time < due := by
  induction window with
  | nil => simp
  | cons t rest ih =>
    unfold splitDue at h
    intro s hs due hr
    split at h
    · next due' hr' =>
      split at h
      · simp at h
      · rcases List.mem_cons.mp hs with rfl | hs
        · rw [hr'] at hr
          cases hr
          omega
        · exact ih (Option.map_eq_none_iff.mp h) s hs due hr
    · next hr' =>
      rcases List.mem_cons.mp hs with rfl | hs
      · exact (hr' due hr).elim
      · exact ih (Option.map_eq_none_iff.mp h) s hs due hr

theorem nextDue_eq_none {window : List Slot} (h : nextDue window = none) :
    ∀ s ∈ window, ∀ due, s.progress ≠ .running due := by
  induction window with
  | nil => simp
  | cons t rest ih =>
    unfold nextDue at h
    intro s hs due hr
    split at h
    · simp at h
    · simp at h
    · next hr' =>
      rcases List.mem_cons.mp hs with rfl | hs
      · exact hr' due hr h
      · exact ih h s hs due hr

theorem nextDue_eq_some {window : List Slot} {time : Nat} (h : nextDue window = some time) :
    ∃ s ∈ window, s.progress = .running time := by
  induction window generalizing time with
  | nil => simp [nextDue] at h
  | cons t rest ih =>
    unfold nextDue at h
    split at h
    · next due other hr hrest =>
      cases h
      rcases Nat.le_total due other with hle | hle
      · exact ⟨t, by simp, by rw [Nat.min_eq_left hle]; exact hr⟩
      · obtain ⟨s, hs, hsr⟩ := ih hrest
        exact ⟨s, List.mem_cons_of_mem _ hs, by rw [Nat.min_eq_right hle]; exact hsr⟩
    · next due hr _ =>
      cases h
      exact ⟨t, by simp, hr⟩
    · obtain ⟨s, hs, hsr⟩ := ih h
      exact ⟨s, List.mem_cons_of_mem _ hs, hsr⟩

/-! ## The moves -/

/-- No fetch can enter the window, and none in it waits to start. -/
def Busy (limit : Nat) (st : Fetching) : Prop :=
  (st.queue = [] ∨ limit ≤ st.window.length) ∧ ∀ s ∈ st.window, s.progress ≠ .waiting

/-- What one step can do. -/
inductive Move (source : DetailSource) (cancel : Cancellation) (limit : Nat) :
    Fetching → Fetching → Prop
  | enter {st : Fetching} {position : Nat} {s : Summary} {queue : List (Nat × Summary)} :
      st.queue = (position, s) :: queue → st.window.length < limit →
      Move source cancel limit st
        { st with queue := queue, window := st.window ++ [⟨position, s, .waiting⟩] }
  | handOver {st : Fetching} {s : Slot} {r : Fetched} {rest : List Slot} :
      st.window = s :: rest → s.progress = .ended r →
      Move source cancel limit st { st with window := rest, results := r :: st.results }
  /-- A fetch ends when it is due. Time passes only when there is nothing else to do. -/
  | finish {st : Fetching} {before after : List Slot} {s : Slot} {due time : Nat} :
      st.window = before ++ s :: after → s.progress = .running due → due ≤ time →
      (time = st.clock ∨ Busy limit st) →
      Move source cancel limit st
        (finish source cancel { st with clock := time } before s after)
  /-- The first waiting fetch starts, or is withheld. -/
  | start {st : Fetching} {before after : List Slot} {s : Slot} :
      st.window = before ++ s :: after → s.progress = .waiting →
      (∀ t ∈ before, t.progress ≠ .waiting) →
      Move source cancel limit st (start source cancel st before s after)

section Moves
variable {source : DetailSource} {cancel : Cancellation} {limit : Nat}

theorem settle_move {st st' : Fetching} {time : Nat} (htime : time = st.clock ∨ Busy limit st)
    (h : settle source cancel st time = some st') : Move source cancel limit st st' := by
  unfold settle at h
  simp only [Option.map_eq_some_iff] at h
  obtain ⟨⟨before, s, after⟩, hsplit, rfl⟩ := h
  obtain ⟨hwindow, due, hle, hdue⟩ := splitDue_eq_some hsplit
  exact .finish hwindow hdue hle htime

theorem work_move {st st' : Fetching} (hfull : st.queue = [] ∨ limit ≤ st.window.length)
    (h : work source cancel st = some st') : Move source cancel limit st st' := by
  unfold work at h
  split at h
  · next hsettle =>
    cases h
    exact settle_move (.inl rfl) hsettle
  · split at h
    · next hsplit =>
      cases h
      obtain ⟨hwindow, hwaiting, hbefore⟩ := splitWaiting_eq_some hsplit
      exact .start hwindow hwaiting hbefore
    · next hsplit =>
      obtain ⟨time, _, hsettle⟩ := Option.bind_eq_some_iff.mp h
      exact settle_move (.inr ⟨hfull, splitWaiting_eq_none hsplit⟩) hsettle

theorem step_move {st st' : Fetching} (h : step source cancel limit st = some st') :
    Move source cancel limit st st' := by
  unfold step at h
  split at h
  · next hqueue =>
    split at h
    · next hlt =>
      cases h
      exact .enter hqueue hlt
    · next hfull =>
      split at h
      · next hwindow =>
        cases h
        exact .handOver hwindow rfl
      · exact work_move (.inr (Nat.le_of_not_lt hfull)) h
  · next hwindow =>
    cases h
    exact .handOver hwindow rfl
  · next hqueue _ => exact work_move (.inl hqueue) h

/-- What every move keeps holds after any number of steps. -/
theorem steps_keep {P : Fetching → Prop}
    (keep : ∀ {st st' : Fetching}, Move source cancel limit st st' → P st → P st')
    {st : Fetching} (h : P st) (k : Nat) : P (steps source cancel limit k st) := by
  induction k generalizing st with
  | zero => exact h
  | succ k ih =>
    unfold steps
    split
    · exact h
    · next st' hstep => exact ih (keep (step_move hstep) h)

/-- As long as some fetch has not ended there is work to do. -/
theorem work_isSome {st : Fetching} {s : Slot} (hs : s ∈ st.window)
    (hopen : ∀ r, s.progress ≠ .ended r) : (work source cancel st).isSome := by
  unfold work
  split
  · rfl
  · split
    · rfl
    · next hwaiting =>
      cases hnext : nextDue st.window with
      | none =>
        cases hp : s.progress with
        | waiting => exact (splitWaiting_eq_none hwaiting s hs hp).elim
        | running due => exact (nextDue_eq_none hnext s hs due hp).elim
        | ended r => exact (hopen r hp).elim
      | some time =>
        obtain ⟨t, ht, hrunning⟩ := nextDue_eq_some hnext
        simp only [Option.bind_some, settle, Option.isSome_map]
        rw [Option.isSome_iff_ne_none]
        intro hnone
        have := splitDue_eq_none hnone t ht time hrunning
        omega

/-- Fetching comes to a stop only when all is handed over. -/
theorem drained_of_step_eq_none {st : Fetching} (hlimit : 0 < limit)
    (h : step source cancel limit st = none) : st.queue = [] ∧ st.window = [] := by
  have stuck {s : Slot} {rest : List Slot} (hwindow : st.window = s :: rest)
      (hopen : ∀ r, s.progress ≠ .ended r) : work source cancel st ≠ none := by
    have hs : s ∈ st.window := by simp [hwindow]
    exact Option.isSome_iff_ne_none.mp (work_isSome hs hopen)
  unfold step at h
  split at h
  · split at h
    · simp at h
    · next hfull =>
      split at h
      · simp at h
      · next hhead =>
        cases hwindow : st.window with
        | nil => simp [hwindow, hlimit] at hfull
        | cons s rest => exact (stuck hwindow (fun r hr => hhead s.position s.summary r rest
            (by rw [hwindow, ← hr])) h).elim
  · simp at h
  · next hqueue hhead =>
    cases hwindow : st.window with
    | nil => exact ⟨hqueue, rfl⟩
    | cons s rest => exact (stuck hwindow (fun r hr => hhead s.position s.summary r rest
        (by rw [hwindow, ← hr])) h).elim

/-- A fetch that ends leaves its answer in its slot and all else in place. -/
theorem finish_spec (source : DetailSource) (cancel : Cancellation) (st : Fetching)
    (before : List Slot) (s : Slot) (after : List Slot) :
    (finish source cancel st before s after).queue = st.queue ∧
      (finish source cancel st before s after).results = st.results ∧
      (st.cancelled = true → (finish source cancel st before s after).cancelled = true) ∧
      (finish source cancel st before s after).window =
        before ++ { s with progress := .ended (answer source s.key) } :: after := by
  refine ⟨rfl, rfl, ?_, rfl⟩
  intro h
  simp [finish, pass, h]

theorem pass_of_not_cancelled {m : Moment} {st : Fetching}
    (h : (st.pass cancel m).cancelled = false) :
    st.cancelled = false ∧ cancel.arrives m = false ∧ st.pass cancel m = st := by
  obtain ⟨hcancelled, harrives⟩ : st.cancelled = false ∧ cancel.arrives m = false := by
    simpa [pass] using h
  refine ⟨hcancelled, harrives, ?_⟩
  simp [pass, Cancellation.events, harrives]

/-- A fetch whose turn it is to start is withheld if the batch is cancelled by then.
Otherwise it runs, or has ended at once. -/
theorem start_cases (source : DetailSource) (cancel : Cancellation) (st : Fetching)
    (before : List Slot) (s : Slot) (after : List Slot) :
    ((st.pass cancel (.start s.position)).cancelled = true ∧
        start source cancel st before s after =
          { st.pass cancel (.start s.position) with
            window := before ++
              { s with progress := .ended (withheld s.position s.summary) } :: after }) ∨
      st.cancelled = false ∧ cancel.arrives (.start s.position) = false ∧
        ((∃ d, source.duration s.position s.summary.id = d + 1 ∧
            start source cancel st before s after =
              { st with
                events := .fetchStarted s.summary.id :: st.events
                window := before ++
                  { s with progress := .running (st.clock + (d + 1)) } :: after }) ∨
          source.duration s.position s.summary.id = 0 ∧
            start source cancel st before s after =
              finish source cancel { st with events := .fetchStarted s.summary.id :: st.events }
                before s after) := by
  unfold start
  simp only
  split
  · next hc => exact .inl ⟨hc, rfl⟩
  · next hc =>
    obtain ⟨hcancelled, harrives, hpass⟩ := pass_of_not_cancelled (eq_false_of_ne_true hc)
    rw [hpass]
    refine .inr ⟨hcancelled, harrives, ?_⟩
    split
    · next hd => exact .inr ⟨hd, rfl⟩
    · next d hd => exact .inl ⟨d, hd, rfl⟩

/-- A fetch that was waiting runs, has ended at once, or is withheld from a batch that
is cancelled. -/
theorem start_spec (source : DetailSource) (cancel : Cancellation) (st : Fetching)
    (before : List Slot) (s : Slot) (after : List Slot) :
    (start source cancel st before s after).queue = st.queue ∧
      (start source cancel st before s after).results = st.results ∧
      (st.cancelled = true → (start source cancel st before s after).cancelled = true) ∧
      ∃ p, (start source cancel st before s after).window =
          before ++ { s with progress := p } :: after ∧
        ((∃ due, p = .running due) ∨ p = .ended (answer source s.key) ∨
          (p = .ended (withheld s.position s.summary) ∧
            (start source cancel st before s after).cancelled = true)) := by
  rcases start_cases source cancel st before s after with
    ⟨hc, hstart⟩ | ⟨hc, _, ⟨d, _, hstart⟩ | ⟨_, hstart⟩⟩ <;> rw [hstart]
  · exact ⟨rfl, rfl, fun _ => hc, _, rfl, .inr (.inr ⟨rfl, hc⟩)⟩
  · exact ⟨rfl, rfl, id, _, rfl, .inl ⟨_, rfl⟩⟩
  · obtain ⟨hq, hr, hcancelled, hw⟩ := finish_spec source cancel
      { st with events := .fetchStarted s.summary.id :: st.events } before s after
    exact ⟨hq, hr, hcancelled, _, hw, .inr (.inl rfl)⟩

end Moves

/-! ## Progress -/

def Slot.remaining (s : Slot) : Nat :=
  match s.progress with
  | .waiting => 3
  | .running _ => 2
  | .ended _ => 1

/-- The steps that are still to be made. -/
def remaining (st : Fetching) : Nat :=
  4 * st.queue.length + (st.window.map Slot.remaining).sum

section Progress
variable {source : DetailSource} {cancel : Cancellation} {limit : Nat}

theorem Move.remaining_lt {st st' : Fetching} (h : Move source cancel limit st st') :
    remaining st' < remaining st := by
  cases h with
  | enter hqueue _ =>
    simp only [remaining, hqueue, List.length_cons, List.map_append, List.map_cons, List.map_nil,
      List.sum_append, List.sum_cons, List.sum_nil, Slot.remaining]
    omega
  | @handOver s r rest hwindow hended =>
    simp only [remaining, hwindow, List.map_cons, List.sum_cons, Slot.remaining, hended]
    omega
  | @finish before after s due time hwindow hrunning _ _ =>
    obtain ⟨hq, _, _, hw⟩ := finish_spec source cancel { st with clock := time } before s after
    unfold remaining
    rw [hq, hw, hwindow]
    simp only [List.map_append, List.map_cons, List.sum_append, List.sum_cons, Slot.remaining,
      hrunning]
    omega
  | @start before after s hwindow hwaiting _ =>
    obtain ⟨hq, _, _, p, hw, hp⟩ := start_spec source cancel st before s after
    have hlt : Slot.remaining { s with progress := p } < Slot.remaining s := by
      rcases hp with ⟨due, rfl⟩ | rfl | ⟨rfl, _⟩ <;> simp [Slot.remaining, hwaiting]
    unfold remaining
    rw [hq, hw, hwindow]
    simp only [List.map_append, List.map_cons, List.sum_append, List.sum_cons]
    omega

/-- With an allowance for all that remains to be done, fetching comes to its end. -/
theorem steps_drained (hlimit : 0 < limit) {k : Nat} {st : Fetching} (hk : remaining st ≤ k) :
    (steps source cancel limit k st).queue = [] ∧ (steps source cancel limit k st).window = [] := by
  induction k generalizing st with
  | zero =>
    unfold steps
    have hnone : step source cancel limit st = none := by
      rw [Option.eq_none_iff_forall_ne_some]
      intro st' hstep
      have := (step_move hstep).remaining_lt
      omega
    exact drained_of_step_eq_none hlimit hnone
  | succ k ih =>
    unfold steps
    split
    · next hstep => exact drained_of_step_eq_none hlimit hstep
    · next st' hstep =>
      apply ih
      have := (step_move hstep).remaining_lt
      omega

end Progress

/-! ## Order and origin of the results -/

/-- A result is what the source answered, or stands for a fetch that was withheld
because the batch was cancelled. -/
def Genuine (source : DetailSource) (cancelled : Bool) (r : Fetched) : Prop :=
  r = answer source r.key ∨ (r = withheld r.position r.summary ∧ cancelled = true)

theorem genuine_answer (source : DetailSource) (cancelled : Bool) (key : Nat × Summary) :
    Genuine source cancelled (answer source key) := by
  left
  rw [answer_key]

theorem Genuine.mono {source : DetailSource} {before after : Bool} {r : Fetched}
    (h : Genuine source before r) (hmono : before = true → after = true) :
    Genuine source after r := by
  rcases h with h | ⟨h, hc⟩
  · exact .inl h
  · exact .inr ⟨h, hmono hc⟩

/-- Results, window and queue hold the fetches in the given order, and every result is
genuine. -/
structure Orderly (source : DetailSource) (keys : List (Nat × Summary)) (st : Fetching) : Prop where
  order : st.results.reverse.map Fetched.key ++ st.window.map Slot.key ++ st.queue = keys
  results : ∀ r ∈ st.results, Genuine source st.cancelled r
  window : ∀ s ∈ st.window, ∀ r, s.progress = .ended r →
    r.key = s.key ∧ Genuine source st.cancelled r

section Order
variable {source : DetailSource} {cancel : Cancellation} {limit : Nat}
  {keys : List (Nat × Summary)}

theorem initial_orderly (source : DetailSource) (selection : List Summary) (cancelled : Bool) :
    Orderly source (positions selection) (initial selection cancelled) :=
  ⟨by simp [initial], by simp [initial], by simp [initial]⟩

/-- Changing how far one fetch has come keeps the order. What the slot holds has to be
genuine if the fetch has ended. -/
theorem Orderly.replace {st st' : Fetching} (h : Orderly source keys st)
    {before after : List Slot} {s : Slot} {p : Progress}
    (hwindow : st.window = before ++ s :: after)
    (hqueue : st'.queue = st.queue) (hresults : st'.results = st.results)
    (hcancelled : st.cancelled = true → st'.cancelled = true)
    (hwindow' : st'.window = before ++ { s with progress := p } :: after)
    (hp : ∀ r, p = .ended r → r.key = s.key ∧ Genuine source st'.cancelled r) :
    Orderly source keys st' := by
  constructor
  · rw [hqueue, hresults, hwindow', ← h.order, hwindow]
    simp [Slot.key]
  · intro r hr
    rw [hresults] at hr
    exact (h.results r hr).mono hcancelled
  · intro t ht r hr
    rw [hwindow'] at ht
    have old (ht : t ∈ st.window) : r.key = t.key ∧ Genuine source st'.cancelled r :=
      ⟨(h.window t ht r hr).1, (h.window t ht r hr).2.mono hcancelled⟩
    rcases List.mem_append.mp ht with ht | ht
    · exact old (by simp [hwindow, ht])
    · rcases List.mem_cons.mp ht with rfl | ht
      · exact hp r hr
      · exact old (by simp [hwindow, ht])

theorem Move.orderly {st st' : Fetching} (h : Orderly source keys st)
    (move : Move source cancel limit st st') : Orderly source keys st' := by
  cases move with
  | @enter position s queue hqueue _ =>
    refine ⟨?_, h.results, ?_⟩
    · rw [← h.order, hqueue]
      simp [Slot.key]
    · intro t ht r hr
      rcases List.mem_append.mp ht with ht | ht
      · exact h.window t ht r hr
      · simp only [List.mem_singleton] at ht
        subst ht
        simp at hr
  | @handOver s r rest hwindow hended =>
    obtain ⟨hkey, hgenuine⟩ := h.window s (by simp [hwindow]) r hended
    refine ⟨?_, ?_, ?_⟩
    · rw [← h.order, hwindow]
      simp [hkey]
    · intro t ht
      rcases List.mem_cons.mp ht with rfl | ht
      · exact hgenuine
      · exact h.results t ht
    · intro t ht
      exact h.window t (by simp [hwindow, ht])
  | @finish before after s due time hwindow _ _ _ =>
    obtain ⟨hq, hr, hc, hw⟩ := finish_spec source cancel { st with clock := time } before s after
    refine h.replace hwindow hq hr hc hw ?_
    intro r hr
    cases hr
    exact ⟨answer_key source s.key, genuine_answer source _ s.key⟩
  | @start before after s hwindow _ _ =>
    obtain ⟨hq, hr, hc, p, hw, hp⟩ := start_spec source cancel st before s after
    refine h.replace hwindow hq hr hc hw ?_
    intro r hr
    rcases hp with ⟨due, rfl⟩ | rfl | ⟨rfl, hcancelled⟩
    · simp at hr
    · cases hr
      exact ⟨answer_key source s.key, genuine_answer source _ s.key⟩
    · cases hr
      exact ⟨rfl, .inr ⟨rfl, hcancelled⟩⟩

theorem steps_orderly {k : Nat} {st : Fetching} (h : Orderly source keys st) :
    Orderly source keys (steps source cancel limit k st) :=
  steps_keep (fun move h => move.orderly h) h k

end Order

/-! ## Events -/

/-- The events that fetching leaves. -/
def ofFetching : BatchEvent → Bool
  | .fetchStarted _ => true
  | .fetchEnded _ _ => true
  | .cancellation => true
  | _ => false

section Events
variable {source : DetailSource} {cancel : Cancellation} {limit : Nat}

theorem pass_events (cancel : Cancellation) (m : Moment) :
    ∀ ev ∈ cancel.events m, ofFetching ev = true := by
  intro ev hev
  unfold Cancellation.events at hev
  split at hev
  · simp only [List.mem_singleton] at hev
    subst hev
    rfl
  · simp at hev

/-- A moment shows nothing of what the cancellation does not show. -/
theorem filterMap_cancel {β : Type} {g : BatchEvent → Option β} (h : g .cancellation = none)
    (cancel : Cancellation) (m : Moment) : (cancel.events m).filterMap g = [] := by
  unfold Cancellation.events
  split
  · exact List.filterMap_cons_none h
  · rfl

theorem finish_events {st : Fetching} (before : List Slot) (s : Slot) (after : List Slot)
    (h : ∀ ev ∈ st.events, ofFetching ev = true) :
    ∀ ev ∈ (finish source cancel st before s after).events, ofFetching ev = true := by
  intro ev hev
  simp only [finish, pass, List.mem_cons, List.mem_append] at hev
  rcases hev with rfl | hev | hev
  · rfl
  · exact pass_events cancel _ ev hev
  · exact h ev hev

theorem start_events {st : Fetching} (before : List Slot) (s : Slot) (after : List Slot)
    (h : ∀ ev ∈ st.events, ofFetching ev = true) :
    ∀ ev ∈ (start source cancel st before s after).events, ofFetching ev = true := by
  have passed : ∀ ev ∈ (st.pass cancel (.start s.position)).events, ofFetching ev = true := by
    intro ev hev
    rcases List.mem_append.mp hev with hev | hev
    · exact pass_events cancel _ ev hev
    · exact h ev hev
  have started : ∀ ev ∈ BatchEvent.fetchStarted s.summary.id ::
      (st.pass cancel (.start s.position)).events, ofFetching ev = true := by
    intro ev hev
    rcases List.mem_cons.mp hev with rfl | hev
    · rfl
    · exact passed ev hev
  unfold start
  simp only
  split
  · exact passed
  · split
    · exact finish_events before s after started
    · exact started

theorem Move.events {st st' : Fetching} (move : Move source cancel limit st st')
    (h : ∀ ev ∈ st.events, ofFetching ev = true) :
    ∀ ev ∈ st'.events, ofFetching ev = true := by
  cases move with
  | enter => exact h
  | handOver => exact h
  | finish => exact finish_events _ _ _ h
  | start => exact start_events _ _ _ h

theorem steps_events {k : Nat} {st : Fetching} (h : ∀ ev ∈ st.events, ofFetching ev = true) :
    ∀ ev ∈ (steps source cancel limit k st).events, ofFetching ev = true :=
  steps_keep (P := fun st => ∀ ev ∈ st.events, ofFetching ev = true) (fun move h => move.events h)
    h k

end Events

/-! ## Whole runs -/

section Runs
variable (source : DetailSource) (cancel : Cancellation) (concurrency : Nat)
  (selection : List Summary) (cancelled : Bool)

/-- Fetching hands over every fetch, whatever the durations and the concurrency. -/
theorem run_drained :
    (run source cancel concurrency selection cancelled).queue = [] ∧
      (run source cancel concurrency selection cancelled).window = [] := by
  unfold run
  cases selection with
  | nil => exact ⟨rfl, rfl⟩
  | cons s rest =>
    apply steps_drained
    · unfold limitOf
      split
      · simp
      · omega
    · simp [remaining, initial]

theorem run_orderly :
    Orderly source (positions selection) (run source cancel concurrency selection cancelled) :=
  steps_orderly (initial_orderly source selection cancelled)

/-- Results come out in selection order, one for each interface. -/
theorem run_keys :
    (run source cancel concurrency selection cancelled).results.reverse.map Fetched.key =
      positions selection := by
  have horder := (run_orderly source cancel concurrency selection cancelled).order
  obtain ⟨hqueue, hwindow⟩ := run_drained source cancel concurrency selection cancelled
  simpa [hqueue, hwindow] using horder

theorem length_results :
    (run source cancel concurrency selection cancelled).results.length = selection.length := by
  have hkeys := congrArg List.length (run_keys source cancel concurrency selection cancelled)
  simpa using hkeys

/-- A batch that selects something has a first result. -/
theorem results_ne_nil (h : selection ≠ []) :
    (run source cancel concurrency selection cancelled).results.reverse ≠ [] := by
  intro hnil
  have hlength := length_results source cancel concurrency selection cancelled
  rw [List.reverse_eq_nil_iff.mp hnil] at hlength
  exact h (List.eq_nil_of_length_eq_zero hlength.symm)

/-- Unless the batch is cancelled while it fetches, the results are the answers of the
source. -/
theorem run_answers (h : (run source cancel concurrency selection cancelled).cancelled = false) :
    (run source cancel concurrency selection cancelled).results.reverse =
      answers source selection := by
  have same : ∀ r ∈ (run source cancel concurrency selection cancelled).results.reverse,
      answer source r.key = r := by
    intro r hr
    rcases (run_orderly source cancel concurrency selection cancelled).results r
      (List.mem_reverse.mp hr) with hanswer | ⟨_, hc⟩
    · exact hanswer.symm
    · rw [h] at hc
      cases hc
  rw [answers, ← run_keys source cancel concurrency selection cancelled, List.map_map]
  exact ((List.map_congr_left same).trans (List.map_id' _)).symm

theorem run_events : ∀ ev ∈ (run source cancel concurrency selection cancelled).events,
    ofFetching ev = true :=
  steps_events (by simp [initial])

end Runs

end Fetching

end ApiTypings.Batch
