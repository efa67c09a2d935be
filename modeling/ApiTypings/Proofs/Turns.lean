import ApiTypings.Batch.Run
import ApiTypings.Proofs.Fetching
import ApiTypings.Store.Memory

/-!
# The turns of a batch

When fetching is over, each interface has its turn. A turn ends in one of three
ways: the module is written, its write fails, or its name is refused. What a turn
adds to the result, to the names taken, to the store and to the events depends on
its end alone.

A batch that has a result consists of turns for the first interfaces of the
selection; if the batch was cancelled, the rest is reported as cancelled. All that
is said about batches elsewhere starts from this.
-/

namespace ApiTypings

/-- The detail that an event generates a module from. -/
def BatchEvent.generated? : BatchEvent → Option Detail
  | .generated detail => some detail
  | _ => none

/-- The path and the text that an event tries to write. -/
def BatchEvent.attempt? : BatchEvent → Option (String × String)
  | .writeEnded _ path text _ => some (path, text)
  | _ => none

namespace Batch

/-- How the turn of an interface ends. -/
inductive Fate where
  | written (file : String)
  | failed (file : String) (error : StoreError)
  /-- The name was taken by the interface that is named. -/
  | refused (file : String) (earlier : Nat)

structure Turn where
  fetched : Fetched
  fate : Fate

namespace Turn

def generated (t : Turn) : Module := Module.ofDetail t.fetched.detail

/-- The name under which a write is tried. -/
def file? (t : Turn) : Option String :=
  match t.fate with
  | .written file => some file
  | .failed file _ => some file
  | .refused _ _ => none

def error? (t : Turn) : Option StoreError :=
  match t.fate with
  | .failed _ error => some error
  | _ => none

def output? (t : Turn) : Option Module :=
  match t.fate with
  | .written _ => some t.generated
  | _ => none

def path? (destination : String) (t : Turn) : Option String :=
  match t.fate with
  | .written file => some (Path.join destination file)
  | _ => none

def failure? (t : Turn) : Option Failure :=
  match t.fate with
  | .written _ => none
  | .failed _ error => some ⟨t.fetched.detail.id, .write error⟩
  | .refused file earlier => some ⟨t.generated.id, .rejected file earlier⟩

def degradation? (t : Turn) : Option Failure :=
  t.fetched.reason.map fun reason => ⟨t.fetched.detail.id, reason⟩

def attempt? (destination : String) (t : Turn) : Option (String × String) :=
  t.file?.map fun file => (Path.join destination file, t.generated.emit)

/-- The event with which the write of a turn ends, if one is tried. -/
def ending? (destination : String) (t : Turn) : Option BatchEvent :=
  t.file?.map fun file =>
    .writeEnded t.fetched.detail.id (Path.join destination file) t.generated.emit t.error?

theorem ending?_attempt (destination : String) (t : Turn) :
    (t.ending? destination).bind BatchEvent.attempt? = t.attempt? destination := by
  unfold ending? attempt?
  cases t.file? <;> rfl

def addTo (destination : String) (t : Turn) (r : BatchResult) : BatchResult where
  succeeded := r.succeeded + t.output?.toList.length
  failures := r.failures ++ t.failure?.toList
  degraded := r.degraded ++ t.degradation?.toList
  outputs := r.outputs ++ t.output?.toList
  files := r.files ++ (t.path? destination).toList

theorem length_paths (destination : String) (ts : List Turn) :
    (ts.filterMap (path? destination)).length = (ts.filterMap output?).length := by
  induction ts with
  | nil => rfl
  | cons t ts ih =>
    simp only [List.filterMap_cons, path?, output?]
    cases t.fate with
    | written file => simp only [List.length_cons, ih]
    | failed file error => exact ih
    | refused file earlier => exact ih

def Effect {σ : Type} (s : Store σ) (destination : String) (before : σ) (t : Turn) (after : σ) :
    Prop :=
  match t.fate with
  | .written file =>
    s.write before (Path.join destination file) t.generated.emit = (after, none)
  | .failed file error =>
    s.write before (Path.join destination file) t.generated.emit = (after, some error)
  | .refused _ _ => after = before

def takenAfter (taken : Taken) (t : Turn) : Taken :=
  match t.fate with
  | .written file => Assoc.put file t.generated.id taken
  | _ => taken

end Turn

variable {σ : Type}

def writeFate (e : Setting σ) (w : Writing σ) (m : Module) (file : String) : Fate :=
  match (e.store.write w.store (Path.join e.destination file) m.emit).2 with
  | none => .written file
  | some error => .failed file error

/-- How the turn of a detail ends. -/
def fateOf (e : Setting σ) (w : Writing σ) (f : Fetched) : Fate :=
  let m := Module.ofDetail f.detail
  match choose e.options.collision w.taken m with
  | .rejected file earlier => .refused file earlier
  | .plain file => writeFate e w m file
  | .overwriting file _ => writeFate e w m file
  | .qualified file => writeFate e w m file

def turnOf (e : Setting σ) (w : Writing σ) (f : Fetched) : Turn := ⟨f, fateOf e w f⟩

@[simp] theorem turnOf_fetched (e : Setting σ) (w : Writing σ) (f : Fetched) :
    (turnOf e w f).fetched = f := rfl

/-! ## What one turn does -/

/-- The state of writing when the module of a detail has been generated. -/
def announced (e : Setting σ) (w : Writing σ) (f : Fetched) : Writing σ :=
  let m := Module.ofDetail f.detail
  { w.note f with events := (w.note f).events ++
    BatchEvent.generated f.detail :: (choose e.options.collision w.taken m).events m.id }

theorem announced_result (e : Setting σ) (w : Writing σ) (f : Fetched) (fate : Fate) :
    (announced e w f).result =
      { w.result with degraded := w.result.degraded ++ (Turn.degradation? ⟨f, fate⟩).toList } := by
  unfold announced Writing.note Turn.degradation?
  cases f.reason with
  | none => simp
  | some reason => simp [BatchResult.degrade]

theorem announced_rest (e : Setting σ) (w : Writing σ) (f : Fetched) :
    (announced e w f).taken = w.taken ∧ (announced e w f).store = w.store ∧
      (announced e w f).cancelled = w.cancelled ∧
      (announced e w f).events = w.events ++ BatchEvent.generated f.detail ::
        (choose e.options.collision w.taken (Module.ofDetail f.detail)).events
          (Module.ofDetail f.detail).id := by
  unfold announced Writing.note
  cases f.reason with
  | none => exact ⟨rfl, rfl, rfl, rfl⟩
  | some reason => exact ⟨rfl, rfl, rfl, rfl⟩

theorem process_eq (e : Setting σ) (w : Writing σ) (f : Fetched) :
    w.process e f =
      match choose e.options.collision w.taken (Module.ofDetail f.detail) with
      | .rejected file earlier =>
        { announced e w f with
          result := (announced e w f).result.fail
            ⟨(Module.ofDetail f.detail).id, .rejected file earlier⟩ }
      | .plain file => (announced e w f).write e f (Module.ofDetail f.detail) file
      | .overwriting file _ => (announced e w f).write e f (Module.ofDetail f.detail) file
      | .qualified file => (announced e w f).write e f (Module.ofDetail f.detail) file := rfl

/-- A turn is refused without a write, or tries to write to the chosen name. -/
theorem process_cases (e : Setting σ) (w : Writing σ) (f : Fetched) :
    (∃ file earlier,
      choose e.options.collision w.taken (Module.ofDetail f.detail) = .rejected file earlier ∧
      fateOf e w f = .refused file earlier ∧
      w.process e f = { announced e w f with
        result := (announced e w f).result.fail
          ⟨(Module.ofDetail f.detail).id, .rejected file earlier⟩ }) ∨
    ∃ file,
      (choose e.options.collision w.taken (Module.ofDetail f.detail)).file? = some file ∧
      fateOf e w f = writeFate e w (Module.ofDetail f.detail) file ∧
      w.process e f = (announced e w f).write e f (Module.ofDetail f.detail) file := by
  rw [process_eq]
  unfold fateOf
  simp only
  cases choose e.options.collision w.taken (Module.ofDetail f.detail) with
  | rejected file earlier => exact .inl ⟨file, earlier, rfl, rfl, rfl⟩
  | plain file => exact .inr ⟨file, rfl, rfl, rfl⟩
  | overwriting file earlier => exact .inr ⟨file, rfl, rfl, rfl⟩
  | qualified file => exact .inr ⟨file, rfl, rfl, rfl⟩

/-- A write ends without an error, and the name is taken; or with one, and it is not. -/
theorem writeFate_cases (e : Setting σ) (w : Writing σ) (m : Module) (file : String) :
    (∃ store, e.store.write w.store (Path.join e.destination file) m.emit = (store, none) ∧
      writeFate e w m file = .written file) ∨
    ∃ store error,
      e.store.write w.store (Path.join e.destination file) m.emit = (store, some error) ∧
      writeFate e w m file = .failed file error := by
  unfold writeFate
  cases h : e.store.write w.store (Path.join e.destination file) m.emit with
  | mk store error =>
    cases error with
    | none => exact .inl ⟨store, rfl, rfl⟩
    | some error => exact .inr ⟨store, error, rfl, rfl⟩

/-- A turn tries the name that was chosen, if any. -/
theorem turnOf_file? (e : Setting σ) (w : Writing σ) (f : Fetched) :
    (turnOf e w f).file? =
      (choose e.options.collision w.taken (Module.ofDetail f.detail)).file? := by
  rcases process_cases e w f with ⟨file, earlier, hchoice, hfate, _⟩ | ⟨file, hchoice, hfate, _⟩
  · simp only [turnOf, Turn.file?, hfate, hchoice, Choice.file?]
  · rcases writeFate_cases e w (Module.ofDetail f.detail) file with
      ⟨_, _, hend⟩ | ⟨_, _, _, hend⟩ <;>
      simp only [turnOf, Turn.file?, hfate, hend, hchoice]

def attemptEvents (e : Setting σ) (f : Fetched) (file : String) (error : Option StoreError) :
    List BatchEvent :=
  .writeStarted (Path.join e.destination file) :: e.cancel.events (.write f.position file) ++
    [.writeEnded f.detail.id (Path.join e.destination file) (Module.ofDetail f.detail).emit error]

theorem write_of_none {e : Setting σ} {w : Writing σ} {f : Fetched} {file : String} {store : σ}
    (h : e.store.write w.store (Path.join e.destination file) (Module.ofDetail f.detail).emit =
      (store, none)) :
    w.write e f (Module.ofDetail f.detail) file =
      ⟨w.result.succeed (Module.ofDetail f.detail) (Path.join e.destination file),
        Assoc.put file (Module.ofDetail f.detail).id w.taken, store,
        w.events ++ attemptEvents e f file none,
        w.cancelled || e.cancel.arrives (.write f.position file)⟩ := by
  simp [Writing.write, Writing.pass, h, attemptEvents]

theorem write_of_some {e : Setting σ} {w : Writing σ} {f : Fetched} {file : String} {store : σ}
    {error : StoreError}
    (h : e.store.write w.store (Path.join e.destination file) (Module.ofDetail f.detail).emit =
      (store, some error)) :
    w.write e f (Module.ofDetail f.detail) file =
      ⟨w.result.fail ⟨f.detail.id, .write error⟩, w.taken, store,
        w.events ++ attemptEvents e f file (some error),
        w.cancelled || e.cancel.arrives (.write f.position file)⟩ := by
  simp [Writing.write, Writing.pass, h, attemptEvents]

/-- The events of a turn: the module is generated, its name may be remarked on, and its
write may be tried. -/
def turnEvents (e : Setting σ) (w : Writing σ) (f : Fetched) : List BatchEvent :=
  let m := Module.ofDetail f.detail
  BatchEvent.generated f.detail :: (choose e.options.collision w.taken m).events m.id ++
    match (turnOf e w f).file? with
    | none => []
    | some file => attemptEvents e f file (turnOf e w f).error?

/-- All that a turn does: its end decides what is added to the result, which names are
taken, and what happens to the store. -/
theorem process_spec (e : Setting σ) (w : Writing σ) (f : Fetched) :
    (w.process e f).result = (turnOf e w f).addTo e.destination w.result ∧
      (w.process e f).taken = (turnOf e w f).takenAfter w.taken ∧
      (turnOf e w f).Effect e.store e.destination w.store (w.process e f).store ∧
      (w.process e f).cancelled =
        (w.cancelled || (turnOf e w f).file?.any fun file =>
          e.cancel.arrives (.write f.position file)) ∧
      (w.process e f).events = w.events ++ turnEvents e w f := by
  obtain ⟨htaken, hstore, hcancelled, hevents⟩ := announced_rest e w f
  rcases process_cases e w f with ⟨file, earlier, hchoice, hfate, hprocess⟩ |
    ⟨file, hchoice, hfate, hprocess⟩
  · have hturn : turnOf e w f = ⟨f, .refused file earlier⟩ := by rw [turnOf, hfate]
    rw [hprocess, turnEvents, hturn, announced_result e w f (.refused file earlier)]
    refine ⟨?_, htaken, hstore, ?_, ?_⟩
    · simp [BatchResult.fail, Turn.addTo, Turn.output?, Turn.path?, Turn.failure?,
        Turn.degradation?, Turn.generated]
    · simp [hcancelled, Turn.file?]
    · simp [hevents, Turn.file?]
  · rcases writeFate_cases e w (Module.ofDetail f.detail) file with
      ⟨store, hwrite, hend⟩ | ⟨store, error, hwrite, hend⟩
    · have hturn : turnOf e w f = ⟨f, .written file⟩ := by rw [turnOf, hfate, hend]
      have hdone := hwrite
      rw [← hstore] at hdone
      rw [hprocess, write_of_none hdone, turnEvents, hturn, htaken, hcancelled, hevents,
        announced_result e w f (.written file)]
      refine ⟨?_, rfl, hwrite, rfl, ?_⟩
      · simp [BatchResult.succeed, Turn.addTo, Turn.output?, Turn.path?, Turn.failure?,
          Turn.degradation?, Turn.generated]
      · simp [Turn.file?, Turn.error?]
    · have hturn : turnOf e w f = ⟨f, .failed file error⟩ := by rw [turnOf, hfate, hend]
      have hdone := hwrite
      rw [← hstore] at hdone
      rw [hprocess, write_of_some hdone, turnEvents, hturn, htaken, hcancelled, hevents,
        announced_result e w f (.failed file error)]
      refine ⟨?_, rfl, hwrite, rfl, ?_⟩
      · simp [BatchResult.fail, Turn.addTo, Turn.output?, Turn.path?, Turn.failure?,
          Turn.degradation?]
      · simp [Turn.file?, Turn.error?]

@[simp] theorem choice_generated (c : Choice) (id : Nat) :
    (c.events id).filterMap BatchEvent.generated? = [] := by cases c <;> rfl

@[simp] theorem cancel_generated (c : Cancellation) (m : Moment) :
    (c.events m).filterMap BatchEvent.generated? = [] := Fetching.filterMap_cancel rfl c m

@[simp] theorem cancel_attempt (c : Cancellation) (m : Moment) :
    (c.events m).filterMap BatchEvent.attempt? = [] := Fetching.filterMap_cancel rfl c m

@[simp] theorem attemptEvents_generated (e : Setting σ) (f : Fetched) (file : String)
    (error : Option StoreError) :
    (attemptEvents e f file error).filterMap BatchEvent.generated? = [] := by
  rw [attemptEvents, List.cons_append, List.filterMap_cons_none rfl, List.filterMap_append,
    cancel_generated]
  rfl

theorem turnEvents_generated (e : Setting σ) (w : Writing σ) (f : Fetched) :
    (turnEvents e w f).filterMap BatchEvent.generated? = [f.detail] := by
  have hself : (BatchEvent.generated f.detail).generated? = some f.detail := rfl
  rw [turnEvents, List.filterMap_append, List.filterMap_cons_some hself, choice_generated]
  cases (turnOf e w f).file? with
  | none => rfl
  | some file => rw [attemptEvents_generated, List.append_nil]

/-- What tells about the ends of writes alone tells about a turn how its write ended. -/
theorem turnEvents_ending {β : Type} {g : BatchEvent → Option β}
    (hg : ∀ ev, ev.attempt? = none → g ev = none) (e : Setting σ) (w : Writing σ) (f : Fetched) :
    (turnEvents e w f).filterMap g = (((turnOf e w f).ending? e.destination).bind g).toList := by
  have hchoice (c : Choice) (id : Nat) : (c.events id).filterMap g = [] := by
    rw [List.filterMap_eq_nil_iff]
    intro ev hev
    apply hg
    cases c <;> simp_all [Choice.events, BatchEvent.attempt?]
  have hcancel := Fetching.filterMap_cancel (hg .cancellation rfl) e.cancel
  rw [turnEvents, List.filterMap_append, List.filterMap_cons_none (hg _ rfl), hchoice, Turn.ending?]
  cases (turnOf e w f).file? with
  | none => rfl
  | some file =>
    simp only [attemptEvents, List.cons_append, List.filterMap_append, hcancel,
      List.filterMap_cons_none (hg (.writeStarted _) rfl)]
    rfl

/-! ## Turns one after the other -/

/-- Turns that take writing from one state to another, none of them cancelled. -/
inductive Course (e : Setting σ) : Writing σ → List Turn → Writing σ → Prop
  | done (w : Writing σ) : Course e w [] w
  | turn {w w' : Writing σ} {f : Fetched} {ts : List Turn} :
      w.cancelled = false → e.cancel.arrives (.turn f.position) = false →
      Course e (w.process e f) ts w' → Course e w (turnOf e w f :: ts) w'

theorem pass_eq_self {e : Setting σ} {m : Moment} (w : Writing σ)
    (h : e.cancel.arrives m = false) : w.pass e m = w := by
  simp [Writing.pass, Cancellation.events, h]

/-- Writing goes through all turns, or is cancelled before one of them. It then has a
result if some module was written. -/
theorem all_cases (e : Setting σ) (w : Writing σ) (fs : List Fetched) :
    ∃ ts w', Course e w ts w' ∧
      ((fs = ts.map Turn.fetched ∧ Writing.all e w fs = .ok w') ∨
        ∃ f rest, fs = ts.map Turn.fetched ++ f :: rest ∧
          (w'.pass e (.turn f.position)).cancelled = true ∧
          ((w'.result.succeeded = 0 ∧
              Writing.all e w fs = .error (w'.pass e (.turn f.position))) ∨
            (w'.result.succeeded ≠ 0 ∧
              Writing.all e w fs = .ok ((w'.pass e (.turn f.position)).stop (f :: rest))))) := by
  induction fs generalizing w with
  | nil => exact ⟨[], w, .done w, .inl ⟨rfl, rfl⟩⟩
  | cons f rest ih =>
    simp only [Writing.all]
    cases hc : (w.pass e (.turn f.position)).cancelled with
    | true =>
      refine ⟨[], w, .done w, .inr ⟨f, rest, rfl, hc, ?_⟩⟩
      have hresult : (w.pass e (.turn f.position)).result = w.result := rfl
      rw [hresult]
      by_cases hs : w.result.succeeded = 0 <;> simp [hs]
    | false =>
      have hboth : w.cancelled = false ∧ e.cancel.arrives (.turn f.position) = false := by
        simpa [Writing.pass] using hc
      rw [pass_eq_self w hboth.2]
      simp only [Bool.false_eq_true, if_false]
      obtain ⟨ts, w', hcourse, hend⟩ := ih (w.process e f)
      refine ⟨turnOf e w f :: ts, w', .turn hboth.1 hboth.2 hcourse, ?_⟩
      rcases hend with ⟨hfs, hall⟩ | ⟨g, later, hfs, hcancelled, hall⟩
      · exact .inl ⟨by simp [hfs], hall⟩
      · exact .inr ⟨g, later, by simp [hfs], hcancelled, hall⟩

theorem Course.result {e : Setting σ} {w w' : Writing σ} {ts : List Turn}
    (h : Course e w ts w') :
    w'.result =
      { succeeded := w.result.succeeded + (ts.filterMap Turn.output?).length
        failures := w.result.failures ++ ts.filterMap Turn.failure?
        degraded := w.result.degraded ++ ts.filterMap Turn.degradation?
        outputs := w.result.outputs ++ ts.filterMap Turn.output?
        files := w.result.files ++ ts.filterMap (Turn.path? e.destination) } := by
  induction h with
  | done w => simp
  | @turn w w' f ts _ _ _ ih =>
    have hadd (g : Turn → Option Failure) :
        (g (turnOf e w f)).toList ++ ts.filterMap g = (turnOf e w f :: ts).filterMap g := by
      simp only [List.filterMap_cons]
      cases g (turnOf e w f) <;> rfl
    rw [ih, (process_spec e w f).1]
    simp only [Turn.addTo, BatchResult.mk.injEq, List.append_assoc, hadd, true_and]
    refine ⟨?_, ?_, ?_⟩
    · simp only [List.filterMap_cons]
      cases (turnOf e w f).output? with
      | none => simp
      | some m => simp; omega
    · simp only [List.filterMap_cons]
      cases (turnOf e w f).output? <;> rfl
    · simp only [List.filterMap_cons]
      cases (turnOf e w f).path? e.destination <;> rfl

/-- What the events of turns show one by one is what all of them show. -/
theorem Course.filterMap_events {β : Type} {g : BatchEvent → Option β} {t : Turn → Option β}
    {e : Setting σ} {w w' : Writing σ} {ts : List Turn} (h : Course e w ts w')
    (hturn : ∀ w f, (turnEvents e w f).filterMap g = (t (turnOf e w f)).toList) :
    w'.events.filterMap g = w.events.filterMap g ++ ts.filterMap t := by
  induction h with
  | done w => simp
  | @turn w w' f ts _ _ _ ih =>
    rw [ih, (process_spec e w f).2.2.2.2, List.filterMap_append, hturn, List.filterMap_cons]
    cases t (turnOf e w f) <;> simp

theorem Course.generated {e : Setting σ} {w w' : Writing σ} {ts : List Turn}
    (h : Course e w ts w') :
    w'.events.filterMap BatchEvent.generated? =
      w.events.filterMap BatchEvent.generated? ++ ts.map (·.fetched.detail) := by
  rw [← List.filterMap_eq_map]
  exact h.filterMap_events (turnEvents_generated e)

theorem Course.endings {β : Type} {g : BatchEvent → Option β}
    (hg : ∀ ev, ev.attempt? = none → g ev = none) {e : Setting σ} {w w' : Writing σ}
    {ts : List Turn} (h : Course e w ts w') :
    w'.events.filterMap g =
      w.events.filterMap g ++ ts.filterMap fun t => (t.ending? e.destination).bind g :=
  h.filterMap_events (turnEvents_ending hg e)

theorem Course.attempts {e : Setting σ} {w w' : Writing σ} {ts : List Turn}
    (h : Course e w ts w') :
    w'.events.filterMap BatchEvent.attempt? =
      w.events.filterMap BatchEvent.attempt? ++ ts.filterMap (Turn.attempt? e.destination) := by
  simp only [h.endings fun _ => id, Turn.ending?_attempt]

theorem Course.eq_nil {e : Setting σ} {w w' : Writing σ} {ts : List Turn}
    (h : Course e w ts w') (hc : w.cancelled = true) : ts = [] := by
  cases h with
  | done => rfl
  | turn hnot =>
    rw [hc] at hnot
    cases hnot

/-! ## Batches with a result -/

def openingEvents (e : Setting σ) (selection : List Summary) : List BatchEvent :=
  [.directory e.destination] ++ e.cancel.events .directory ++
    [.announced selection.length e.destination] ++
    (Fetching.run e.source e.cancel e.options.concurrency selection
      (e.cancel.arrives .directory)).events.reverse

def openingState (e : Setting σ) (selection : List Summary) (opened : σ) : Writing σ :=
  ⟨.empty, [], opened, openingEvents e selection,
    (Fetching.run e.source e.cancel e.options.concurrency selection
      (e.cancel.arrives .directory)).cancelled⟩

theorem generate_eq (e : Setting σ) (selection : List Summary) (opened : σ) :
    generate e selection opened =
      conclude (Writing.all e (openingState e selection opened)
        (Fetching.run e.source e.cancel e.options.concurrency selection
          (e.cancel.arrives .directory)).results.reverse) := rfl

theorem ofFetching_silent {ev : BatchEvent} (h : Fetching.ofFetching ev = true) :
    ev.generated? = none ∧ ev.attempt? = none := by
  cases ev <;> simp_all [Fetching.ofFetching, BatchEvent.generated?, BatchEvent.attempt?]

/-- Before the first turn a batch asks for its destination, announces itself and fetches. -/
theorem opening_forall {P : BatchEvent → Prop} (e : Setting σ) (selection : List Summary)
    (directory : P (.directory e.destination))
    (announced : P (.announced selection.length e.destination))
    (fetching : ∀ ev, Fetching.ofFetching ev = true → P ev) :
    ∀ ev ∈ openingEvents e selection, P ev := by
  intro ev hev
  simp only [openingEvents, List.mem_append, List.mem_singleton, List.mem_reverse] at hev
  rcases hev with ((rfl | hev) | rfl) | hev
  · exact directory
  · exact fetching ev (Fetching.pass_events e.cancel _ ev hev)
  · exact announced
  · exact fetching ev (Fetching.run_events _ _ _ _ _ ev hev)

/-- Before the first turn nothing is generated and no write is tried. -/
theorem opening_silent (e : Setting σ) (selection : List Summary) :
    ∀ ev ∈ openingEvents e selection, ev.generated? = none ∧ ev.attempt? = none :=
  opening_forall e selection ⟨rfl, rfl⟩ ⟨rfl, rfl⟩ fun _ => ofFetching_silent

@[simp] theorem opening_generated (e : Setting σ) (selection : List Summary) :
    (openingEvents e selection).filterMap BatchEvent.generated? = [] :=
  List.filterMap_eq_nil_iff.mpr fun ev hev => (opening_silent e selection ev hev).1

@[simp] theorem opening_attempts (e : Setting σ) (selection : List Summary) :
    (openingEvents e selection).filterMap BatchEvent.attempt? = [] :=
  List.filterMap_eq_nil_iff.mpr fun ev hev => (opening_silent e selection ev hev).2

/-- What is reported of the interfaces that a cancellation leaves over. -/
def leftOver (rest : List Summary) : List Failure := rest.map fun s => ⟨s.id, .cancelled⟩

/-- The turns that led to a result: they belong to the first interfaces of the
selection, and all that the result and the events hold comes from them, the
interfaces that a cancellation left over aside. -/
structure Completed (e : Setting σ) (selection : List Summary) (store : σ) (r : BatchResult)
    (ts : List Turn) : Prop where
  bound : ts.length ≤ selection.length
  fetched : ts.map Turn.fetched = (Fetching.answers e.source selection).take ts.length
  course : ∃ opened w, e.store.ensureDirectory store e.destination = (opened, none) ∧
    Course e (openingState e selection opened) ts w ∧ (run e selection store).store = w.store
  succeeded : r.succeeded = (ts.filterMap Turn.output?).length
  outputs : r.outputs = ts.filterMap Turn.output?
  files : r.files = ts.filterMap (Turn.path? e.destination)
  failures : r.failures = ts.filterMap Turn.failure? ++ leftOver (selection.drop ts.length)
  degraded : r.degraded = ts.filterMap Turn.degradation?
  generated : (run e selection store).events.filterMap BatchEvent.generated? =
    ts.map (·.fetched.detail)
  attempts : (run e selection store).events.filterMap BatchEvent.attempt? =
    ts.filterMap (Turn.attempt? e.destination)
  written : ts.length < selection.length → 0 < r.succeeded

/-- Why a batch ends before it does anything. -/
def refusal (e : Setting σ) (selection : List Summary) : Option BatchError :=
  if selection.isEmpty then some .emptySelection
  else if e.destination.isEmpty then some .noDestination
  else if e.cancel.atStart then some .cancelled
  else none

theorem run_of_refusal {e : Setting σ} {selection : List Summary} {error : BatchError}
    (h : refusal e selection = some error) (store : σ) :
    run e selection store = ⟨.error error, [], store, e.cancel.atStart⟩ := by
  unfold refusal at h
  unfold run
  split at h
  · cases h
    simp_all
  · split at h
    · cases h
      simp_all
    · split at h
      · cases h
        simp_all
      · cases h

/-- A batch that is not refused makes its destination, and ends there if it cannot. -/
theorem run_of_admitted {e : Setting σ} {selection : List Summary}
    (h : refusal e selection = none) (store : σ) :
    selection ≠ [] ∧
      ((∃ opened error, e.store.ensureDirectory store e.destination = (opened, some error) ∧
        run e selection store =
          ⟨.error (.createDirectory error), .directory e.destination :: e.cancel.events .directory,
            opened, e.cancel.arrives .directory⟩) ∨
      ∃ opened, e.store.ensureDirectory store e.destination = (opened, none) ∧
        run e selection store = generate e selection opened) := by
  unfold refusal at h
  unfold run
  split at h
  · cases h
  · next hselection =>
    split at h
    · cases h
    · next hdestination =>
      split at h
      · cases h
      · next hstart =>
        rw [if_neg hselection, if_neg hdestination, if_neg hstart]
        refine ⟨fun hnil => hselection (by rw [hnil]; rfl), ?_⟩
        cases e.store.ensureDirectory store e.destination with
        | mk opened error =>
          cases error with
          | none => exact .inr ⟨opened, rfl, rfl⟩
          | some error => exact .inl ⟨opened, error, rfl, rfl⟩

theorem run_of_opened {e : Setting σ} {selection : List Summary} {store opened : σ}
    (h : refusal e selection = none)
    (hopened : e.store.ensureDirectory store e.destination = (opened, none)) :
    run e selection store = generate e selection opened := by
  obtain ⟨_, ⟨other, error, hother, _⟩ | ⟨other, hother, hrun⟩⟩ := run_of_admitted h store <;>
    rw [hopened] at hother <;> cases hother
  exact hrun

theorem run_of_unopened {e : Setting σ} {selection : List Summary} {store opened : σ}
    {error : StoreError} (h : refusal e selection = none)
    (hopened : e.store.ensureDirectory store e.destination = (opened, some error)) :
    run e selection store =
      ⟨.error (.createDirectory error), .directory e.destination :: e.cancel.events .directory,
        opened, e.cancel.arrives .directory⟩ := by
  obtain ⟨_, ⟨other, error, hother, hrun⟩ | ⟨other, hother, _⟩⟩ := run_of_admitted h store <;>
    rw [hopened] at hother <;> cases hother
  exact hrun

/-- A batch that was cancelled before is refused. -/
theorem exists_refusal {e : Setting σ} (h : e.cancel.atStart = true) (selection : List Summary) :
    ∃ error, refusal e selection = some error := by
  simp only [refusal, h, if_true]
  split
  · exact ⟨_, rfl⟩
  · split <;> exact ⟨_, rfl⟩

/-- A batch with a selection and a destination that was not cancelled before is not
refused. -/
theorem refusal_eq_none {e : Setting σ} {selection : List Summary} (hselection : selection ≠ [])
    (hdestination : e.destination ≠ "") (hstart : e.cancel.atStart = false) :
    refusal e selection = none := by
  have hempty : ¬ e.destination.isEmpty = true := fun h =>
    hdestination (String.isEmpty_iff.mp h)
  rw [refusal, if_neg (by simp [hselection]), if_neg hempty, hstart]
  rfl

/-- A batch that is not refused and can make its destination goes on to fetch and write. -/
theorem run_eq_generate {e : Setting σ} {selection : List Summary} {store : σ}
    (hselection : selection ≠ []) (hdestination : e.destination ≠ "")
    (hstart : e.cancel.atStart = false)
    (hensured : (e.store.ensureDirectory store e.destination).2 = none) :
    run e selection store =
      generate e selection (e.store.ensureDirectory store e.destination).1 :=
  run_of_opened (refusal_eq_none hselection hdestination hstart) (Prod.ext rfl hensured)

theorem refusal_eq_cancelled {e : Setting σ} {selection : List Summary}
    (hselection : selection ≠ []) (hdestination : e.destination ≠ "")
    (hstart : e.cancel.atStart = true) : refusal e selection = some .cancelled := by
  have hempty : ¬ e.destination.isEmpty = true := fun h =>
    hdestination (String.isEmpty_iff.mp h)
  rw [refusal, if_neg (by simp [hselection]), if_neg hempty, if_pos hstart]

theorem run_ok {e : Setting σ} {selection : List Summary} {store : σ} {r : BatchResult}
    (h : (run e selection store).outcome = .ok r) :
    selection ≠ [] ∧ ∃ opened, e.store.ensureDirectory store e.destination = (opened, none) ∧
      run e selection store = generate e selection opened := by
  cases hrefusal : refusal e selection with
  | some error =>
    rw [run_of_refusal hrefusal] at h
    cases h
  | none =>
    obtain ⟨hselection, ⟨opened, error, _, hrun⟩ | hgenerate⟩ := run_of_admitted hrefusal store
    · rw [hrun] at h
      cases h
    · exact ⟨hselection, hgenerate⟩

/-- Once its destination is made, a batch without a result was cancelled before it wrote
a module. -/
theorem generate_error {e : Setting σ} {selection : List Summary} {opened : σ}
    {error : BatchError} (h : (generate e selection opened).outcome = .error error) :
    error = .cancelled ∧ ∃ ts w, Course e (openingState e selection opened) ts w ∧
      (generate e selection opened).store = w.store ∧ ts.filterMap Turn.output? = [] := by
  obtain ⟨ts, w, hcourse, hend⟩ := all_cases e (openingState e selection opened)
    (Fetching.run e.source e.cancel e.options.concurrency selection
      (e.cancel.arrives .directory)).results.reverse
  rcases hend with ⟨_, hall⟩ | ⟨f, rest, _, _, ⟨hnone, hall⟩ | ⟨_, hall⟩⟩ <;>
    rw [generate_eq, hall] at h ⊢ <;> cases h
  refine ⟨rfl, ts, w, hcourse, rfl, ?_⟩
  rw [hcourse.result] at hnone
  simp only [openingState, BatchResult.empty, Nat.zero_add] at hnone
  exact List.eq_nil_of_length_eq_zero hnone

/-- A batch that has a first turn was not cancelled while it fetched, so its turns are
about what the source answered. -/
theorem fetched_eq_answers {e : Setting σ} {selection : List Summary} {opened : σ}
    {w : Writing σ} {ts : List Turn} (h : Course e (openingState e selection opened) ts w)
    (hts : ts ≠ []) :
    (Fetching.run e.source e.cancel e.options.concurrency selection
      (e.cancel.arrives .directory)).results.reverse = Fetching.answers e.source selection := by
  apply Fetching.run_answers
  rw [← Bool.not_eq_true]
  intro hc
  exact hts (h.eq_nil hc)

/-- Turns that account for all fetched details but some rest give a result. -/
theorem completed_of_course {e : Setting σ} {selection : List Summary} {store opened : σ}
    {r : BatchResult} {w : Writing σ} {ts : List Turn} {rest : List Fetched}
    {last : List BatchEvent}
    (hopened : e.store.ensureDirectory store e.destination = (opened, none))
    (hcourse : Course e (openingState e selection opened) ts w) (hts : ts ≠ [])
    (hfetched : (Fetching.run e.source e.cancel e.options.concurrency selection
      (e.cancel.arrives .directory)).results.reverse = ts.map Turn.fetched ++ rest)
    (hstore : (run e selection store).store = w.store)
    (hevents : (run e selection store).events = w.events ++ last)
    (hlast : ∀ ev ∈ last, ev.generated? = none ∧ ev.attempt? = none)
    (hresult : r = { w.result with
      failures := w.result.failures ++ rest.map fun f => ⟨f.summary.id, .cancelled⟩ })
    (hwritten : rest ≠ [] → w.result.succeeded ≠ 0) : Completed e selection store r ts := by
  have hanswers : Fetching.answers e.source selection = ts.map Turn.fetched ++ rest := by
    rw [← hfetched, fetched_eq_answers hcourse hts]
  have hlength : selection.length = ts.length + rest.length := by
    have := congrArg List.length hanswers
    simpa using this
  have hrest : rest.map Fetched.summary = selection.drop ts.length := by
    rw [← Fetching.answers_map_summary e.source selection, hanswers, List.map_append]
    exact (List.drop_left' (by simp)).symm
  have hadded := hcourse.result
  simp only [openingState, BatchResult.empty, Nat.zero_add, List.nil_append] at hadded
  have hgenerated := hcourse.generated
  have hattempts := hcourse.attempts
  simp only [openingState, opening_generated, opening_attempts, List.nil_append]
    at hgenerated hattempts
  refine ⟨by omega, ?_, ⟨opened, w, hopened, hcourse, hstore⟩, ?_, ?_, ?_, ?_, ?_, ?_, ?_, ?_⟩
  · rw [hanswers]
    exact (List.take_left' (by simp)).symm
  · rw [hresult, hadded]
  · rw [hresult, hadded]
  · rw [hresult, hadded]
  · rw [hresult, hadded, ← hrest, leftOver, List.map_map]
    rfl
  · rw [hresult, hadded]
  · rw [hevents, List.filterMap_append, hgenerated,
      List.filterMap_eq_nil_iff.mpr fun ev hev => (hlast ev hev).1, List.append_nil]
  · rw [hevents, List.filterMap_append, hattempts,
      List.filterMap_eq_nil_iff.mpr fun ev hev => (hlast ev hev).2, List.append_nil]
  · intro hlt
    rw [hresult]
    apply Nat.pos_of_ne_zero
    apply hwritten
    rintro rfl
    simp only [List.length_nil] at hlength
    omega

theorem exists_completed {e : Setting σ} {selection : List Summary} {store : σ} {r : BatchResult}
    (h : (run e selection store).outcome = .ok r) : ∃ ts, Completed e selection store r ts := by
  obtain ⟨hselection, opened, hopened, hrun⟩ := run_ok h
  obtain ⟨ts, w, hcourse, hend⟩ := all_cases e (openingState e selection opened)
    (Fetching.run e.source e.cancel e.options.concurrency selection
      (e.cancel.arrives .directory)).results.reverse
  rcases hend with ⟨hfs, hall⟩ | ⟨f, rest, hfs, _, ⟨_, hall⟩ | ⟨hsome, hall⟩⟩ <;>
    rw [generate_eq, hall] at hrun <;> rw [hrun] at h <;> cases h
  · have hts : ts ≠ [] := by
      rintro rfl
      exact Fetching.results_ne_nil _ _ _ _ _ hselection hfs
    have hfetched := hfs.trans (List.append_nil (ts.map Turn.fetched)).symm
    have hevents : (run e selection store).events = w.events ++
        [.finished w.result.succeeded w.result.failures.length w.result.degraded.length] := by
      rw [hrun]
      rfl
    refine ⟨ts, completed_of_course hopened hcourse hts hfetched (by rw [hrun]; rfl) hevents ?_
      (by simp) (by simp)⟩
    intro ev hev
    simp only [List.mem_singleton] at hev
    subst hev
    exact ⟨rfl, rfl⟩
  · have hts : ts ≠ [] := by
      rintro rfl
      cases hcourse
      exact hsome rfl
    let r := ((w.pass e (.turn f.position)).stop (f :: rest)).result
    have hevents : (run e selection store).events = w.events ++
        (e.cancel.events (.turn f.position) ++ [.stopped (rest.length + 1),
          .finished r.succeeded r.failures.length r.degraded.length]) := by
      rw [hrun]
      simp [conclude, Writing.stop, Writing.pass, r]
    refine ⟨ts, completed_of_course hopened hcourse hts hfs (by rw [hrun]; rfl) hevents ?_ rfl
      fun _ => hsome⟩
    intro ev hev
    simp only [List.mem_append, List.mem_cons, List.not_mem_nil, or_false] at hev
    rcases hev with hev | rfl | rfl
    · exact ofFetching_silent (Fetching.pass_events e.cancel _ ev hev)
    · exact ⟨rfl, rfl⟩
    · exact ⟨rfl, rfl⟩

/-! ## A small batch -/

theorem ok_of_toOption {ε α : Type} {x : Except ε α} {a : α} (h : x.toOption = some a) :
    x = .ok a := by
  cases x with
  | error => cases h
  | ok => cases h; rfl

/-- Three interfaces, the first two of which give modules of the same name. -/
def threeInterfaces : List Summary :=
  [⟨1, "", "/a/list", "GET", ""⟩, ⟨2, "", "/b/list", "GET", ""⟩, ⟨3, "", "/c", "GET", ""⟩]

/-- A batch for them in memory. The second one cannot be fetched, and some writes are
refused. -/
def smallBatch (collision : Collision) (refused : String → Option String)
    (moments : Moment → Bool) : Setting MemoryStore where
  options := ⟨2, collision⟩
  source := ⟨fun position id =>
    if position = 1 then .error .decode
    else .ok ⟨id, "", if position = 0 then "/list" else "/c", "GET", [], [], none, none⟩,
    fun position _ => position⟩
  store := MemoryStore.store.withFaults ⟨none, refused⟩
  cancel := ⟨true, false, moments⟩
  destination := "out"

end Batch

end ApiTypings
