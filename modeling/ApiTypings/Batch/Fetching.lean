import ApiTypings.Batch.Basic

/-!
# Fetching details side by side

Fetches are taken up in selection order. They wait in a window that holds at
most a given number of fetches that are not yet handed over; a fetch starts some
time after it enters the window, and is handed over when it has ended and all
before it have been. So results come out in selection order, whatever the
durations.

Time is virtual. A step does the first of these that it can: let a fetch enter
the window; hand over the first fetch of the window; end a fetch whose time has
come; start the first fetch that has not started; let time pass until the next
fetch ends. A fetch that would start after a cancellation does not start.
-/

namespace ApiTypings.Batch

/-- A detail to generate from, and why it is only what the listing says. -/
structure Fetched where
  position : Nat
  summary : Summary
  detail : Detail
  reason : Option Reason

/-- How far a fetch in the window has come. -/
inductive Progress where
  | waiting
  | running (due : Nat)
  | ended (result : Fetched)

structure Slot where
  position : Nat
  summary : Summary
  progress : Progress

/-- The state of fetching. Results and events are kept in reverse. -/
structure Fetching where
  /-- The fetches that have not entered the window. -/
  queue : List (Nat × Summary)
  window : List Slot
  results : List Fetched
  clock : Nat
  cancelled : Bool
  events : List BatchEvent

namespace Fetching

def resultOf (position : Nat) (s : Summary) : Except FetchError Detail → Fetched
  | .ok detail => ⟨position, s, detail, none⟩
  | .error e => ⟨position, s, s.toDetail, some (.fetch e)⟩

/-- The result of a fetch that did not start. -/
def withheld (position : Nat) (s : Summary) : Fetched :=
  ⟨position, s, s.toDetail, some .cancelled⟩

def errorOf {ε α : Type} : Except ε α → Option ε
  | .ok _ => none
  | .error e => some e

/-- A fetch that has not started, with what stands before and after it. -/
def splitWaiting : List Slot → Option (List Slot × Slot × List Slot)
  | [] => none
  | s :: rest =>
    match s.progress with
    | .waiting => some ([], s, rest)
    | _ => (splitWaiting rest).map fun (before, t, after) => (s :: before, t, after)

/-- A fetch due by the given time, with what stands before and after it. -/
def splitDue (time : Nat) : List Slot → Option (List Slot × Slot × List Slot)
  | [] => none
  | s :: rest =>
    match s.progress with
    | .running due =>
      if due ≤ time then some ([], s, rest)
      else (splitDue time rest).map fun (before, t, after) => (s :: before, t, after)
    | _ => (splitDue time rest).map fun (before, t, after) => (s :: before, t, after)

def nextDue : List Slot → Option Nat
  | [] => none
  | s :: rest =>
    match s.progress, nextDue rest with
    | .running due, some other => some (min due other)
    | .running due, none => some due
    | _, other => other

/-- The state after a moment at which the cancellation may arrive. -/
def pass (cancel : Cancellation) (m : Moment) (st : Fetching) : Fetching :=
  { st with
    cancelled := st.cancelled || cancel.arrives m
    events := cancel.events m ++ st.events }

def finish (source : DetailSource) (cancel : Cancellation) (st : Fetching)
    (before : List Slot) (s : Slot) (after : List Slot) : Fetching :=
  let answer := source.fetch s.position s.summary.id
  let st := st.pass cancel (.fetch s.position)
  { st with
    window := before ++ { s with progress := .ended (resultOf s.position s.summary answer) } :: after
    events := .fetchEnded s.summary.id (errorOf answer) :: st.events }

/-- Starts the fetch of a slot unless the batch is cancelled. A fetch that takes no
time ends at once. -/
def start (source : DetailSource) (cancel : Cancellation) (st : Fetching)
    (before : List Slot) (s : Slot) (after : List Slot) : Fetching :=
  let st := st.pass cancel (.start s.position)
  if st.cancelled then
    { st with
      window := before ++ { s with progress := .ended (withheld s.position s.summary) } :: after }
  else
    let st := { st with events := .fetchStarted s.summary.id :: st.events }
    match source.duration s.position s.summary.id with
    | 0 => finish source cancel st before s after
    | d + 1 =>
      { st with window := before ++ { s with progress := .running (st.clock + (d + 1)) } :: after }

/-- Ends the fetch that is due next, without passing the given time if there is one. -/
def settle (source : DetailSource) (cancel : Cancellation) (st : Fetching) (time : Nat) :
    Option Fetching :=
  (splitDue time st.window).map fun (before, s, after) =>
    finish source cancel { st with clock := time } before s after

/-- Does what does not hand over: ends, starts, or lets time pass. -/
def work (source : DetailSource) (cancel : Cancellation) (st : Fetching) : Option Fetching :=
  match settle source cancel st st.clock with
  | some st => some st
  | none =>
    match splitWaiting st.window with
    | some (before, s, after) => some (start source cancel st before s after)
    | none => (nextDue st.window).bind (settle source cancel st)

/-- One step; none when there is nothing left to do. -/
def step (source : DetailSource) (cancel : Cancellation) (limit : Nat) (st : Fetching) :
    Option Fetching :=
  match st.queue, st.window with
  | (position, s) :: queue, window =>
    if window.length < limit then
      some { st with queue, window := window ++ [⟨position, s, .waiting⟩] }
    else
      match window with
      | ⟨_, _, .ended r⟩ :: rest => some { st with window := rest, results := r :: st.results }
      | _ => work source cancel st
  | [], ⟨_, _, .ended r⟩ :: rest => some { st with window := rest, results := r :: st.results }
  | [], _ => work source cancel st

/-- At most so many steps. -/
def steps (source : DetailSource) (cancel : Cancellation) (limit : Nat) : Nat → Fetching → Fetching
  | 0, st => st
  | k + 1, st =>
    match step source cancel limit st with
    | none => st
    | some st => steps source cancel limit k st

def positions (selection : List Summary) : List (Nat × Summary) :=
  (List.range selection.length).zip selection

/-- The fetches of a selection before any has entered the window. -/
def initial (selection : List Summary) (cancelled : Bool) : Fetching :=
  ⟨positions selection, [], [], 0, cancelled, []⟩

/-- How many fetches the window holds; a concurrency of zero sets no limit. -/
def limitOf (concurrency : Nat) (selection : List Summary) : Nat :=
  if concurrency = 0 then selection.length else concurrency

/-- Every fetch enters the window, starts, ends and is handed over: four steps. -/
def run (source : DetailSource) (cancel : Cancellation) (concurrency : Nat)
    (selection : List Summary) (cancelled : Bool) : Fetching :=
  steps source cancel (limitOf concurrency selection) (4 * selection.length)
    (initial selection cancelled)

end Fetching

/-- The greatest number of fetches under way at once. -/
def maxInFlight (events : List BatchEvent) : Nat :=
  (events.foldl (fun (running, most) e =>
    match e with
    | .fetchStarted _ => (running + 1, max most (running + 1))
    | .fetchEnded _ _ => (running - 1, most)
    | _ => (running, most)) (0, 0)).2

end ApiTypings.Batch
