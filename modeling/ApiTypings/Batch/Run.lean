import ApiTypings.Batch.Fetching
import ApiTypings.Batch.FileName
import ApiTypings.Store.Path

/-!
# Running a batch

First the destination is made, then all details are fetched, then the modules
are written one after the other in selection order. A cancellation is looked for
before the batch, before each fetch and before each module; it may arrive in
between. What comes out holds
the result or the reason why there is none, every event in order, the store
afterwards, and whether the batch was cancelled by its end.
-/

namespace ApiTypings.Batch

structure Run (σ : Type) where
  outcome : Except BatchError BatchResult
  events : List BatchEvent
  store : σ
  cancelled : Bool

structure Writing (σ : Type) where
  result : BatchResult
  taken : Taken
  store : σ
  events : List BatchEvent
  cancelled : Bool

/-- Everything a batch depends on besides its selection and the store's state. -/
structure Setting (σ : Type) where
  options : BatchOptions
  source : DetailSource
  store : Store σ
  cancel : Cancellation
  destination : String

variable {σ : Type}

namespace Writing

/-- The state after a moment at which the cancellation may arrive. -/
def pass (e : Setting σ) (m : Moment) (w : Writing σ) : Writing σ :=
  { w with cancelled := w.cancelled || e.cancel.arrives m, events := w.events ++ e.cancel.events m }

def write (e : Setting σ) (w : Writing σ) (f : Fetched) (m : Module) (file : String) : Writing σ :=
  let path := Path.join e.destination file
  let w := { w with events := w.events ++ [BatchEvent.writeStarted path] }
  let w := w.pass e (.write f.position file)
  let (store, error) := e.store.write w.store path m.emit
  let events := w.events ++ [.writeEnded f.detail.id path m.emit error]
  match error with
  | none => ⟨w.result.succeed m path, Assoc.put file m.id w.taken, store, events, w.cancelled⟩
  | some error =>
    ⟨w.result.fail ⟨f.detail.id, .write error⟩, w.taken, store, events, w.cancelled⟩

/-- Records why an interface is only what the listing says. -/
def note (w : Writing σ) (f : Fetched) : Writing σ :=
  match f.reason with
  | none => w
  | some reason => { w with result := w.result.degrade ⟨f.detail.id, reason⟩ }

/-- Generates the module of a detail and writes it unless its name is refused. -/
def process (e : Setting σ) (w : Writing σ) (f : Fetched) : Writing σ :=
  let m := Module.ofDetail f.detail
  let choice := choose e.options.collision w.taken m
  let w := w.note f
  let w := { w with events := w.events ++ BatchEvent.generated f.detail :: choice.events m.id }
  match choice with
  | .rejected file earlier => { w with result := w.result.fail ⟨m.id, .rejected file earlier⟩ }
  | .plain file => w.write e f m file
  | .overwriting file _ => w.write e f m file
  | .qualified file => w.write e f m file

def stop (w : Writing σ) (remaining : List Fetched) : Writing σ :=
  { w with
    result := { w.result with
      failures := w.result.failures ++ remaining.map fun f => ⟨f.summary.id, .cancelled⟩ }
    events := w.events ++ [.stopped remaining.length] }

/-- Processes details in order until the batch is cancelled. There is no result
when that happens before the first module is written. -/
def all (e : Setting σ) (w : Writing σ) : List Fetched → Except (Writing σ) (Writing σ)
  | [] => .ok w
  | f :: rest =>
    let w := w.pass e (.turn f.position)
    if w.cancelled then
      if w.result.succeeded = 0 then .error w else .ok (w.stop (f :: rest))
    else all e (w.process e f) rest

end Writing

/-- What is left when writing has come to its end. -/
def conclude : Except (Writing σ) (Writing σ) → Run σ
  | .error w => ⟨.error .cancelled, w.events, w.store, w.cancelled⟩
  | .ok w =>
    let r := w.result
    ⟨.ok r, w.events ++ [.finished r.succeeded r.failures.length r.degraded.length], w.store,
      w.cancelled⟩

/-- Fetches the details and writes the modules once the destination is there. -/
def generate (e : Setting σ) (selection : List Summary) (store : σ) : Run σ :=
  let fetching := Fetching.run e.source e.cancel e.options.concurrency selection
    (e.cancel.arrives .directory)
  let events := [.directory e.destination] ++ e.cancel.events .directory ++
    [.announced selection.length e.destination] ++ fetching.events.reverse
  conclude (Writing.all e ⟨.empty, [], store, events, fetching.cancelled⟩ fetching.results.reverse)

def run (e : Setting σ) (selection : List Summary) (store : σ) : Run σ :=
  if selection.isEmpty then ⟨.error .emptySelection, [], store, e.cancel.atStart⟩
  else if e.destination.isEmpty then ⟨.error .noDestination, [], store, e.cancel.atStart⟩
  else if e.cancel.atStart then ⟨.error .cancelled, [], store, true⟩
  else
    match e.store.ensureDirectory store e.destination with
    | (store, some error) =>
      ⟨.error (.createDirectory error), .directory e.destination :: e.cancel.events .directory, store,
        e.cancel.arrives .directory⟩
    | (store, none) => generate e selection store

def Setting.summary (e : Setting σ) : String :=
  "BatchCoordinator \x7b options: BatchOptions \x7b concurrency: " ++
    toString e.options.concurrency ++ ", collision: " ++ e.options.collision.label ++
    " \x7d, cancellable: " ++ (if e.cancel.possible then "true" else "false") ++ ", .. \x7d"

end ApiTypings.Batch
