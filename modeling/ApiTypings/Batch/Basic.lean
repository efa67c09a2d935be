import ApiTypings.FetchError
import ApiTypings.Module
import ApiTypings.Store.Basic

/-!
# Batches

A batch generates one module for each selected interface and writes it to a
store. A failure stays with the interface it hits: a failed fetch degrades the
interface to what the listing says of it, a failed write or a refused file name
drops its module. Only an empty selection, a missing destination, a destination
that cannot be made, and a cancellation before the first module end the batch.
-/

namespace ApiTypings

/-- What to do when a file name was used before in the same batch. -/
inductive Collision where
  /-- The later module replaces the earlier file. -/
  | overwrite
  /-- The later module gets a name that is free. -/
  | qualifyById
  /-- The later module is not written. -/
  | reject
  deriving DecidableEq, Repr

/-- How summaries show a policy. -/
def Collision.label : Collision → String
  | .overwrite => "Overwrite"
  | .qualifyById => "QualifyById"
  | .reject => "Reject"

/-- How settings and arguments name a policy. -/
def Collision.name : Collision → String
  | .overwrite => "overwrite"
  | .qualifyById => "qualify-by-id"
  | .reject => "reject"

def Collision.ofName? (name : String) : Option Collision :=
  [overwrite, qualifyById, reject].find? (·.name == name)

structure BatchOptions where
  /-- How many fetches may be under way; zero sets no limit. -/
  concurrency : Nat
  collision : Collision
  deriving DecidableEq, Repr

/-- The number of fetches under way unless asked otherwise. -/
def BatchOptions.defaultConcurrency : Nat := 8

/-- Why an interface is in the report. -/
inductive Reason where
  | cancelled
  | fetch (error : FetchError)
  | write (error : StoreError)
  | rejected (file : String) (earlier : Nat)
  deriving DecidableEq, Repr

/-- The text that marks a cancellation. -/
def Reason.cancelledText : String := "cancelled"

def Reason.text : Reason → String
  | .cancelled => cancelledText
  | .fetch error => error.message
  | .write error => error.message
  | .rejected file earlier =>
    file ++ " was already written for interface " ++ toString earlier

structure Failure where
  id : Nat
  reason : Reason
  deriving DecidableEq, Repr

/-- Whether a failure is a cancellation, by its text. -/
def Failure.isCancelled (f : Failure) : Bool := f.reason.text == Reason.cancelledText

/-- What a batch did. The written modules and their files run in parallel, in the
order of writing. -/
structure BatchResult where
  succeeded : Nat
  /-- Modules that were not written. -/
  failures : List Failure
  /-- Interfaces known from the listing alone. Their modules count as written
  when they are. -/
  degraded : List Failure
  outputs : List Module
  files : List String

namespace BatchResult

def empty : BatchResult := ⟨0, [], [], [], []⟩

/-- A batch succeeds when at least one module was written. -/
def isSuccess (r : BatchResult) : Bool := 0 < r.succeeded

def fail (r : BatchResult) (f : Failure) : BatchResult :=
  { r with failures := r.failures ++ [f] }

def degrade (r : BatchResult) (f : Failure) : BatchResult :=
  { r with degraded := r.degraded ++ [f] }

def succeed (r : BatchResult) (m : Module) (file : String) : BatchResult :=
  { r with succeeded := r.succeeded + 1, outputs := r.outputs ++ [m], files := r.files ++ [file] }

end BatchResult

inductive BatchError where
  | emptySelection
  | noDestination
  | createDirectory (error : StoreError)
  | cancelled
  deriving DecidableEq, Repr

def BatchError.message : BatchError → String
  | .emptySelection => "No interfaces selected"
  | .noDestination => "Output directory is not set"
  | .createDirectory error => error.message
  | .cancelled => "Generation cancelled"

inductive BatchEvent where
  /-- The destination is asked for. -/
  | directory (path : String)
  | announced (count : Nat) (destination : String)
  | fetchStarted (id : Nat)
  | fetchEnded (id : Nat) (error : Option FetchError)
  /-- The cancellation arrives. -/
  | cancellation
  | generated (detail : Detail)
  | overwriting (id earlier : Nat) (file : String)
  | qualified (id : Nat) (file : String)
  | rejected (id earlier : Nat) (file : String)
  | writeStarted (path : String)
  | writeEnded (id : Nat) (path : String) (text : String) (error : Option StoreError)
  | stopped (remaining : Nat)
  | finished (succeeded failed degraded : Nat)

/-- A moment between two steps of a batch. Positions count the selection. -/
inductive Moment where
  /-- The destination is being made. -/
  | directory
  /-- The fetch of a position is about to start. -/
  | start (position : Nat)
  /-- The fetch of a position ends. -/
  | fetch (position : Nat)
  /-- The module of a position is about to be generated. -/
  | turn (position : Nat)
  /-- The write of a file for a position starts. -/
  | write (position : Nat) (file : String)
  deriving DecidableEq, Repr

/-- When the cancellation of a batch arrives. Once it has, it stays. -/
structure Cancellation where
  /-- Without this the batch cannot be cancelled. -/
  possible : Bool
  before : Bool
  /-- The moments at which it arrives. -/
  moments : Moment → Bool

namespace Cancellation

def none : Cancellation := ⟨false, false, fun _ => false⟩

def atStart (c : Cancellation) : Bool := c.possible && c.before

/-- Whether the cancellation arrives at a moment. -/
def arrives (c : Cancellation) (m : Moment) : Bool := c.possible && c.moments m

/-- What a moment adds to the events. -/
def events (c : Cancellation) (m : Moment) : List BatchEvent :=
  if c.arrives m then [.cancellation] else []

end Cancellation

/-- Where the details come from and how long fetching them takes. Calls are counted
by the position they are made for, so a source need not answer a second call for an
interface like the first. -/
structure DetailSource where
  fetch (position id : Nat) : Except FetchError Detail
  duration (position id : Nat) : Nat

end ApiTypings
