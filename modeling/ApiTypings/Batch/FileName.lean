import ApiTypings.Assoc
import ApiTypings.Batch.Basic

/-!
# File names within a batch

The names written so far are kept with the interface whose module holds the
file. A module whose plain name is free gets that name. Otherwise the policy on
collisions decides.
-/

namespace ApiTypings.Batch

abbrev Taken := List (String × Nat)

/-- The name with which a module is told apart by its id, for attempt `k`. -/
def qualifiedName (name : String) (id : Nat) : Nat → String
  | 0 => name ++ "_" ++ toString id ++ ".ts"
  | k + 1 => name ++ "_" ++ toString id ++ "_" ++ toString (k + 2) ++ ".ts"

/-- The first free name from attempt `k` on, trying at most the given number of
names that are taken. -/
def firstFree (taken : Taken) (name : String) (id : Nat) (k : Nat) : Nat → String
  | 0 => qualifiedName name id k
  | tries + 1 =>
    if (Assoc.find? (qualifiedName name id k) taken).isSome then
      firstFree taken name id (k + 1) tries
    else qualifiedName name id k

/-- The first free name of a module told apart by its id. Among one more name than
are taken one is free. -/
def freeName (taken : Taken) (name : String) (id : Nat) : String :=
  firstFree taken name id 0 taken.length

inductive Choice where
  | plain (file : String)
  | overwriting (file : String) (earlier : Nat)
  | qualified (file : String)
  | rejected (file : String) (earlier : Nat)

def choose (collision : Collision) (taken : Taken) (m : Module) : Choice :=
  match Assoc.find? m.fileName taken with
  | none => .plain m.fileName
  | some earlier =>
    match collision with
    | .overwrite => .overwriting m.fileName earlier
    | .qualifyById => .qualified (freeName taken m.name m.id)
    | .reject => .rejected m.fileName earlier

/-- The name to write to, if any. -/
def Choice.file? : Choice → Option String
  | .plain file => some file
  | .overwriting file _ => some file
  | .qualified file => some file
  | .rejected _ _ => none

/-- What a choice is reported as. -/
def Choice.events (id : Nat) : Choice → List BatchEvent
  | .plain _ => []
  | .overwriting file earlier => [.overwriting id earlier file]
  | .qualified file => [.qualified id file]
  | .rejected file earlier => [.rejected id earlier file]

end ApiTypings.Batch
