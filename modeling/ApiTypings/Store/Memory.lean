import ApiTypings.Assoc
import ApiTypings.Store.Basic

/-!
# Stores in memory and stores with faults

A store in memory holds texts by path and never fails; directories need not
exist. Any store can be given faults: it then refuses some operations without
trying them, so a refused operation changes nothing.
-/

namespace ApiTypings

/-- The texts written so far. -/
abbrev MemoryStore := List (String × String)

def MemoryStore.store : Store MemoryStore where
  ensureDirectory files _ := (files, none)
  write files path text := (Assoc.put path text files, none)

/-- What is refused, with the cause that is given. -/
structure Faults where
  directory : Option String
  /-- The cause of the refusal to write a path. -/
  write : String → Option String

/-- A store that refuses what its faults say. -/
def Store.withFaults {σ : Type} (faults : Faults) (s : Store σ) : Store σ where
  ensureDirectory state path :=
    match faults.directory with
    | some cause => (state, some (.createDirectory path cause))
    | none => s.ensureDirectory state path
  write state path text :=
    match faults.write path with
    | some cause => (state, some (.write path cause))
    | none => s.write state path text

end ApiTypings
