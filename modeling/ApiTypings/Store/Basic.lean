/-!
# Stores

A store is where generated modules end up. Making a directory and writing a file
each give the store afterwards together with the error, if there is one; a store
may have changed although the operation failed.
-/

namespace ApiTypings

/-- Why a store refused. The cause is text of the system below. -/
inductive StoreError where
  | createDirectory (path cause : String)
  | write (path cause : String)
  deriving DecidableEq, Repr

def StoreError.message : StoreError → String
  | .createDirectory path cause => "Failed to create directory '" ++ path ++ "': " ++ cause
  | .write path cause => "Failed to write '" ++ path ++ "': " ++ cause

/-- The two operations on a store with states in `σ`. -/
structure Store (σ : Type) where
  /-- Makes a directory and the missing ones above it. -/
  ensureDirectory : σ → String → σ × Option StoreError
  /-- Writes a text, replacing what the file held. -/
  write : σ → String → String → σ × Option StoreError

end ApiTypings
