/-!
# Association lists

Keys stand in the order in which they were first put. Looking up finds the first
entry of a key, and putting replaces that entry, so the others of the same key,
if there are any, are never seen.
-/

namespace ApiTypings.Assoc

variable {κ α : Type} [DecidableEq κ]

def find? (key : κ) : List (κ × α) → Option α
  | [] => none
  | (k, v) :: rest => if k = key then some v else find? key rest

/-- A key that is there gets the new value in its place; a new key goes last. -/
def put (key : κ) (value : α) : List (κ × α) → List (κ × α)
  | [] => [(key, value)]
  | (k, v) :: rest => if k = key then (k, value) :: rest else (k, v) :: put key value rest

theorem find?_put (key k : κ) (value : α) (entries : List (κ × α)) :
    find? k (put key value entries) = if k = key then some value else find? k entries := by
  induction entries with
  | nil => simp [put, find?, eq_comm]
  | cons e rest ih =>
    simp only [put]
    split <;> simp only [find?] <;> grind

end ApiTypings.Assoc
