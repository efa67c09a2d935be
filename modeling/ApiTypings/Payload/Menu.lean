import ApiTypings.Payload.Record

/-!
# The menu

The listing of a project is a list of entries. An entry with a list is a
category; one without is an interface that belongs to no category.
-/

namespace ApiTypings

/-- An interface inside a category of the menu. -/
structure MenuItem where
  id : Nat
  title : Option String
  path : Option String
  method : Option String
  deriving DecidableEq, Repr

/-- A category, or an interface on its own. -/
structure MenuEntry where
  id : Nat
  name : Option String
  title : Option String
  path : Option String
  method : Option String
  list : Option (List MenuItem)
  deriving DecidableEq, Repr

namespace Payload

def menuItem? (j : Json) : Option MenuItem :=
  match fields? ["_id", "title", "path", "method"] j with
  | some [id, title, path, method] => do
    some ⟨← idOrZero? id, ← text? title, ← text? path, ← text? method⟩
  | _ => none

def menuEntry? (j : Json) : Option MenuEntry :=
  match fields? ["_id", "name", "title", "path", "method", "list"] j with
  | some [id, name, title, path, method, list] => do
    some ⟨← idOrZero? id, ← text? name, ← text? title, ← text? path, ← text? method,
      ← optional? (listOf? menuItem?) list⟩
  | _ => none

def menu? : Json → Option (List MenuEntry) := listOf? menuEntry?

end Payload

end ApiTypings
