import ApiTypings.Interface
import ApiTypings.Payload.Menu
import ApiTypings.Text.Basic

/-!
# Categories and selections

The menu is grouped into categories. Entries of one name are merged where the
name first occurs, names being compared without white space at their ends.
Interfaces of no category are appended to the category `Uncategorized`.

A selection picks interfaces from the categories: all of them, those of some
categories, or those with given ids.
-/

namespace ApiTypings

structure Category where
  name : String
  interfaces : List Summary
  deriving DecidableEq, Repr

namespace Category

/-- The category of entries without a name. -/
def uncategorized : String := "Uncategorized"

def nameOf (e : MenuEntry) : String :=
  match e.name with
  | none => uncategorized
  | some name => if Text.isBlankText name then uncategorized else Text.trim name

/-- Missing texts are empty. -/
def summarize (id : Nat) (title path method : Option String) (category : String) : Summary :=
  ⟨id, title.getD "", path.getD "", method.getD "", category⟩

def ofItem (category : String) (i : MenuItem) : Summary :=
  summarize i.id i.title i.path i.method category

def ofLoose (e : MenuEntry) : Summary := summarize e.id e.title e.path e.method uncategorized

/-- Appends interfaces to the category of a name, which is added if there is none. -/
def extend (name : String) (interfaces : List Summary) : List Category → List Category
  | [] => [⟨name, interfaces⟩]
  | c :: rest =>
    if c.name = name then { c with interfaces := c.interfaces ++ interfaces } :: rest
    else c :: extend name interfaces rest

/-- The entries that are categories, by the name they contribute to. -/
def listed (menu : List MenuEntry) : List (String × List Summary) :=
  menu.filterMap fun e => e.list.map fun items => (nameOf e, items.map (ofItem (nameOf e)))

/-- The interfaces of no category. -/
def loose (menu : List MenuEntry) : List Summary :=
  (menu.filter (·.list.isNone)).map ofLoose

def index (menu : List MenuEntry) : List Category :=
  let grouped := (listed menu).foldl (fun done (name, items) => extend name items done) []
  let rest := loose menu
  if rest.isEmpty then grouped else extend uncategorized rest grouped

def allInterfaces (categories : List Category) : List Summary :=
  categories.flatMap (·.interfaces)

end Category

inductive Selection where
  | all
  | byCategory (names : List String)
  | byId (ids : List Nat)
  deriving DecidableEq, Repr

inductive SelectionError where
  | unknownCategory (name : String)
  | unknownInterface (id : Nat)
  deriving DecidableEq, Repr

def SelectionError.message : SelectionError → String
  | .unknownCategory name => "Unknown category '" ++ name ++ "'"
  | .unknownInterface id => "Unknown interface id " ++ toString id

namespace Selection

/-- The interface with an id. Of several the last one listed counts. -/
def lastWithId? (id : Nat) (summaries : List Summary) : Option Summary :=
  summaries.reverse.find? (·.id == id)

/-- The interfaces with the given ids, or the first id that none has. -/
def pick (summaries : List Summary) : List Nat → Except SelectionError (List Summary)
  | [] => .ok []
  | id :: ids =>
    match lastWithId? id summaries with
    | none => .error (.unknownInterface id)
    | some s => (pick summaries ids).map (s :: ·)

/-- The interfaces a selection picks. Ids keep the given order, a repeated id
counting once; everything else keeps listing order. -/
def resolve (categories : List Category) : Selection → Except SelectionError (List Summary)
  | .all => .ok (Category.allInterfaces categories)
  | .byCategory names =>
    match names.find? fun name => !categories.any (·.name == name) with
    | some name => .error (.unknownCategory name)
    | none => .ok (Category.allInterfaces (categories.filter fun c => names.contains c.name))
  | .byId ids => pick (Category.allInterfaces categories) ids.eraseDups

end Selection

end ApiTypings
