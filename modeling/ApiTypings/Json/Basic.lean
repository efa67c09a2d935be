import ApiTypings.Assoc
import ApiTypings.Number.Binary64

/-!
# JSON values

Members of an object keep the order in which they were written. Integers are
exact; a number that is written with a fraction or an exponent, or that lies
outside `[-2^63, 2^64)`, is a binary floating point number.

A value as read from text may repeat a key inside an object. In a value with
unique keys each key stands at its first position and carries its last value.
-/

namespace ApiTypings

inductive Json where
  | null
  | bool (b : Bool)
  | int (n : Int)
  | double (x : Number.Binary64)
  | text (s : String)
  | array (items : List Json)
  | object (members : List (String × Json))
  deriving BEq, Repr, Inhabited

namespace Json

/-- The value of a key, when the value is an object that has it. -/
def get? (key : String) : Json → Option Json
  | object members => Assoc.find? key members
  | _ => none

def asText? : Json → Option String
  | text s => some s
  | _ => none

/-- Each key once, at its first position and with its last value. -/
def uniqueKeys {α : Type} (members : List (String × α)) : List (String × α) :=
  members.foldl (fun done (k, v) => Assoc.put k v done) []

mutual
/-- The value in which every object at every depth has unique keys. -/
def unique : Json → Json
  | array items => array (uniqueItems items)
  | object members => object (uniqueKeys (uniqueMembers members))
  | v => v

def uniqueItems : List Json → List Json
  | [] => []
  | v :: rest => unique v :: uniqueItems rest

def uniqueMembers : List (String × Json) → List (String × Json)
  | [] => []
  | (k, v) :: rest => (k, unique v) :: uniqueMembers rest
end

end Json

end ApiTypings
