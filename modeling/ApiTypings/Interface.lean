import ApiTypings.Schema.Kind

/-!
# Interfaces

An interface is listed by a summary and defined by a detail. The two body
schemas of a detail stay texts: a broken one costs its own declaration only.
-/

namespace ApiTypings

structure Summary where
  id : Nat
  title : String
  path : String
  method : String
  category : String
  deriving DecidableEq, Repr

structure Parameter where
  name : String
  kind : Schema.Kind
  required : Bool
  description : String
  deriving DecidableEq, Repr

structure Detail where
  id : Nat
  title : String
  path : String
  method : String
  pathParameters : List Parameter
  queryParameters : List Parameter
  requestBody : Option String
  responseBody : Option String
  deriving DecidableEq, Repr

/-- What is known of an interface from the listing alone. -/
def Summary.toDetail (s : Summary) : Detail :=
  ⟨s.id, s.title, s.path, s.method, [], [], none, none⟩

/-- The last segment of a path that is not blank, without white space at its
ends, or `index` when there is none. Different paths may have the same name. -/
def nameOfPath (path : String) : String :=
  match (((Text.split (· == '/') path).map Text.trim).filter (!·.isEmpty)).getLast? with
  | some segment => segment
  | none => "index"

def Detail.name (d : Detail) : String := nameOfPath d.path

end ApiTypings
