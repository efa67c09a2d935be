import ApiTypings.Json.Token

/-!
# Reading JSON

A text is read token by token, with a stack of the arrays and objects that are
still open. The stack height is the nesting depth, which may be limited.

`read` merges repeated keys; `readRaw` leaves them as written.
-/

namespace ApiTypings.Json

/-- An array or object that is still open, with what it holds so far in reverse. -/
inductive Frame where
  | array (items : List Json)
  | object (members : List (String × Json))
  | member (members : List (String × Json)) (key : String)

/-- What the next token has to be. -/
inductive Expect where
  /-- A value, or the end of an array that was just opened. -/
  | value (orEnd : Bool)
  /-- A key, or the end of an object that was just opened. -/
  | key (orEnd : Bool)
  /-- The colon after a key. -/
  | colon (key : String)
  /-- What follows a complete value. -/
  | after (value : Json)

/-- One token. The depth of nesting is at most `limit`. -/
def step (limit : Nat) (t : Token) : Expect → List Frame → Option (Expect × List Frame)
  | .value orEnd, frames =>
    match t with
    | .scalar v => some (.after v, frames)
    | .text s => some (.after (.text s), frames)
    | .openArray =>
      if frames.length < limit then some (.value true, .array [] :: frames) else none
    | .openObject =>
      if frames.length < limit then some (.key true, .object [] :: frames) else none
    | .closeArray =>
      match orEnd, frames with
      | true, .array items :: rest => some (.after (.array items.reverse), rest)
      | _, _ => none
    | _ => none
  | .key orEnd, frames =>
    match t with
    | .text k => some (.colon k, frames)
    | .closeObject =>
      match orEnd, frames with
      | true, .object members :: rest => some (.after (.object members.reverse), rest)
      | _, _ => none
    | _ => none
  | .colon k, frames =>
    match t, frames with
    | .colon, .object members :: rest => some (.value false, .member members k :: rest)
    | _, _ => none
  | .after v, frames =>
    match t, frames with
    | .comma, .array items :: rest => some (.value false, .array (v :: items) :: rest)
    | .comma, .member members k :: rest => some (.key false, .object ((k, v) :: members) :: rest)
    | .closeArray, .array items :: rest => some (.after (.array (v :: items).reverse), rest)
    | .closeObject, .member members k :: rest =>
      some (.after (.object ((k, v) :: members).reverse), rest)
    | _, _ => none

/-- All tokens. The text has to end right after one value. -/
def build (limit : Nat) : List Token → Expect → List Frame → Option Json
  | [], .after v, [] => some v
  | [], _, _ => none
  | t :: ts, expect, frames =>
    match step limit t expect frames with
    | some (expect, frames) => build limit ts expect frames
    | none => none

def maxNesting : Nat := 127

/-- The value a text denotes, repeated keys included, nested at most `limit` deep. -/
def readWithin (limit : Nat) (text : String) : Option Json :=
  (Token.scan text.toList).bind fun ts => build limit ts (.value false) []

/-- The value a text denotes, repeated keys included. -/
def readRaw (text : String) : Option Json := readWithin maxNesting text

def read (text : String) : Option Json := (readRaw text).map unique

end ApiTypings.Json
