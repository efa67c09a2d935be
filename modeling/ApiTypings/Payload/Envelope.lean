import ApiTypings.Json.Word
import ApiTypings.Payload.Record

/-!
# Envelopes

Every answer of the server is an envelope: an error code, a message and the data.
It is an object, in which none of the three keys may be repeated, or an array of
exactly these three. What an object holds under other keys is passed over. The data is
not looked into before the code says success.
-/

namespace ApiTypings.Payload

structure Envelope where
  code : Int
  message : Option String
  data : Option Json

/-- An error code has 64 bits and a sign. -/
def code? : Json → Option Int
  | .int n => if -(Int.pow 2 63) ≤ n && n < Int.pow 2 63 then some n else none
  | _ => none

/-- Null counts as no data. Repeated keys inside the data are merged. -/
def dataOf : Option Json → Option Json
  | none => none
  | some .null => none
  | some v => some v.unique

/-- The values of a key. -/
def occurrences (key : String) (members : List (String × Json)) : List Json :=
  (members.filter (·.1 == key)).map (·.2)

/-- The value of a key that occurs at most once. -/
def single? (key : String) (members : List (String × Json)) : Option (Option Json) :=
  match occurrences key members with
  | [] => some none
  | [v] => some (some v)
  | _ => none

namespace Envelope

def ofJson? : Json → Option Envelope
  | .object members => do
    let code ← single? "errcode" members
    let message ← single? "errmsg" members
    let data ← single? "data" members
    let code ← match code with
      | none => some 0
      | some v => code? v
    some ⟨code, ← text? message, dataOf data⟩
  | .array [code, message, data] => do
    some ⟨← code? code, ← text? (some message), dataOf (some data)⟩
  | _ => none

def keys : List String := ["errcode", "errmsg", "data"]

def read? (body : String) : Option Envelope := (Json.readOnly keys body).bind ofJson?

def errorText (e : Envelope) : String :=
  match e.message with
  | none => "unknown error"
  | some "" => "unknown error"
  | some message => message

end Envelope

end ApiTypings.Payload
