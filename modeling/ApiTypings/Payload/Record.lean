import ApiTypings.Json.Basic

/-!
# Records in payloads

A record arrives either as an object, in which unknown keys are ignored, or as
an array of its fields in a fixed order, in which fields at the end may be left
out but nothing may be added. In both forms the fields are handed on in that
order, each either missing or with a value.

What a missing field means is up to the field: some have a default, some may
also be null, and some have to be there.
-/

namespace ApiTypings.Payload

def maxId : Nat := Nat.pow 2 64 - 1

/-- The fields of a record, missing ones as `none`. -/
def fields? (keys : List String) : Json → Option (List (Option Json))
  | .object members => some (keys.map (Assoc.find? · members))
  | .array items =>
    if items.length ≤ keys.length then
      some (items.map some ++ List.replicate (keys.length - items.length) none)
    else none
  | _ => none

def id? : Json → Option Nat
  | .int n => if 0 ≤ n && n ≤ maxId then some n.toNat else none
  | _ => none

/-- An identifier with a default for a missing one. -/
def idOrZero? : Option Json → Option Nat
  | none => some 0
  | some v => id? v

/-- A field that may be missing or null, else has to decode. -/
def optional? {α : Type} (decode : Json → Option α) : Option Json → Option (Option α)
  | none => some none
  | some .null => some none
  | some v => (decode v).map some

/-- A text that may be missing or null. -/
def text? : Option Json → Option (Option String) := optional? Json.asText?

def listOf? {α : Type} (decode : Json → Option α) : Json → Option (List α)
  | .array items => items.mapM decode
  | _ => none

end ApiTypings.Payload
