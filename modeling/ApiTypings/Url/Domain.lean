import ApiTypings.Unicode.Mark
import ApiTypings.Url.Domain.Direction
import ApiTypings.Url.Domain.Joining
import ApiTypings.Url.Domain.Mapping
import ApiTypings.Url.Punycode

/-!
# Domain names

The ASCII form of a domain name. The name is mapped and split into labels at its full
stops. Labels outside ASCII are written in Punycode behind the mark `xn--`; a label
that has the mark already must hold what such a label is written as. No label may start
with a combining mark, and joiners and writing directions have their rules.
-/

namespace ApiTypings.Url.Domain

open Unicode

def isAscii (c : Char) : Bool := c.toNat < 0x80

/-- What stands behind the mark of labels in Punycode. -/
def afterMark? : List Char → Option (List Char)
  | 'x' :: 'n' :: '-' :: '-' :: rest => some rest
  | _ => none

/-- A label as it is read and as it is written. -/
structure Label where
  plain : List Char
  written : List Char

def Label.of? (cs : List Char) : Option Label :=
  match afterMark? cs with
  | none => some ⟨cs, if cs.all isAscii then cs else "xn--".toList ++ Punycode.encode cs⟩
  | some rest =>
    match if cs.all isAscii then Punycode.decode? rest else none with
    | none => none
    | some plain =>
      if plain.all isAscii || mapped? plain != some plain then none else some ⟨plain, cs⟩

/-- Whether a label has no mark at its start and no joiner out of place. -/
def Label.isValid (l : Label) : Bool :=
  !(l.plain.head?.any marks.holds) && areJoinersPlaced [] l.plain

def join : List Label → List Char
  | [] => []
  | [l] => l.written
  | l :: k :: rest => l.written ++ '.' :: join (k :: rest)

/-- Whether nothing but upper case sets a name apart from its ASCII form. -/
def isPlain (cs : List Char) : Bool :=
  cs.all isAscii &&
    (Text.splitChars (· == '.') (cs.map Char.toLower)).all fun l => (afterMark? l).isNone

def toAscii? (cs : List Char) : Option (List Char) :=
  if isPlain cs then some (cs.map Char.toLower)
  else do
    let name ← mapped? cs
    let labels ← (Text.splitChars (· == '.') name).mapM Label.of?
    if labels.all Label.isValid && areReadable (labels.map (·.plain)) then some (join labels)
    else none

end ApiTypings.Url.Domain
