import ApiTypings.Text.Basic

/-!
# Percent encoding

A character is kept or written as its UTF-8 bytes, each as a percent sign and two
upper case hexadecimal digits. Which characters are kept depends on the part of
the URL. A percent sign is itself kept in all parts, so encoding twice changes
nothing more.
-/

namespace ApiTypings.Url.Percent

def hexDigit (n : Nat) : Char := Char.ofNat (if n < 10 then n + 48 else n + 55)

/-- A byte as a percent sign and two digits. -/
def encodeByte (b : UInt8) : List Char :=
  ['%', hexDigit (b.toNat / 16), hexDigit (b.toNat % 16)]

/-- One character, kept or encoded. -/
def encodeChar (keep : Char → Bool) (c : Char) : List Char :=
  if keep c then [c] else (String.utf8EncodeChar c).flatMap encodeByte

/-- All characters, each kept or encoded. -/
def encode (keep : Char → Bool) (cs : List Char) : List Char := cs.flatMap (encodeChar keep)

/-- ASCII characters that are not controls. -/
def isPlain (c : Char) : Bool := 0x1F < c.toNat && c.toNat < 0x7F

def inFragment (c : Char) : Bool := isPlain c && !" \"<>\x60".toList.contains c

/-- Kept in queries. In those of web addresses a single quote is not. -/
def inQuery (special : Bool) (c : Char) : Bool :=
  isPlain c && !" \"#<>".toList.contains c && !(special && c == '\'')

/-- Kept in the segments of a path. -/
def inPath (c : Char) : Bool := inFragment c && !"#?\x7b\x7d".toList.contains c

/-- Kept in user names and passwords. -/
def inUserInfo (c : Char) : Bool := inPath c && !"/:;=@[\\]^|".toList.contains c

def hexValue? (c : Char) : Option Nat :=
  if c.isDigit then some (c.toNat - '0'.toNat)
  else if 'a' ≤ c && c ≤ 'f' then some (c.toNat - 'a'.toNat + 10)
  else if 'A' ≤ c && c ≤ 'F' then some (c.toNat - 'A'.toNat + 10)
  else none

/-- The bytes of a text, percent signs with two digits replaced by the byte they
stand for. -/
def decode : List Char → List UInt8
  | [] => []
  | '%' :: a :: b :: rest =>
    match hexValue? a, hexValue? b with
    | some m, some n => UInt8.ofNat (m * 16 + n) :: decode rest
    | _, _ => String.utf8EncodeChar '%' ++ decode (a :: b :: rest)
  | c :: rest => String.utf8EncodeChar c ++ decode rest

end ApiTypings.Url.Percent
