import ApiTypings.Client
import ApiTypings.Number.Decimal

/-!
# HTTP messages

What is sent to a server to ask for a URL, and how its answer is taken apart. The
server is asked to close the connection, so an answer ends where the bytes end,
unless it says itself how long its body is or sends it in chunks. An answer that
cannot be taken apart counts as no answer.
-/

namespace ApiTypings.Http

abbrev Bytes := List UInt8

def requestTarget (u : Url) : String := u.path.text ++ Url.marked "?" u.query

/-- The host as a request names it, with the port unless it is the usual one. -/
def hostText (a : Authority) : String := { a with user := "", password := "" : Authority }.text

def requestText (u : Url) (a : Authority) : String :=
  "GET " ++ requestTarget u ++ " HTTP/1.1\r\nHost: " ++ hostText a ++
    "\r\nAccept: */*\r\nConnection: close\r\n\r\n"

def splitLine : Bytes → Option (Bytes × Bytes)
  | [] => none
  | 13 :: 10 :: rest => some ([], rest)
  | b :: rest => (splitLine rest).map fun (line, r) => (b :: line, r)

/-- The characters of a line of the head. -/
def lineChars (line : Bytes) : List Char := line.map fun b => Char.ofNat b.toNat

/-- The lines before the first empty one, of which there are fewer than `fuel`, and
what follows it. -/
def splitHead : Nat → Bytes → Option (List (List Char) × Bytes)
  | 0, _ => none
  | fuel + 1, bytes =>
    match splitLine bytes with
    | none => none
    | some ([], rest) => some ([], rest)
    | some (line, rest) => (splitHead fuel rest).map fun (lines, r) => (lineChars line :: lines, r)

def status? (line : List Char) : Option Nat :=
  match Text.splitChars (· == ' ') line with
  | _ :: code :: _ => Number.natural? 999 (.ofList code)
  | _ => none

def header? (name : String) (lines : List (List Char)) : Option String :=
  lines.findSome? fun line =>
    match Text.splitFirst (· == ':') line with
    | (key, some value) =>
      if Text.lowerAscii (.ofList key) == name then some (Text.trim (.ofList value)) else none
    | _ => none

/-- The length of a chunk, in hexadecimal digits before the first semicolon. -/
def chunkLength? (line : List Char) : Option Nat :=
  let digits := (Text.trimChars (Text.splitFirst (· == ';') line).1)
  if digits.isEmpty then none
  else digits.foldlM (fun n c => (Url.Percent.hexValue? c).map (n * 16 + ·)) 0

/-- The chunks of a body, of which there are fewer than `fuel`, put together. -/
def joinChunks : Nat → Bytes → Option Bytes
  | 0, _ => none
  | fuel + 1, bytes =>
    match splitLine bytes with
    | none => none
    | some (line, rest) =>
      match chunkLength? (lineChars line) with
      | none => none
      | some 0 => some []
      | some n =>
        match splitLine (rest.drop n) with
        | some ([], after) => (joinChunks fuel after).map (rest.take n ++ ·)
        | _ => none

/-- The body of an answer with the given header fields. -/
def body? (lines : List (List Char)) (bytes : Bytes) : Option Bytes :=
  if (header? "transfer-encoding" lines).map Text.lowerAscii == some "chunked" then
    joinChunks (bytes.length + 1) bytes
  else
    match header? "content-length" lines with
    | none => some bytes
    | some length =>
      match Number.natural? bytes.length length with
      | some n => some (bytes.take n)
      | none => none

/-- The answer that bytes amount to, if they do. A body that is not text is empty. -/
def reply (bytes : Bytes) : Reply :=
  match splitHead (bytes.length + 1) bytes with
  | some (first :: lines, rest) =>
    match status? first, body? lines rest with
    | some status, some body => .answer status ((String.fromUTF8? ⟨body.toArray⟩).getD "")
    | _, _ => .none
  | _ => .none

end ApiTypings.Http
