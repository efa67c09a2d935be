import ApiTypings.Url.Domain
import ApiTypings.Url.Error
import ApiTypings.Url.Percent

/-!
# Hosts

The host of a web address is a domain name in its ASCII form, an IPv4 address (also
when written in octal, in hexadecimal or with fewer than four parts), or an IPv6
address in brackets. The host of any other URL is kept as written, percent encoded.
-/

namespace ApiTypings.Url.Host

open Percent

/-- Not allowed in any host. -/
def isForbidden (c : Char) : Bool :=
  c == '\x00' || "\t\n\r #/:<>?@[\\]^|".toList.contains c

/-- Not allowed in a domain name. -/
def isForbiddenInDomain (c : Char) : Bool :=
  isForbidden c || c.toNat ≤ 0x1F || c == '%' || c.toNat == 0x7F

def numeralOf (cs : List Char) : Nat × List Char :=
  match cs with
  | '0' :: 'x' :: rest => (16, rest)
  | '0' :: 'X' :: rest => (16, rest)
  | '0' :: c :: rest => (8, c :: rest)
  | _ => (10, cs)

def part? (cs : List Char) : Option Nat :=
  if cs.isEmpty then none
  else
    let (base, digits) := numeralOf cs
    digits.foldlM (fun n c =>
      match hexValue? c with
      | some d => if d < base then some (n * base + d) else none
      | none => none) 0

/-- The parts of an address or name, an empty one at the end aside. -/
def parts (cs : List Char) : List (List Char) :=
  let ps := Text.splitChars (· == '.') cs
  match ps.getLast? with
  | some [] => if 1 < ps.length then ps.dropLast else ps
  | _ => ps

/-- Whether a name has to be an IPv4 address. -/
def endsInNumber (cs : List Char) : Bool :=
  match (parts cs).getLast? with
  | none => false
  | some last => (!last.isEmpty && last.all Char.isDigit) || (part? last).isSome

/-- The value of an IPv4 address. The last part fills what the others leave. -/
def ipv4? (cs : List Char) : Option Nat := do
  let numbers ← (parts cs).mapM part?
  let last ← numbers.getLast?
  let first := numbers.dropLast
  if 3 < first.length || first.any (255 < ·) || Nat.pow 256 (4 - first.length) ≤ last then none
  else
    let high := first.foldl (fun n d => n * 256 + d) 0
    some (high * Nat.pow 256 (4 - first.length) + last)

def ipv4Text (n : Nat) : String :=
  Text.join "." ([n / Nat.pow 256 3 % 256, n / Nat.pow 256 2 % 256, n / 256 % 256, n % 256].map toString)

def group? (cs : List Char) : Option Nat :=
  if cs.isEmpty || 4 < cs.length then none
  else cs.foldlM (fun n c => (hexValue? c).map (n * 16 + ·)) 0

/-- The last four bytes in decimal, as two groups. -/
def dotted? (cs : List Char) : Option (List Nat) := do
  let ps := Text.splitChars (· == '.') cs
  if ps.length ≠ 4 then none
  else
    let ns ← ps.mapM fun p =>
      if p.isEmpty || !p.all Char.isDigit || (p.length > 1 && p.head? == some '0') then none
      else
        let n := p.foldl (fun n c => n * 10 + (c.toNat - '0'.toNat)) 0
        if n ≤ 255 then some n else none
    match ns with
    | [a, b, c, d] => some [a * 256 + b, c * 256 + d]
    | _ => none

/-- Groups between colons; the last may be two groups in decimal. -/
def groups? : List (List Char) → Option (List Nat)
  | [] => some []
  | [p] => if p.contains '.' then dotted? p else (group? p).map ([·])
  | p :: q :: rest => do some ((← group? p) :: (← groups? (q :: rest)))

/-- The groups of a part of an IPv6 address, which may be empty. -/
def side? (cs : List Char) : Option (List Nat) :=
  if cs.isEmpty then some [] else groups? (Text.splitChars (· == ':') cs)

/-- Splits at the first double colon. -/
def splitDouble : List Char → Option (List Char × List Char)
  | [] => none
  | ':' :: ':' :: rest => some ([], rest)
  | c :: rest => (splitDouble rest).map fun (a, b) => (c :: a, b)

/-- The eight groups of an IPv6 address. A double colon stands for one or more
groups of zero. -/
def ipv6? (cs : List Char) : Option (List Nat) :=
  match splitDouble cs with
  | none => do
    let gs ← side? cs
    if gs.length = 8 then some gs else none
  | some (a, b) => do
    if a.contains '.' then none
    else
      let before ← side? a
      let after ← side? b
      let n := before.length + after.length
      if n < 8 then some (before ++ List.replicate (8 - n) 0 ++ after) else none

/-- How many zeros a list starts with. -/
def leadingZeros (gs : List Nat) : Nat := (gs.takeWhile (· == 0)).length

/-- Where the longest run of zeros starts, the first of several, and its length. -/
def longestZeros : List Nat → Nat → Nat × Nat
  | [], _ => (0, 0)
  | g :: rest, start =>
    let here := leadingZeros (g :: rest)
    let (s, n) := longestZeros rest (start + 1)
    if n ≤ here && 0 < here then (start, here) else (s, n)

def groupText (n : Nat) : String := .ofList (Nat.toDigits 16 n)

/-- An IPv6 address, the longest run of at least two zeros written as `::`. -/
def ipv6Text (gs : List Nat) : String :=
  let (start, n) := longestZeros gs 0
  if n < 2 then Text.join ":" (gs.map groupText)
  else
    Text.join ":" ((gs.take start).map groupText) ++ "::" ++
      Text.join ":" ((gs.drop (start + n)).map groupText)

/-- The host of a web address. -/
def ofDomain (cs : List Char) : Except UrlError String :=
  let bytes : ByteArray := ⟨(decode cs).toArray⟩
  match (String.fromUTF8? bytes).bind (Domain.toAscii? ·.toList) with
  | none => .error .badDomain
  | some domain =>
    if domain.any isForbiddenInDomain then .error .badDomain
    else if domain.isEmpty then .error .emptyHost
    else if endsInNumber domain then
      match ipv4? domain with
      | some n => .ok (ipv4Text n)
      | none => .error .badIpv4
    else .ok (.ofList domain)

def parse (special : Bool) (cs : List Char) : Except UrlError String :=
  match cs with
  | '[' :: rest =>
    if rest.getLast? == some ']' then
      match ipv6? rest.dropLast with
      | some gs => .ok ("[" ++ ipv6Text gs ++ "]")
      | none => .error .badIpv6
    else .error .badIpv6
  | _ =>
    if special then ofDomain cs
    else if cs.any isForbidden then .error .badHostCharacter
    else .ok (.ofList (encode isPlain cs))

end ApiTypings.Url.Host
