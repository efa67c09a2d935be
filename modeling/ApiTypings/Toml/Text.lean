import ApiTypings.Url.Percent

/-!
# Texts, names and integers in TOML

A text stands between quotation marks, single or threefold, double or simple.
Between double ones a backslash escapes; between simple ones every character
stands for itself. Threefold marks allow line breaks, drop one right after the
opening mark, and leave up to two marks in front of the closing ones to the text.

All functions expect input without carriage returns and control characters other
than tab and line feed, which `clean?` provides.
-/

namespace ApiTypings.Toml

/-- Line ends as line feeds. Other control characters, the tab aside, are refused. -/
def clean? : List Char → Option (List Char)
  | [] => some []
  | '\r' :: '\n' :: rest => (clean? rest).map ('\n' :: ·)
  | c :: rest =>
    if c == '\t' || c == '\n' || (0x20 ≤ c.toNat && c.toNat ≠ 0x7F) then (clean? rest).map (c :: ·)
    else none

def isBlank (c : Char) : Bool := c == ' ' || c == '\t'

def letterEscape? (c : Char) : Option Char :=
  if c == '"' || c == '\\' then some c
  else if c == 'b' then some '\x08'
  else if c == 'f' then some '\x0c'
  else if c == 'n' then some '\n'
  else if c == 'r' then some '\r'
  else if c == 't' then some '\t'
  else none

/-- The character with a hexadecimal number. -/
def scalar? (digits : List Char) : Option Char := do
  let n ← digits.foldlM (fun n c => (Url.Percent.hexValue? c).map (n * 16 + ·)) 0
  if n < 0xD800 || (0xDFFF < n && n ≤ 0x10FFFF) then some (Char.ofNat n) else none

/-- A backslash at the end of a line, blanks aside, joins it to the next text. -/
def joinsLines (cs : List Char) : Bool := (cs.dropWhile isBlank).head? == some '\n'

/-- Replaces escapes. Joining lines skips blanks and line breaks, which is what
happens first while `skipping`. -/
def unescape (skipping : Bool) : List Char → Option (List Char)
  | [] => some []
  | '\\' :: 'u' :: a :: b :: c :: d :: rest => do
    some ((← scalar? [a, b, c, d]) :: (← unescape false rest))
  | '\\' :: 'U' :: a :: b :: c :: d :: e :: f :: g :: h :: rest => do
    some ((← scalar? [a, b, c, d, e, f, g, h]) :: (← unescape false rest))
  | '\\' :: c :: rest =>
    if joinsLines (c :: rest) then unescape true rest
    else (letterEscape? c).bind fun d => (unescape false rest).map (d :: ·)
  | c :: rest =>
    if skipping && (isBlank c || c == '\n') then unescape true rest
    else if c == '\\' then none
    else (unescape false rest).map (c :: ·)

/-- Cuts a text at its closing double mark, leaving escapes as they are. -/
def cutBasic : List Char → Option (List Char × List Char)
  | [] => none
  | '"' :: rest => some ([], rest)
  | '\\' :: c :: rest => (cutBasic rest).map fun (s, r) => ('\\' :: c :: s, r)
  | c :: rest => (cutBasic rest).map fun (s, r) => (c :: s, r)

/-- Cuts a text at its closing threefold double mark. -/
def cutLongBasic : List Char → Option (List Char × List Char)
  | [] => none
  | '"' :: '"' :: '"' :: '"' :: '"' :: rest => some (['"', '"'], rest)
  | '"' :: '"' :: '"' :: '"' :: rest => some (['"'], rest)
  | '"' :: '"' :: '"' :: rest => some ([], rest)
  | '\\' :: c :: rest => (cutLongBasic rest).map fun (s, r) => ('\\' :: c :: s, r)
  | c :: rest => (cutLongBasic rest).map fun (s, r) => (c :: s, r)

/-- Cuts a text at its closing simple mark. -/
def cutLiteral : List Char → Option (List Char × List Char)
  | [] => none
  | '\'' :: rest => some ([], rest)
  | c :: rest => (cutLiteral rest).map fun (s, r) => (c :: s, r)

/-- Cuts a text at its closing threefold simple mark. -/
def cutLongLiteral : List Char → Option (List Char × List Char)
  | [] => none
  | '\'' :: '\'' :: '\'' :: '\'' :: '\'' :: rest => some (['\'', '\''], rest)
  | '\'' :: '\'' :: '\'' :: '\'' :: rest => some (['\''], rest)
  | '\'' :: '\'' :: '\'' :: rest => some ([], rest)
  | c :: rest => (cutLongLiteral rest).map fun (s, r) => (c :: s, r)

def oneLine? (s : List Char) : Option String :=
  if s.contains '\n' then none else some (.ofList s)

/-- Drops a line break at the start. -/
def withoutFirstBreak : List Char → List Char
  | '\n' :: rest => rest
  | cs => cs

/-- A text of one line, in either kind of marks. -/
def readShortText : List Char → Option (String × List Char)
  | '"' :: rest => do
    let (s, rest) ← cutBasic rest
    let raw ← oneLine? s
    let s ← unescape false raw.toList
    some (.ofList s, rest)
  | '\'' :: rest => do
    let (s, rest) ← cutLiteral rest
    some (← oneLine? s, rest)
  | _ => none

/-- A text in any of the four forms. -/
def readText : List Char → Option (String × List Char)
  | '"' :: '"' :: '"' :: rest => do
    let (s, rest) ← cutLongBasic (withoutFirstBreak rest)
    let s ← unescape false s
    some (.ofList s, rest)
  | '\'' :: '\'' :: '\'' :: rest =>
    (cutLongLiteral (withoutFirstBreak rest)).map fun (s, rest) => (.ofList s, rest)
  | cs => readShortText cs

def isBare (c : Char) : Bool := c.isAlphanum || c == '_' || c == '-'

def readName (cs : List Char) : Option (String × List Char) :=
  let bare := cs.takeWhile isBare
  if bare.isEmpty then readShortText cs else some (.ofList bare, cs.dropWhile isBare)

/-- The value of digits, between which single underscores may stand. -/
def digits? (base : Nat) (cs : List Char) : Option Nat := do
  let value? (c : Char) : Option Nat := (Url.Percent.hexValue? c).filter (· < base)
  let rec go (n : Nat) : List Char → Option Nat
    | [] => some n
    | '_' :: c :: rest => (value? c).bind fun d => go (n * base + d) rest
    | c :: rest => (value? c).bind fun d => go (n * base + d) rest
  match cs with
  | [] => none
  | c :: rest => (value? c).bind fun d => go d rest

/-- A decimal number without a sign. Leading zeros are refused. -/
def decimal? (cs : List Char) : Option Nat :=
  if cs.head? == some '0' && 1 < cs.length then none else digits? 10 cs

/-- An integer of 64 bits. A sign goes with decimal numbers only. -/
def integer? (cs : List Char) : Option Int :=
  let n : Option Int :=
    match cs with
    | '0' :: 'x' :: rest => (digits? 16 rest).map Int.ofNat
    | '0' :: 'o' :: rest => (digits? 8 rest).map Int.ofNat
    | '0' :: 'b' :: rest => (digits? 2 rest).map Int.ofNat
    | '+' :: rest => (decimal? rest).map Int.ofNat
    | '-' :: rest => (decimal? rest).map fun n => -(n : Int)
    | _ => (decimal? cs).map Int.ofNat
  n.filter fun n => -(Int.pow 2 63) ≤ n && n < Int.pow 2 63

end ApiTypings.Toml
