/-!
# Blanks, words and joins

The operations on text that the rest of the library shares. A blank is a
character with the Unicode property `White_Space`; this differs from the blanks
of `Char.isWhitespace`, which are ASCII only. Characters that merely look empty
(zero width space, byte order mark) are not blanks.
-/

namespace ApiTypings.Text

/-- The property `White_Space`, complete since Unicode 6.3. -/
def isBlank (c : Char) : Bool :=
  let n := c.toNat
  (0x09 ≤ n && n ≤ 0x0D) || n == 0x20 || n == 0x85 || n == 0xA0 || n == 0x1680 ||
    (0x2000 ≤ n && n ≤ 0x200A) || n == 0x2028 || n == 0x2029 || n == 0x202F ||
    n == 0x205F || n == 0x3000

/-- Blanks at the end are dropped. -/
def trimRight : List Char → List Char
  | [] => []
  | c :: cs =>
    match trimRight cs with
    | [] => if isBlank c then [] else [c]
    | d :: ds => c :: d :: ds

/-- Blanks at both ends are dropped. -/
def trimChars (cs : List Char) : List Char := trimRight (cs.dropWhile isBlank)

/-- The text without the blanks at its ends. -/
def trim (s : String) : String := .ofList (trimChars s.toList)

/-- A text is blank when trimming leaves nothing of it. -/
def isBlankText (s : String) : Bool := s.toList.all isBlank

/-- The pieces between the characters that satisfy `sep`, empty pieces included.
There is always one more piece than there are separators. -/
def splitChars (sep : Char → Bool) : List Char → List (List Char)
  | [] => [[]]
  | c :: cs =>
    if sep c then [] :: splitChars sep cs
    else
      match splitChars sep cs with
      | [] => [[c]]
      | p :: ps => (c :: p) :: ps

def split (sep : Char → Bool) (s : String) : List String :=
  (splitChars sep s.toList).map .ofList

/-- What stands before the first character that satisfies a test and what stands
after it. -/
def splitFirst (p : Char → Bool) (cs : List Char) : List Char × Option (List Char) :=
  match cs.dropWhile (!p ·) with
  | [] => (cs, none)
  | _ :: rest => (cs.takeWhile (!p ·), some rest)

/-- The maximal runs of characters that are not blanks. -/
def words (s : String) : List String :=
  (((splitChars isBlank s.toList).filter (!·.isEmpty)).map .ofList)

/-- The given texts in order, with `sep` between neighbours. -/
def join (sep : String) : List String → String
  | [] => ""
  | [x] => x
  | x :: y :: rest => x ++ sep ++ join sep (y :: rest)

/-- All words on one line, one space between them; so a line comment holds it. -/
def singleLine (s : String) : String := join " " (words s)

/-- ASCII letters in lower case; every other character stays. -/
def lowerAscii (s : String) : String := .ofList (s.toList.map Char.toLower)

/-- The text with spaces before it, at least `width` characters long. -/
def padLeft (width : Nat) (s : String) : String :=
  .ofList (List.replicate (width - s.length) ' ') ++ s

/-- The text with spaces after it, at least `width` characters long. -/
def padRight (width : Nat) (s : String) : String :=
  s ++ .ofList (List.replicate (width - s.length) ' ')

/-- The text unless it is blank. -/
def nonBlank? (s : String) : Option String := if isBlankText s then none else some s

end ApiTypings.Text
