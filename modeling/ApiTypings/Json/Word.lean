import ApiTypings.Json.Reader

/-!
# Members that are passed over

Of some objects only a few members are wanted. What the others hold has to be JSON by
the grammar, but it is not read: a number may have any size, a string may hold half of
a surrogate pair, and nesting has no limit.

A text is cut into words, which are the tokens and those strings and numbers that have
no token. Only what is wanted needs a token for each word.
-/

namespace ApiTypings.Json

/-- A word of a text. -/
inductive Word where
  | token (t : Token)
  /-- A string with half of a surrogate pair in it. -/
  | brokenText
  /-- A number beyond all floating point numbers. -/
  | hugeNumber

namespace Word

def token? : Word → Option Token
  | .token t => some t
  | _ => none

/-- The token that a word counts as where it is passed over. -/
def outline : Word → Token
  | .token t => t
  | .brokenText => .text ""
  | .hugeNumber => .scalar (.int 0)

/-! ## Cutting a text into words -/

/-- What follows the closing quote of a string; the input starts after the opening
quote. What a code unit stands for does not matter. -/
def skipString : List Char → Option (List Char)
  | [] => none
  | '"' :: rest => some rest
  | '\\' :: 'u' :: a :: b :: c :: d :: rest =>
    if [a, b, c, d].all fun x => (Token.hexValue? x).isSome then skipString rest else none
  | '\\' :: c :: rest => if (Token.letterEscape? c).isSome then skipString rest else none
  | c :: rest => if c.toNat < 0x20 then none else skipString rest

theorem skipString_length {cs rest : List Char} (h : skipString cs = some rest) :
    rest.length < cs.length := by
  fun_induction skipString cs with
  | case2 => simp_all
  | case3 _ _ _ _ _ _ ih => have := ih h; simp only [List.length_cons]; omega
  | case5 _ _ _ _ ih => have := ih h; simp only [List.length_cons]; omega
  | case8 _ _ _ _ _ _ ih => have := ih h; simp only [List.length_cons]; omega
  | _ => simp at h

/-- The next word of a text that starts with neither space nor end. -/
def next (cs : List Char) : Option (Word × List Char) :=
  match Token.next cs with
  | some (t, rest) => some (.token t, rest)
  | none =>
    match cs with
    | '"' :: rest => (skipString rest).map (.brokenText, ·)
    | _ => (Token.readNumeral cs).map fun (_, rest) => (.hugeNumber, rest)

theorem next_length {cs rest : List Char} {w : Word} (h : next cs = some (w, rest)) :
    rest.length < cs.length := by
  unfold next at h
  split at h
  · next hnext =>
    cases h
    exact Token.next_length hnext
  · split at h
    · obtain ⟨_, hskip, heq⟩ := Option.map_eq_some_iff.mp h
      cases heq
      exact Nat.lt_succ_of_lt (skipString_length hskip)
    · obtain ⟨_, hread, heq⟩ := Option.map_eq_some_iff.mp h
      cases heq
      exact Token.readNumeral_length hread

def scan (cs : List Char) : Option (List Word) :=
  match cs with
  | [] => some []
  | c :: rest =>
    if Token.isSpace c then scan rest
    else
      match _h : next (c :: rest) with
      | none => none
      | some (w, r) => (scan r).map (w :: ·)
termination_by cs.length
decreasing_by
  · simp
  · simpa using next_length _h

/-! ## Reading words -/

/-- Whether words are a value by the grammar. -/
def isValue (ws : List Word) : Bool :=
  (build ws.length (ws.map outline) (.value false) []).isSome

/-- The value of words that all have tokens, nested at most `limit` deep. -/
def value? (limit : Nat) (ws : List Word) : Option Json :=
  (ws.mapM token?).bind fun ts => build limit ts (.value false) []

/-- How many arrays and objects are open behind a word. -/
def depth (before : Nat) : Word → Nat
  | .token .openArray => before + 1
  | .token .openObject => before + 1
  | .token .closeArray => before - 1
  | .token .closeObject => before - 1
  | _ => before

/-- The words of an object behind its opening brace, cut at the commas between its
members. -/
def cut : Nat → List Word → List (List Word)
  | _, [] => []
  | 0, .token .comma :: ws => [] :: cut 0 ws
  | 0, .token .closeObject :: _ => []
  | before, w :: ws =>
    match cut (w.depth before) ws with
    | [] => [[w]]
    | part :: parts => (w :: part) :: parts

/-- The key of a member and the words of its value. -/
def member? : List Word → Option (String × List Word)
  | .token (.text key) :: _ :: value => some (key, value)
  | _ => none

/-- The members under the wanted keys, from the words behind the opening brace. -/
def members? (keys : List String) (ws : List Word) : Option (List (String × Json)) := do
  let members ← (cut 0 ws).mapM member?
  (members.filter (keys.contains ·.1)).mapM fun m =>
    (value? (maxNesting - 1) m.2).map (m.1, ·)

/-- The value of words. Of an object it has the members under the wanted keys. -/
def only? (keys : List String) : List Word → Option Json
  | .token .openObject :: rest => (members? keys rest).map .object
  | ws => value? maxNesting ws

end Word

/-- The value a text denotes. Of an object it has the members under the given keys, and
the others are passed over. -/
def readOnly (keys : List String) (text : String) : Option Json :=
  (Word.scan text.toList).bind fun ws =>
    if Word.isValue ws then Word.only? keys ws else none

end ApiTypings.Json
