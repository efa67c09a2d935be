import ApiTypings.Proofs.JsonLexemes
import ApiTypings.Proofs.JsonRoundTrip
import Mathlib.Data.List.Chain

/-!
# JSON documents

A document of RFC 8259 is a tree of values as they are written, and a text is a document if it is
made of the words of the tree. What a document denotes is a value, unless a number in it is beyond
all floating point numbers or a string has half of a surrogate pair. How deep arrays and objects
are nested plays no part in that.

The reader makes of a document what it denotes, up to its limit for the nesting, and nothing above.
Its stack is as high as the nesting around the point it has reached, and what it has put together
so far is nested no deeper than the limit leaves room for; so nothing that is nested too deep comes
out. That every document below the limit does come out is known for tokens already.
-/

namespace ApiTypings.Json

/-! ## Documents -/

/-- A value as it is written. -/
inductive Document where
  | null
  | bool (b : Bool)
  | number (x : Token.Numeral)
  | string (ps : List Piece)
  | array (items : List Document)
  | object (members : List (List Piece × Document))

namespace Document

@[elab_as_elim]
theorem induction {P : Document → Prop} (null : P .null) (bool : ∀ b, P (.bool b))
    (number : ∀ x, P (.number x)) (string : ∀ ps, P (.string ps))
    (array : ∀ items, (∀ d ∈ items, P d) → P (.array items))
    (object : ∀ members : List (List Piece × Document), (∀ m ∈ members, P m.2) →
      P (.object members))
    (d : Document) : P d :=
  @Document.rec P (fun items => ∀ d ∈ items, P d) (fun members => ∀ m ∈ members, P m.2)
    (fun m => P m.2) null bool number string array object
    (List.forall_mem_nil _) (fun _ _ hd hrest => List.forall_mem_cons.mpr ⟨hd, hrest⟩)
    (List.forall_mem_nil _) (fun _ _ hm hrest => List.forall_mem_cons.mpr ⟨hm, hrest⟩)
    (fun _ _ hd => hd) d

mutual
/-- The words that a document is written in. -/
def lexemes : Document → List Lexeme
  | .null => [.word .null]
  | .bool b => [.word (.bool b)]
  | .number x => [.number x]
  | .string ps => [.string ps]
  | .array items =>
    .mark .openArray :: [Lexeme.mark .comma].intercalate (itemLexemes items) ++ [.mark .closeArray]
  | .object members =>
    .mark .openObject :: [Lexeme.mark .comma].intercalate (memberLexemes members) ++
      [.mark .closeObject]

def itemLexemes : List Document → List (List Lexeme)
  | [] => []
  | d :: rest => d.lexemes :: itemLexemes rest

def memberLexemes : List (List Piece × Document) → List (List Lexeme)
  | [] => []
  | (key, d) :: rest => (.string key :: .mark .colon :: d.lexemes) :: memberLexemes rest
end

mutual
/-- The value that a document denotes. -/
def value? : Document → Option Json
  | .null => some .null
  | .bool b => some (.bool b)
  | .number x => x.value?
  | .string ps => (Piece.chars? ps).map fun s => .text (.ofList s)
  | .array items => (itemValues? items).map .array
  | .object members => (memberValues? members).map .object

def itemValues? : List Document → Option (List Json)
  | [] => some []
  | d :: rest => do
    let v ← d.value?
    let vs ← itemValues? rest
    some (v :: vs)

def memberValues? : List (List Piece × Document) → Option (List (String × Json))
  | [] => some []
  | (key, d) :: rest => do
    let s ← Piece.chars? key
    let v ← d.value?
    let members ← memberValues? rest
    some ((.ofList s, v) :: members)
end

/-- The member that a member of an object denotes. -/
def memberValue? (m : List Piece × Document) : Option (String × Json) := do
  let s ← Piece.chars? m.1
  let v ← m.2.value?
  some (.ofList s, v)

mutual
/-- How many arrays and objects lie around the innermost part of a document. -/
def nesting : Document → Nat
  | .array items => itemNesting items + 1
  | .object members => memberNesting members + 1
  | _ => 0

def itemNesting : List Document → Nat
  | [] => 0
  | d :: rest => max d.nesting (itemNesting rest)

def memberNesting : List (List Piece × Document) → Nat
  | [] => 0
  | (_, d) :: rest => max d.nesting (memberNesting rest)
end

/-- The texts of a document. -/
def Spells (d : Document) (text : String) : Prop := Lexeme.SpellsAll d.lexemes text.toList

theorem itemLexemes_eq_map (items : List Document) : itemLexemes items = items.map lexemes := by
  induction items with
  | nil => rfl
  | cons d rest ih => rw [itemLexemes, ih, List.map_cons]

def memberWords (m : List Piece × Document) : List Lexeme :=
  .string m.1 :: .mark .colon :: m.2.lexemes

theorem memberLexemes_eq_map (members : List (List Piece × Document)) :
    memberLexemes members = members.map memberWords := by
  induction members with
  | nil => rfl
  | cons m rest ih =>
    rw [memberLexemes, ih, List.map_cons]
    rfl

theorem itemValues?_eq_mapM (items : List Document) : itemValues? items = items.mapM value? := by
  induction items with
  | nil => rfl
  | cons d rest ih =>
    rw [itemValues?, ih, List.mapM_cons]
    rfl

theorem memberValues?_eq_mapM (members : List (List Piece × Document)) :
    memberValues? members = members.mapM memberValue? := by
  induction members with
  | nil => rfl
  | cons m rest ih =>
    rw [memberValues?, ih, List.mapM_cons, memberValue?]
    cases Piece.chars? m.1 with
    | none => rfl
    | some s => cases m.2.value? <;> rfl

/-! ## The words of a document -/

theorem separated_mark (t : Token) {l l' : List Lexeme} (h : Lexeme.Separated l)
    (h' : Lexeme.Separated l') : Lexeme.Separated (l ++ .mark t :: l') := by
  refine List.isChain_append.mpr ⟨h, List.isChain_cons.mpr ⟨?_, h'⟩, ?_⟩
  · intro word _ hnumber
    cases hnumber
  · intro _ _ word hword _
    cases hword
    rfl

theorem separated_intercalate {α : Type} {f : α → List Lexeme} {xs : List α}
    (h : ∀ x ∈ xs, Lexeme.Separated (f x)) :
    Lexeme.Separated ([Lexeme.mark .comma].intercalate (xs.map f)) := by
  induction xs with
  | nil => exact .nil
  | cons x xs ih =>
    obtain ⟨hx, hxs⟩ := List.forall_mem_cons.mp h
    cases xs with
    | nil => simpa using hx
    | cons y xs =>
      have hwords : [Lexeme.mark .comma].intercalate ((x :: y :: xs).map f) =
          f x ++ .mark .comma :: [Lexeme.mark .comma].intercalate ((y :: xs).map f) := by
        simp [List.intercalate_cons_cons]
      rw [hwords]
      exact separated_mark _ hx (ih hxs)

/-- In a document a number stands before a mark or at the end. -/
theorem separated_lexemes (d : Document) : Lexeme.Separated d.lexemes := by
  induction d using Document.induction with
  | array items ih =>
    rw [lexemes, itemLexemes_eq_map]
    exact separated_mark (l := []) _ .nil (separated_mark _ (separated_intercalate ih) .nil)
  | object members ih =>
    have hmember : ∀ m ∈ members, Lexeme.Separated (memberWords m) := fun m hm =>
      separated_mark (l := [.string m.1]) _ (.singleton _) (ih m hm)
    rw [lexemes, memberLexemes_eq_map]
    exact separated_mark (l := []) _ .nil
      (separated_mark _ (separated_intercalate hmember) .nil)
  | _ => exact .singleton _

section Option

variable {α β γ : Type} {f : α → Option β}

theorem mapM_cons_eq (x : α) (xs : List α) :
    (x :: xs).mapM f = (f x).bind fun y => (xs.mapM f).map (y :: ·) := by
  rw [List.mapM_cons]
  cases f x with
  | none => rfl
  | some y => cases xs.mapM f <;> rfl

theorem mapM_append_eq (xs ys : List α) :
    (xs ++ ys).mapM f = (xs.mapM f).bind fun as => (ys.mapM f).map (as ++ ·) := by
  rw [List.mapM_append]
  cases xs.mapM f with
  | none => rfl
  | some as => cases ys.mapM f <;> rfl

theorem mapM_map (g : β → γ) (xs : List α) :
    xs.mapM (fun x => (f x).map g) = (xs.mapM f).map (List.map g) := by
  induction xs with
  | nil => rfl
  | cons x xs ih =>
    rw [mapM_cons_eq, mapM_cons_eq, ih]
    cases f x with
    | none => rfl
    | some y => cases xs.mapM f <;> rfl

end Option

theorem mapM_mark (t : Token) (ls : List Lexeme) :
    (Lexeme.mark t :: ls).mapM Lexeme.token? = (ls.mapM Lexeme.token?).map (t :: ·) :=
  mapM_cons_eq ..

theorem mapM_intercalate {α β : Type} {f : α → List Lexeme} {g : α → Option β}
    {tokens : β → List Token} {xs : List α}
    (h : ∀ x ∈ xs, (f x).mapM Lexeme.token? = (g x).map tokens) :
    ([Lexeme.mark .comma].intercalate (xs.map f)).mapM Lexeme.token? =
      (xs.mapM g).map fun ys => [Token.comma].intercalate (ys.map tokens) := by
  induction xs with
  | nil => rfl
  | cons x xs ih =>
    obtain ⟨hx, hxs⟩ := List.forall_mem_cons.mp h
    cases xs with
    | nil =>
      rw [List.map_singleton, List.intercalate_singleton, hx, mapM_cons_eq]
      cases g x <;> simp
    | cons y xs =>
      have hwords : [Lexeme.mark .comma].intercalate ((x :: y :: xs).map f) =
          f x ++ .mark .comma :: [Lexeme.mark .comma].intercalate ((y :: xs).map f) := by
        simp [List.intercalate_cons_cons]
      rw [hwords, mapM_append_eq, mapM_mark, hx, ih hxs, mapM_cons_eq x, mapM_cons_eq]
      cases g x with
      | none => rfl
      | some a =>
        cases g y with
        | none => rfl
        | some b => cases xs.mapM g <;> simp [List.intercalate_cons_cons]

/-- A number denotes an integer or a floating point number. -/
theorem value?_numeral {x : Token.Numeral} {v : Json} (h : x.value? = some v) :
    (∃ n, v = .int n) ∨ ∃ y, v = .double y := by
  unfold Token.Numeral.value? at h
  dsimp only at h
  split at h
  · exact .inl ⟨_, (Option.some.inj h).symm⟩
  · obtain ⟨y, _, rfl⟩ := Option.map_eq_some_iff.mp h
    exact .inr ⟨_, rfl⟩

/-- The words of a document have the tokens of the value that it denotes. -/
theorem mapM_lexemes (d : Document) : d.lexemes.mapM Lexeme.token? = d.value?.map tokens := by
  induction d using Document.induction with
  | null => rfl
  | bool b => rfl
  | number x =>
    rw [lexemes, value?, mapM_cons_eq, Lexeme.token?]
    cases hvalue : x.value? with
    | none => rfl
    | some v => rcases value?_numeral hvalue with ⟨n, rfl⟩ | ⟨y, rfl⟩ <;> rfl
  | string ps =>
    rw [lexemes, value?, mapM_cons_eq, Lexeme.token?]
    cases Piece.chars? ps <;> rfl
  | array items ih =>
    rw [lexemes, itemLexemes_eq_map, value?, itemValues?_eq_mapM, List.cons_append, mapM_mark,
      mapM_append_eq, mapM_intercalate ih]
    cases items.mapM value? with
    | none => rfl
    | some vs => simp [tokens, itemTokens_eq_map, Lexeme.token?]
  | object members ih =>
    have hmember : ∀ m ∈ members, (memberWords m).mapM Lexeme.token? =
        (memberValue? m).map fun m => .text m.1 :: .colon :: m.2.tokens := by
      intro m hm
      rw [memberWords, memberValue?, mapM_cons_eq, mapM_mark, ih m hm, Lexeme.token?]
      cases Piece.chars? m.1 with
      | none => rfl
      | some s => cases m.2.value? <;> rfl
    rw [lexemes, memberLexemes_eq_map, value?, memberValues?_eq_mapM, List.cons_append, mapM_mark,
      mapM_append_eq, mapM_intercalate hmember]
    cases members.mapM memberValue? with
    | none => rfl
    | some vs => simp [tokens, memberTokens_eq_map, Lexeme.token?]

/-- The reader cuts a text into the tokens of what the document denotes, if it denotes anything. -/
theorem Spells.scan_eq {d : Document} {text : String} (h : d.Spells text) :
    Token.scan text.toList = d.value?.map tokens := by
  rw [Lexeme.SpellsAll.scan_eq h d.separated_lexemes, mapM_lexemes]

theorem isSome_mapM {α β : Type} {f : α → Option β} {xs : List α} :
    (xs.mapM f).isSome = true ↔ ∀ x ∈ xs, (f x).isSome = true := by
  induction xs with
  | nil => simp
  | cons x xs ih =>
    rw [mapM_cons_eq, List.forall_mem_cons, ← ih]
    cases f x with
    | none => simp
    | some y => simp

/-- A document denotes a value if all numbers and strings in it do. -/
theorem isSome_value? (d : Document) :
    d.value?.isSome = true ↔
      (∀ x, .number x ∈ d.lexemes → x.value?.isSome = true) ∧
        ∀ ps, .string ps ∈ d.lexemes → (Piece.chars? ps).isSome = true := by
  rw [← Option.isSome_map (f := tokens), ← mapM_lexemes, isSome_mapM]
  constructor
  · intro h
    refine ⟨fun x hx => ?_, fun ps hps => ?_⟩
    · simpa [Lexeme.token?] using h _ hx
    · simpa [Lexeme.token?] using h _ hps
  · rintro ⟨hnumbers, hstrings⟩ l hl
    cases l with
    | mark t => rfl
    | word v => rfl
    | number x => simpa [Lexeme.token?] using hnumbers x hl
    | string ps => simpa [Lexeme.token?] using hstrings ps hl

/-- Values that documents denote are nested as deep if each of them is. -/
theorem itemNesting_of_mapM {α : Type} {f : α → Option Json} {depth : α → Nat} {xs : List α}
    {vs : List Json} (hvs : xs.mapM f = some vs)
    (h : ∀ x ∈ xs, ∀ v, f x = some v → v.nesting = depth x) :
    Json.itemNesting vs = (xs.map depth).foldr max 0 := by
  induction xs generalizing vs with
  | nil =>
    cases hvs
    rfl
  | cons x xs ih =>
    obtain ⟨hx, hxs⟩ := List.forall_mem_cons.mp h
    rw [mapM_cons_eq] at hvs
    obtain ⟨v, hv, hrest⟩ := Option.bind_eq_some_iff.mp hvs
    obtain ⟨vs, htail, rfl⟩ := Option.map_eq_some_iff.mp hrest
    rw [Json.itemNesting, hx v hv, ih htail hxs, List.map_cons, List.foldr_cons]

theorem itemNesting_eq (items : List Document) :
    itemNesting items = (items.map nesting).foldr max 0 := by
  induction items with
  | nil => rfl
  | cons d rest ih => rw [itemNesting, ih, List.map_cons, List.foldr_cons]

theorem memberNesting_eq (members : List (List Piece × Document)) :
    memberNesting members = (members.map fun m => m.2.nesting).foldr max 0 := by
  induction members with
  | nil => rfl
  | cons m rest ih => rw [memberNesting, ih, List.map_cons, List.foldr_cons]

/-- A value is nested as deep as the document that denotes it. -/
theorem nesting_of_value? {d : Document} {v : Json} (h : d.value? = some v) :
    v.nesting = d.nesting := by
  induction d using Document.induction generalizing v with
  | null =>
    cases h
    rfl
  | bool b =>
    cases h
    rfl
  | number x => rcases value?_numeral h with ⟨n, rfl⟩ | ⟨y, rfl⟩ <;> rfl
  | string ps =>
    obtain ⟨_, _, rfl⟩ := Option.map_eq_some_iff.mp h
    rfl
  | array items ih =>
    rw [value?, itemValues?_eq_mapM] at h
    obtain ⟨vs, hvs, rfl⟩ := Option.map_eq_some_iff.mp h
    rw [Json.nesting, itemNesting_of_mapM hvs fun d hd v hv => ih d hd hv, nesting, itemNesting_eq]
  | object members ih =>
    rw [value?, memberValues?_eq_mapM] at h
    obtain ⟨vs, hvs, rfl⟩ := Option.map_eq_some_iff.mp h
    have hsnd : members.mapM (fun m => (memberValue? m).map Prod.snd) = some (vs.map Prod.snd) := by
      rw [mapM_map, hvs, Option.map_some]
    have hmember : ∀ m ∈ members, ∀ v, (memberValue? m).map Prod.snd = some v →
        v.nesting = m.2.nesting := by
      intro m hm v hmember
      obtain ⟨_, hvalue, rfl⟩ := Option.map_eq_some_iff.mp hmember
      obtain ⟨s, _, hrest⟩ := Option.bind_eq_some_iff.mp hvalue
      obtain ⟨v, hv, heq⟩ := Option.bind_eq_some_iff.mp hrest
      cases heq
      exact ih m hm hv
    rw [Json.nesting, Json.memberNesting_eq, itemNesting_of_mapM hsnd hmember, nesting,
      memberNesting_eq]

end Document

/-! ## The steps of the reader -/

/-- What a token does where it is allowed. -/
inductive Move (limit : Nat) : Token → Expect → List Frame → Expect → List Frame → Prop
  | scalar {v : Json} {orEnd : Bool} {frames : List Frame} :
      Move limit (.scalar v) (.value orEnd) frames (.after v) frames
  | text {s : String} {orEnd : Bool} {frames : List Frame} :
      Move limit (.text s) (.value orEnd) frames (.after (.text s)) frames
  | openArray {orEnd : Bool} {frames : List Frame} : frames.length < limit →
      Move limit .openArray (.value orEnd) frames (.value true) (.array [] :: frames)
  | openObject {orEnd : Bool} {frames : List Frame} : frames.length < limit →
      Move limit .openObject (.value orEnd) frames (.key true) (.object [] :: frames)
  | endArray {items : List Json} {frames : List Frame} :
      Move limit .closeArray (.value true) (.array items :: frames)
        (.after (.array items.reverse)) frames
  | key {k : String} {orEnd : Bool} {frames : List Frame} :
      Move limit (.text k) (.key orEnd) frames (.colon k) frames
  | endObject {members : List (String × Json)} {frames : List Frame} :
      Move limit .closeObject (.key true) (.object members :: frames)
        (.after (.object members.reverse)) frames
  | colon {members : List (String × Json)} {k : String} {frames : List Frame} :
      Move limit .colon (.colon k) (.object members :: frames) (.value false)
        (.member members k :: frames)
  | nextItem {v : Json} {items : List Json} {frames : List Frame} :
      Move limit .comma (.after v) (.array items :: frames) (.value false)
        (.array (v :: items) :: frames)
  | nextMember {v : Json} {members : List (String × Json)} {k : String} {frames : List Frame} :
      Move limit .comma (.after v) (.member members k :: frames) (.key false)
        (.object ((k, v) :: members) :: frames)
  | closeArray {v : Json} {items : List Json} {frames : List Frame} :
      Move limit .closeArray (.after v) (.array items :: frames)
        (.after (.array (v :: items).reverse)) frames
  | closeObject {v : Json} {members : List (String × Json)} {k : String} {frames : List Frame} :
      Move limit .closeObject (.after v) (.member members k :: frames)
        (.after (.object ((k, v) :: members).reverse)) frames

theorem step_eq_some {limit : Nat} {t : Token} {expect expect' : Expect}
    {frames frames' : List Frame} :
    step limit t expect frames = some (expect', frames') ↔
      Move limit t expect frames expect' frames' := by
  constructor
  · intro h
    unfold step at h
    repeat' split at h
    all_goals cases h
    all_goals constructor
    all_goals assumption
  · intro h
    cases h with
    | openArray hroom => exact if_pos hroom
    | openObject hroom => exact if_pos hroom
    | _ => rfl

/-! ## The limit of the reader -/

section Limit

variable {limit : Nat}

def Frame.values : Frame → List Json
  | .array items => items
  | .object members => members.map Prod.snd
  | .member members _ => members.map Prod.snd

/-- What the open arrays and objects hold leaves room for those around it. -/
def Fits (limit : Nat) : List Frame → Prop
  | [] => True
  | f :: rest =>
    rest.length < limit ∧ (∀ v ∈ f.values, rest.length + v.nesting < limit) ∧ Fits limit rest

/-- A complete value leaves room for what is open around it. -/
def Expect.Fits (limit height : Nat) : Expect → Prop
  | .after v => height + v.nesting ≤ limit
  | _ => True

theorem Fits.length_le {frames : List Frame} (h : Fits limit frames) : frames.length ≤ limit := by
  cases frames with
  | nil => exact Nat.zero_le limit
  | cons f rest => exact h.1

theorem itemNesting_le {items : List Json} {n : Nat} (h : ∀ v ∈ items, v.nesting ≤ n) :
    itemNesting items ≤ n := by
  induction items with
  | nil => exact Nat.zero_le n
  | cons v rest ih =>
    obtain ⟨hv, hrest⟩ := List.forall_mem_cons.mp h
    exact Nat.max_le.mpr ⟨hv, ih hrest⟩

/-- When an array or object is closed, it takes the room of its frame. -/
theorem nesting_le_of_values {items : List Json} {height : Nat} (hheight : height < limit)
    (h : ∀ v ∈ items, height + v.nesting < limit) : height + (itemNesting items + 1) ≤ limit := by
  have hitems : itemNesting items ≤ limit - height - 1 := by
    refine itemNesting_le fun v hv => ?_
    have hroom := h v hv
    omega
  omega

/-- A complete value leaves room for the frame that it goes to. -/
theorem forall_values_cons {v : Json} {items : List Json} {height : Nat}
    (hv : (Expect.after v).Fits limit (height + 1)) (h : ∀ w ∈ items, height + w.nesting < limit) :
    ∀ w ∈ v :: items, height + w.nesting < limit := by
  refine List.forall_mem_cons.mpr ⟨?_, h⟩
  rw [Expect.Fits] at hv
  omega

/-- A token that is no array or object by itself. -/
def Token.IsFlat (t : Token) : Prop := ∀ v, t = .scalar v → v.nesting = 0

/-- No step puts together more than the limit leaves room for. -/
theorem Move.fits {t : Token} {expect expect' : Expect} {frames frames' : List Frame}
    (h : Move limit t expect frames expect' frames') (hflat : t.IsFlat)
    (hframes : Fits limit frames) (hexpect : expect.Fits limit frames.length) :
    Fits limit frames' ∧ expect'.Fits limit frames'.length := by
  cases h with
  | @scalar v =>
    refine ⟨hframes, ?_⟩
    rw [Expect.Fits, hflat v rfl]
    exact hframes.length_le
  | text => exact ⟨hframes, hframes.length_le⟩
  | openArray hroom => exact ⟨⟨hroom, List.forall_mem_nil _, hframes⟩, trivial⟩
  | openObject hroom => exact ⟨⟨hroom, List.forall_mem_nil _, hframes⟩, trivial⟩
  | endArray =>
    obtain ⟨hroom, hvalues, hrest⟩ := hframes
    exact ⟨hrest, nesting_le_of_values hroom fun v hv => hvalues v (List.mem_reverse.mp hv)⟩
  | key => exact ⟨hframes, trivial⟩
  | endObject =>
    obtain ⟨hroom, hvalues, hrest⟩ := hframes
    refine ⟨hrest, ?_⟩
    rw [Expect.Fits, nesting, memberNesting_eq, List.map_reverse]
    exact nesting_le_of_values hroom fun v hv => hvalues v (List.mem_reverse.mp hv)
  | colon => exact ⟨hframes, trivial⟩
  | nextItem =>
    obtain ⟨hroom, hvalues, hrest⟩ := hframes
    exact ⟨⟨hroom, forall_values_cons hexpect hvalues, hrest⟩, trivial⟩
  | nextMember =>
    obtain ⟨hroom, hvalues, hrest⟩ := hframes
    exact ⟨⟨hroom, forall_values_cons hexpect hvalues, hrest⟩, trivial⟩
  | closeArray =>
    obtain ⟨hroom, hvalues, hrest⟩ := hframes
    exact ⟨hrest, nesting_le_of_values hroom fun v hv =>
      forall_values_cons hexpect hvalues v (List.mem_reverse.mp hv)⟩
  | closeObject =>
    obtain ⟨hroom, hvalues, hrest⟩ := hframes
    refine ⟨hrest, ?_⟩
    rw [Expect.Fits, nesting, memberNesting_eq, List.map_reverse]
    exact nesting_le_of_values hroom fun v hv =>
      forall_values_cons hexpect hvalues v (List.mem_reverse.mp hv)

theorem build_nil_eq_some {expect : Expect} {frames : List Frame} {v : Json} :
    build limit [] expect frames = some v ↔ expect = .after v ∧ frames = [] := by
  constructor
  · intro h
    unfold build at h
    split at h
    · cases h
      exact ⟨rfl, rfl⟩
    · cases h
    · next heq => cases heq
  · rintro ⟨rfl, rfl⟩
    rfl

theorem build_cons_eq_some {t : Token} {ts : List Token} {expect : Expect} {frames : List Frame}
    {v : Json} :
    build limit (t :: ts) expect frames = some v ↔
      ∃ expect' frames', Move limit t expect frames expect' frames' ∧
        build limit ts expect' frames' = some v := by
  rw [build]
  constructor
  · intro h
    split at h
    · next hstep => exact ⟨_, _, step_eq_some.mp hstep, h⟩
    · cases h
  · rintro ⟨expect', frames', hmove, h⟩
    rw [step_eq_some.mpr hmove]
    exact h

/-- Nothing that is nested deeper than the limit comes out. -/
theorem nesting_le_of_build {ts : List Token} {expect : Expect} {frames : List Frame} {v : Json}
    (h : build limit ts expect frames = some v) (hflat : ∀ t ∈ ts, t.IsFlat)
    (hframes : Fits limit frames) (hexpect : expect.Fits limit frames.length) :
    v.nesting ≤ limit := by
  induction ts generalizing expect frames with
  | nil =>
    obtain ⟨rfl, rfl⟩ := build_nil_eq_some.mp h
    simpa [Expect.Fits] using hexpect
  | cons t ts ih =>
    obtain ⟨hfirst, hrest⟩ := List.forall_mem_cons.mp hflat
    obtain ⟨expect', frames', hmove, hbuild⟩ := build_cons_eq_some.mp h
    obtain ⟨hframes', hexpect'⟩ := hmove.fits hfirst hframes hexpect
    exact ih hbuild hrest hframes' hexpect'

/-- A higher limit changes nothing of what comes out. -/
theorem build_mono {limit' : Nat} (hlimit : limit ≤ limit') {ts : List Token} {expect : Expect}
    {frames : List Frame} {v : Json} (h : build limit ts expect frames = some v) :
    build limit' ts expect frames = some v := by
  induction ts generalizing expect frames with
  | nil => exact build_nil_eq_some.mpr (build_nil_eq_some.mp h)
  | cons t ts ih =>
    obtain ⟨expect', frames', hmove, hbuild⟩ := build_cons_eq_some.mp h
    refine build_cons_eq_some.mpr ⟨expect', frames', ?_, ih hbuild⟩
    cases hmove with
    | openArray hroom => exact .openArray (Nat.lt_of_lt_of_le hroom hlimit)
    | openObject hroom => exact .openObject (Nat.lt_of_lt_of_le hroom hlimit)
    | _ => constructor

theorem isFlat_of_mem_intercalate {tss : List (List Token)}
    (h : ∀ ts ∈ tss, ∀ t ∈ ts, t.IsFlat) : ∀ t ∈ [Token.comma].intercalate tss, t.IsFlat := by
  induction tss with
  | nil => exact List.forall_mem_nil _
  | cons ts tss ih =>
    obtain ⟨hts, htss⟩ := List.forall_mem_cons.mp h
    cases tss with
    | nil => simpa using hts
    | cons ts' tss =>
      rw [List.intercalate_cons_cons]
      intro t ht
      rcases List.mem_append.mp ht with ht | ht
      · rcases List.mem_append.mp ht with ht | ht
        · exact hts t ht
        · obtain rfl := List.mem_singleton.mp ht
          exact fun v hv => nomatch hv
      · exact ih htss t ht

/-- Of the tokens of a value only the scalars are values, and nothing lies inside them. -/
theorem isFlat_tokens (v : Json) : ∀ t ∈ v.tokens, t.IsFlat := by
  have hmark {t : Token} (h : ∀ v, t ≠ .scalar v) : t.IsFlat := fun v hv => (h v hv).elim
  induction v using Json.induction with
  | array items ih =>
    have hitems := isFlat_of_mem_intercalate (List.forall_mem_map.mpr ih)
    rw [tokens, itemTokens_eq_map]
    exact List.forall_mem_append.mpr ⟨List.forall_mem_cons.mpr ⟨hmark (by simp), hitems⟩,
      List.forall_mem_singleton.mpr (hmark (by simp))⟩
  | object members ih =>
    have hmember : ∀ m ∈ members, ∀ t ∈ Token.text m.1 :: .colon :: m.2.tokens, t.IsFlat :=
      fun m hm => List.forall_mem_cons.mpr ⟨hmark (by simp),
        List.forall_mem_cons.mpr ⟨hmark (by simp), ih m hm⟩⟩
    have hmembers := isFlat_of_mem_intercalate (List.forall_mem_map.mpr hmember)
    rw [tokens, memberTokens_eq_map]
    exact List.forall_mem_append.mpr ⟨List.forall_mem_cons.mpr ⟨hmark (by simp), hmembers⟩,
      List.forall_mem_singleton.mpr (hmark (by simp))⟩
  | text s => exact List.forall_mem_singleton.mpr (hmark (by simp))
  | _ =>
    refine List.forall_mem_singleton.mpr fun w hw => ?_
    cases hw
    rfl

/-- The tokens of a value are put together to the value, or to nothing if it is nested deeper than
the limit. -/
theorem build_tokens (limit : Nat) (v : Json) :
    build limit v.tokens (.value false) [] = if v.nesting ≤ limit then some v else none := by
  have hbuilds {limit : Nat} (hlimit : v.nesting ≤ limit) :
      build limit v.tokens (.value false) [] = some v := by
    have hroom : Builds limit v [] := builds (by rwa [List.length_nil, Nat.zero_add])
    have hbuild := hroom false []
    rw [List.append_nil] at hbuild
    rw [hbuild]
    rfl
  split
  · next hlimit => exact hbuilds hlimit
  · next hlimit =>
    refine Option.eq_none_iff_forall_ne_some.mpr fun w hw => hlimit ?_
    have hwide := build_mono (Nat.le_max_left limit v.nesting) hw
    rw [hbuilds (Nat.le_max_right limit v.nesting)] at hwide
    cases hwide
    exact nesting_le_of_build hw (isFlat_tokens v) trivial trivial

end Limit

/-- Of a document the reader makes what it denotes, unless it is nested deeper than the limit. -/
theorem readWithin_document {d : Document} {text : String} (h : d.Spells text) (limit : Nat) :
    readWithin limit text = if d.nesting ≤ limit then d.value? else none := by
  rw [readWithin, h.scan_eq]
  cases hvalue : d.value? with
  | none => simp
  | some v =>
    rw [Option.map_some, Option.bind_some, build_tokens, Document.nesting_of_value? hvalue]

end ApiTypings.Json
