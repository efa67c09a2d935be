import ApiTypings.Proofs.JsonTokens
import ApiTypings.Schema.Document

/-!
# Values read back from their text

A value is what its compact text denotes, so reading the schema in a text gives the same node
as reading the schema in the value. This holds for values with integers in range, without
repeated keys and nested no deeper than the reader follows; strings may hold anything.

The tokens of a value take the reader from the point where it expects a value to the point
behind that value and leave the open arrays and objects as they were. The height of the stack
is what the limit bounds, so it is kept in the statement.
-/

namespace ApiTypings

namespace Json

/-! ## Nesting -/

mutual
/-- How many arrays and objects lie around the innermost part of a value. -/
def nesting : Json → Nat
  | .array items => itemNesting items + 1
  | .object members => memberNesting members + 1
  | _ => 0

def itemNesting : List Json → Nat
  | [] => 0
  | v :: rest => max v.nesting (itemNesting rest)

def memberNesting : List (String × Json) → Nat
  | [] => 0
  | (_, v) :: rest => max v.nesting (memberNesting rest)
end

theorem memberNesting_eq (members : List (String × Json)) :
    memberNesting members = itemNesting (members.map Prod.snd) := by
  induction members with
  | nil => rfl
  | cons m rest ih => rw [memberNesting, ih, List.map_cons, itemNesting]

theorem nesting_le_itemNesting {items : List Json} {v : Json} (h : v ∈ items) :
    v.nesting ≤ itemNesting items := by
  induction items with
  | nil => cases h
  | cons w rest ih =>
    rw [itemNesting]
    rcases List.mem_cons.mp h with rfl | h
    · exact Nat.le_max_left _ _
    · exact Nat.le_trans (ih h) (Nat.le_max_right _ _)

theorem nesting_lt_of_item {items : List Json} {v : Json} (h : v ∈ items) :
    v.nesting < (array items).nesting :=
  Nat.lt_succ_of_le (nesting_le_itemNesting h)

theorem nesting_lt_of_member {members : List (String × Json)} {m : String × Json}
    (h : m ∈ members) : m.2.nesting < (object members).nesting := by
  rw [nesting, memberNesting_eq]
  exact Nat.lt_succ_of_le (nesting_le_itemNesting (List.mem_map_of_mem h))

/-! ## Building a value from its tokens -/

theorem build_of_step {limit : Nat} {t : Token} {expect expect' : Expect}
    {frames frames' : List Frame} (h : step limit t expect frames = some (expect', frames'))
    (ts : List Token) : build limit (t :: ts) expect frames = build limit ts expect' frames' := by
  rw [build, h]

/-- The tokens of the value take the reader over it, whatever follows. -/
def Builds (limit : Nat) (v : Json) (frames : List Frame) : Prop :=
  ∀ orEnd ts, build limit (v.tokens ++ ts) (.value orEnd) frames = build limit ts (.after v) frames

/-- Items go to the open array one after the other. -/
theorem build_items {limit : Nat} {frames : List Frame} {items : List Json} (hne : items ≠ [])
    (h : ∀ v ∈ items, ∀ done, Builds limit v (.array done :: frames)) (orEnd : Bool)
    (done : List Json) (ts : List Token) :
    build limit ([Token.comma].intercalate (items.map tokens) ++ .closeArray :: ts)
        (.value orEnd) (.array done :: frames) =
      build limit ts (.after (.array (done.reverse ++ items))) frames := by
  induction items generalizing orEnd done with
  | nil => exact (hne rfl).elim
  | cons v rest ih =>
    have hv := h v List.mem_cons_self done orEnd
    cases rest with
    | nil =>
      rw [List.map_singleton, List.intercalate_singleton, hv, ← List.reverse_cons]
      exact build_of_step rfl ts
    | cons w rest =>
      have htokens : [Token.comma].intercalate ((v :: w :: rest).map tokens) =
          v.tokens ++ .comma :: [Token.comma].intercalate ((w :: rest).map tokens) := by
        simp [List.intercalate_cons_cons]
      have hcomma : step limit .comma (.after v) (.array done :: frames) =
          some (.value false, .array (v :: done) :: frames) := rfl
      have hrest := ih (List.cons_ne_nil w rest) fun x hx => h x (List.mem_cons_of_mem v hx)
      rw [htokens, List.append_assoc, hv, List.cons_append, build_of_step hcomma, hrest,
        List.reverse_cons, List.append_assoc, List.singleton_append]

theorem build_member {limit : Nat} {frames : List Frame} {done : List (String × Json)}
    {key : String} {v : Json} (h : Builds limit v (.member done key :: frames)) (orEnd : Bool)
    (ts : List Token) :
    build limit (.text key :: .colon :: v.tokens ++ ts) (.key orEnd) (.object done :: frames) =
      build limit ts (.after v) (.member done key :: frames) :=
  calc
    _ = build limit (.colon :: v.tokens ++ ts) (.colon key) (.object done :: frames) :=
      build_of_step rfl _
    _ = build limit (v.tokens ++ ts) (.value false) (.member done key :: frames) :=
      build_of_step rfl _
    _ = build limit ts (.after v) (.member done key :: frames) := h false ts

/-- Members go to the open object one after the other. -/
theorem build_members {limit : Nat} {frames : List Frame} {members : List (String × Json)}
    (hne : members ≠ [])
    (h : ∀ m ∈ members, ∀ done, Builds limit m.2 (.member done m.1 :: frames)) (orEnd : Bool)
    (done : List (String × Json)) (ts : List Token) :
    build limit ([Token.comma].intercalate
        (members.map fun m => .text m.1 :: .colon :: m.2.tokens) ++ .closeObject :: ts)
        (.key orEnd) (.object done :: frames) =
      build limit ts (.after (.object (done.reverse ++ members))) frames := by
  induction members generalizing orEnd done with
  | nil => exact (hne rfl).elim
  | cons m rest ih =>
    have hm := build_member (h m List.mem_cons_self done) orEnd
    cases rest with
    | nil =>
      rw [List.map_singleton, List.intercalate_singleton, hm, ← List.reverse_cons]
      exact build_of_step rfl ts
    | cons n rest =>
      have htokens : [Token.comma].intercalate
            ((m :: n :: rest).map fun m => .text m.1 :: .colon :: m.2.tokens) =
          .text m.1 :: .colon :: m.2.tokens ++ .comma :: [Token.comma].intercalate
            ((n :: rest).map fun m => .text m.1 :: .colon :: m.2.tokens) := by
        simp [List.intercalate_cons_cons]
      have hcomma : step limit .comma (.after m.2) (.member done m.1 :: frames) =
          some (.key false, .object (m :: done) :: frames) := rfl
      have hrest := ih (List.cons_ne_nil n rest) fun x hx => h x (List.mem_cons_of_mem m hx)
      rw [htokens, List.append_assoc, hm, List.cons_append, build_of_step hcomma, hrest,
        List.reverse_cons, List.append_assoc, List.singleton_append]

/-- Where the limit leaves room for what is nested in a value, the reader gets over it. -/
theorem builds {limit : Nat} {v : Json} {frames : List Frame}
    (h : frames.length + v.nesting ≤ limit) : Builds limit v frames := by
  induction v using Json.induction generalizing frames with
  | array items ih =>
    have hroom : frames.length < limit := by
      rw [nesting] at h
      omega
    have hitems : ∀ v ∈ items, ∀ done, Builds limit v (.array done :: frames) := by
      intro v hv done
      apply ih v hv
      have hlt := nesting_lt_of_item hv
      rw [List.length_cons]
      omega
    intro orEnd ts
    rw [tokens, itemTokens_eq_map, List.append_assoc, List.cons_append, build, step, if_pos hroom]
    -- Only right behind its bracket may an array end without an item.
    by_cases hne : items = []
    · subst hne
      rfl
    · exact build_items hne hitems true [] ts
  | object members ih =>
    have hroom : frames.length < limit := by
      rw [nesting] at h
      omega
    have hmembers : ∀ m ∈ members, ∀ done, Builds limit m.2 (.member done m.1 :: frames) := by
      intro m hm done
      apply ih m hm
      have hlt := nesting_lt_of_member hm
      rw [List.length_cons]
      omega
    intro orEnd ts
    rw [tokens, memberTokens_eq_map, List.append_assoc, List.cons_append, build, step,
      if_pos hroom]
    by_cases hne : members = []
    · subst hne
      rfl
    · exact build_members hne hmembers true [] ts
  | _ =>
    intro orEnd ts
    rfl

/-! ## Reading compact text -/

/-- Repeated keys come back as well; only what nests too deep for the limit does not. -/
theorem readWithin_compact {limit : Nat} {v : Json} (hnumbers : v.IntegersOnly)
    (hnesting : v.nesting ≤ limit) : readWithin limit v.compact = some v := by
  have hbuilds : Builds limit v [] := builds (by rwa [List.length_nil, Nat.zero_add])
  have hbuild := hbuilds false []
  rw [List.append_nil] at hbuild
  rw [readWithin, scan_compact hnumbers, Option.bind_some, hbuild]
  rfl

theorem read_compact {v : Json} (hnumbers : v.IntegersOnly) (hkeys : v.RepeatsNoKey)
    (hnesting : v.nesting ≤ maxNesting) : read v.compact = some v := by
  rw [read, readRaw, readWithin_compact hnumbers hnesting, Option.map_some, unique_eq_self hkeys]

end Json

namespace Schema

/-- Reading the schema in the compact text of a value is reading the schema in the value. -/
theorem Node.ofText?_compact {v : Json} (hnumbers : v.IntegersOnly) (hkeys : v.RepeatsNoKey)
    (hnesting : v.nesting < 128) : ofText? v.compact = some (ofJson v) := by
  rw [ofText?, Json.read_compact hnumbers hkeys (Nat.le_of_lt_succ hnesting), Option.map_some]

/-- The bounds of the integers, a string with everything that is escaped, and a list of kinds
whose elements are no names. -/
theorem Node.ofText?_compact_bounds :
    let v : Json := .object [("type", .array [.int 18446744073709551615,
        .int (-9223372036854775808), .array [.bool true, .null, .object []]]),
      ("a\"b\\c\n\u0001\u007f😀", .text "\u0000\r\t\u001f/")]
    v.IntegersOnly ∧ v.RepeatsNoKey ∧ v.nesting < 128 ∧
      ofText? v.compact = some (ofJson v) := by
  intro v
  have hnumbers : v.IntegersOnly := by
    constructor
    · intro n hn
      have hn : n = 18446744073709551615 ∨ n = -9223372036854775808 := by
        simpa [v, Json.parts, Json.itemParts, Json.memberParts] using hn
      rcases hn with rfl | rfl <;> decide
    · simp [v, Json.parts, Json.itemParts, Json.memberParts]
  have hkeys : v.RepeatsNoKey := by
    simp [v, Json.RepeatsNoKey, Json.parts, Json.itemParts, Json.memberParts]
  have hnesting : v.nesting < 128 := by decide
  exact ⟨hnumbers, hkeys, hnesting, ofText?_compact hnumbers hkeys hnesting⟩

end Schema

end ApiTypings
