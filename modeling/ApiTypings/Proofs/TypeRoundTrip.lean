import ApiTypings.Proofs.TypeReader

/-!
# Reading back the text of a type

The text of a type is read back as the type, up to its normal form. Parentheses are
printed after a look at one constructor only, so the text of a type may begin with
several members of a surrounding combination; what is followed through the types is
therefore how their tokens fall apart into the pieces that the reader takes between
bars and between ampersands.
-/

namespace ApiTypings.TypeReader

open TypeExpr

/-! ## What the reader takes -/

def Avoids (unwanted rest : List Token) : Prop := ∀ t ∈ rest.head?, t ∉ unwanted

theorem Avoids.mono {unwanted fewer rest : List Token} (h : Avoids unwanted rest)
    (hfewer : fewer ⊆ unwanted) : Avoids fewer rest :=
  fun t ht hin => h t ht (hfewer hin)

theorem avoids_cons {unwanted : List Token} {t : Token} (h : t ∉ unwanted) (rest : List Token) :
    Avoids unwanted (t :: rest) := by
  intro u hu
  cases hu
  exact h

theorem suffixes_eq {rest : List Token} (h : Avoids [.openBracket] rest) (t : TypeExpr) :
    suffixes t rest = (t, rest) := by
  unfold suffixes
  split
  · exact (h _ rfl (by simp)).elim
  · rfl

/-! ### One step of the descent -/

theorem readAlternatives_last {fuel : Nat} {ts rest : List Token} {parts : List TypeExpr}
    (h : readParts fuel ts = some (parts, rest)) (hrest : Avoids [.bar] rest) :
    readAlternatives (fuel + 1) ts = some ([combine .intersection parts], rest) := by
  rw [readAlternatives, h]
  split
  · next heq =>
    cases heq
    exact (hrest _ rfl (by simp)).elim
  · next heq =>
    cases heq
    rfl
  · next heq => cases heq

theorem readAlternatives_more {fuel : Nat} {ts rest rest' : List Token}
    {parts more : List TypeExpr} (h : readParts fuel ts = some (parts, .bar :: rest))
    (hmore : readAlternatives fuel rest = some (more, rest')) :
    readAlternatives (fuel + 1) ts = some (combine .intersection parts :: more, rest') := by
  rw [readAlternatives, h]
  simp only [hmore, Option.map_some]

theorem readParts_last {fuel : Nat} {ts rest : List Token} {t : TypeExpr}
    (h : readOperand fuel ts = some (t, rest)) (hrest : Avoids [.ampersand] rest) :
    readParts (fuel + 1) ts = some ([t], rest) := by
  rw [readParts, h]
  split
  · next heq =>
    cases heq
    exact (hrest _ rfl (by simp)).elim
  · next heq =>
    cases heq
    rfl
  · next heq => cases heq

theorem readParts_more {fuel : Nat} {ts rest rest' : List Token} {t : TypeExpr}
    {more : List TypeExpr} (h : readOperand fuel ts = some (t, .ampersand :: rest))
    (hmore : readParts fuel rest = some (more, rest')) :
    readParts (fuel + 1) ts = some (t :: more, rest') := by
  rw [readParts, h]
  simp only [hmore, Option.map_some]

theorem readFields_last {fuel : Nat} {ts between rest : List Token} {name : String}
    {optional : Bool} {alternatives : List TypeExpr}
    (hkey : readKey ts = some (name, optional, between))
    (h : readAlternatives fuel between = some (alternatives, rest))
    (hrest : Avoids [.semicolon] rest) :
    readFields (fuel + 1) ts =
      some ([⟨name, combine .union alternatives, optional, none⟩], rest) := by
  rw [readFields, hkey]
  simp only [h]
  split
  · next heq =>
    cases heq
    exact (hrest _ rfl (by simp)).elim
  · next heq =>
    cases heq
    rfl
  · next heq => cases heq

theorem readFields_more {fuel : Nat} {ts between rest rest' : List Token} {name : String}
    {optional : Bool} {alternatives : List TypeExpr} {more : List Field}
    (hkey : readKey ts = some (name, optional, between))
    (h : readAlternatives fuel between = some (alternatives, .semicolon :: rest))
    (hmore : readFields fuel rest = some (more, rest')) :
    readFields (fuel + 1) ts =
      some (⟨name, combine .union alternatives, optional, none⟩ :: more, rest') := by
  rw [readFields, hkey]
  simp only [h, hmore, Option.map_some]

theorem readPrimary_record {fuel : Nat} {ts rest : List Token} {fields : List Field}
    (h : readFields fuel ts = some (fields, .closeBrace :: rest)) :
    readPrimary (fuel + 1) (.openBrace :: ts) = some (.record fields, rest) := by
  -- a closing brace is no key, so the pattern of the empty record does not apply
  have hkey : Avoids [.closeBrace] ts := by
    intro t ht hin
    obtain ⟨tail, rfl⟩ : ∃ tail, ts = .closeBrace :: tail := by
      rw [List.mem_singleton.mp hin] at ht
      exact List.head?_eq_some_iff.mp ht
    cases fuel <;> cases h
  rw [readPrimary]
  · rw [h]
  · rintro tail rfl
    exact hkey _ rfl (by simp)

/-! ### Parts of the grammar -/

/-- Enough fuel for a part of the grammar is four times its tokens, less the levels of the
grammar above it. -/
def ReadsPrimary (ts : List Token) (t : TypeExpr) : Prop :=
  ts ≠ [] ∧ ∀ fuel rest, 4 * ts.length ≤ fuel + 3 → readPrimary fuel (ts ++ rest) = some (t, rest)

def ReadsOperand (ts : List Token) (t : TypeExpr) : Prop :=
  ts ≠ [] ∧ ∀ fuel rest, 4 * ts.length ≤ fuel + 2 →
    readOperand fuel (ts ++ rest) = some (suffixes t rest)

def ReadsParts (ts : List Token) (parts : List TypeExpr) : Prop :=
  ts ≠ [] ∧ ∀ fuel rest, 4 * ts.length ≤ fuel + 1 → Avoids [.openBracket, .ampersand] rest →
    readParts fuel (ts ++ rest) = some (parts, rest)

def ReadsAlternatives (ts : List Token) (alternatives : List TypeExpr) : Prop :=
  ts ≠ [] ∧ ∀ fuel rest, 4 * ts.length ≤ fuel →
    Avoids [.openBracket, .ampersand, .bar] rest →
    readAlternatives fuel (ts ++ rest) = some (alternatives, rest)

theorem succ_of_ne_nil {ts : List Token} (h : ts ≠ []) {fuel k : Nat}
    (hfuel : 4 * ts.length ≤ fuel + k) (hk : k ≤ 3) : ∃ n, fuel = n + 1 := by
  have hlength := List.length_pos_iff.mpr h
  exact ⟨fuel - 1, by omega⟩

/-- A primary is an operand without array suffixes of its own. -/
theorem ReadsPrimary.operand {ts : List Token} {t : TypeExpr} (h : ReadsPrimary ts t) :
    ReadsOperand ts t := by
  refine ⟨h.1, ?_⟩
  intro fuel rest hfuel
  obtain ⟨n, rfl⟩ := succ_of_ne_nil h.1 hfuel (by omega)
  rw [readOperand, h.2 n rest (by omega), Option.map_some]

theorem ReadsOperand.array {ts : List Token} {t : TypeExpr} (h : ReadsOperand ts t) :
    ReadsOperand (ts ++ [.openBracket, .closeBracket]) (.array t) := by
  refine ⟨by simp, ?_⟩
  intro fuel rest hfuel
  simp only [List.length_append, List.length_cons, List.length_nil] at hfuel
  rw [List.append_assoc, h.2 fuel _ (by omega)]
  rfl

/-! ## Pieces between separators -/

def separator : Connective → Token
  | .union => .bar
  | .intersection => .ampersand

theorem separated_append {sep : Token} {xs ys : List (List Token)} (hxs : xs ≠ [])
    (hys : ys ≠ []) :
    separated sep (xs ++ ys) = separated sep xs ++ sep :: separated sep ys := by
  induction xs with
  | nil => exact (hxs rfl).elim
  | cons x xs ih =>
    cases xs with
    | nil =>
      cases ys with
      | nil => exact (hys rfl).elim
      | cons y ys => rfl
    | cons z xs =>
      have htail := ih (List.cons_ne_nil z xs)
      simp only [List.cons_append, separated, List.append_assoc] at htail ⊢
      rw [htail]

/-- Tokens fall apart into pieces between separators; the types of the pieces have the given
members together. -/
def Spine (c : Connective) (Piece : List Token → TypeExpr → Prop) (ts : List Token)
    (members : List TypeExpr) : Prop :=
  ∃ pieces : List (List Token × TypeExpr), pieces ≠ [] ∧ (∀ p ∈ pieces, Piece p.1 p.2) ∧
    ts = separated (separator c) (pieces.map Prod.fst) ∧
    normalParts c (pieces.map Prod.snd) = members

theorem spine_single {c : Connective} {Piece : List Token → TypeExpr → Prop} {ts : List Token}
    {t : TypeExpr} (h : Piece ts t) : Spine c Piece ts (t.normal.members c) :=
  ⟨[(ts, t)], by simp, by simpa using h, rfl, by simp [normalParts]⟩

/-- Combinations one after the other have the pieces of all of them. -/
theorem spine_join {c : Connective} {Piece : List Token → TypeExpr → Prop} {α : Type}
    {f : α → List Token} {g : α → List TypeExpr} {xs : List α} (hxs : xs ≠ [])
    (h : ∀ x ∈ xs, Spine c Piece (f x) (g x)) :
    Spine c Piece (separated (separator c) (xs.map f)) (xs.flatMap g) := by
  induction xs with
  | nil => exact (hxs rfl).elim
  | cons x xs ih =>
    have hx := h x List.mem_cons_self
    cases xs with
    | nil => simpa [separated] using hx
    | cons y xs =>
      obtain ⟨ps, hps, hpieces, htokens, hmembers⟩ := hx
      obtain ⟨qs, hqs, hpieces', htokens', hmembers'⟩ :=
        ih (List.cons_ne_nil y xs) fun z hz => h z (List.mem_cons_of_mem x hz)
      refine ⟨ps ++ qs, by simp [hps], ?_, ?_, ?_⟩
      · intro p hp
        rcases List.mem_append.mp hp with hp | hp
        · exact hpieces p hp
        · exact hpieces' p hp
      · rw [List.map_append, separated_append (by simpa using hps) (by simpa using hqs),
          ← htokens, ← htokens']
        rfl
      · rw [List.map_append, normalParts, List.flatMap_append, List.flatMap_cons, ← hmembers,
          ← hmembers']
        rfl

/-- Operands between ampersands are taken as parts. -/
theorem readsParts_operands {ops : List (List Token × TypeExpr)} (hops : ops ≠ [])
    (h : ∀ o ∈ ops, ReadsOperand o.1 o.2) :
    ReadsParts (separated .ampersand (ops.map Prod.fst)) (ops.map Prod.snd) := by
  induction ops with
  | nil => exact (hops rfl).elim
  | cons o ops ih =>
    have ho := h o List.mem_cons_self
    cases ops with
    | nil =>
      refine ⟨ho.1, ?_⟩
      intro fuel rest hfuel hrest
      obtain ⟨n, rfl⟩ := succ_of_ne_nil ho.1 hfuel (by omega)
      change 4 * o.1.length ≤ n + 1 + 1 at hfuel
      have hread := ho.2 n rest (by omega)
      rw [suffixes_eq (hrest.mono (by simp))] at hread
      exact readParts_last hread (hrest.mono (by simp))
    | cons p ops =>
      obtain ⟨_, hmore⟩ := ih (List.cons_ne_nil p ops) fun z hz => h z (List.mem_cons_of_mem o hz)
      have htokens : separated .ampersand ((o :: p :: ops).map Prod.fst) =
          o.1 ++ .ampersand :: separated .ampersand ((p :: ops).map Prod.fst) := rfl
      refine ⟨by rw [htokens]; simp, ?_⟩
      intro fuel rest hfuel hrest
      rw [htokens, List.length_append, List.length_cons] at hfuel
      obtain ⟨n, rfl⟩ : ∃ n, fuel = n + 1 := ⟨fuel - 1, by omega⟩
      rw [htokens, List.append_assoc, List.cons_append]
      have hread := ho.2 n (.ampersand ::
        (separated .ampersand ((p :: ops).map Prod.fst) ++ rest)) (by omega)
      rw [suffixes_eq (avoids_cons (by decide) _)] at hread
      exact readParts_more hread (hmore n rest (by omega) hrest)

/-- The tokens of parts that hold together. -/
def ReadsTogether (ts : List Token) (t : TypeExpr) : Prop :=
  ∃ parts, ReadsParts ts parts ∧ t = combine .intersection parts

/-- What holds together between bars is taken as alternatives. -/
theorem readsAlternatives_parts {groups : List (List Token × TypeExpr)} (hgroups : groups ≠ [])
    (h : ∀ g ∈ groups, ReadsTogether g.1 g.2) :
    ReadsAlternatives (separated .bar (groups.map Prod.fst)) (groups.map Prod.snd) := by
  induction groups with
  | nil => exact (hgroups rfl).elim
  | cons g groups ih =>
    obtain ⟨parts, hparts, hg⟩ := h g List.mem_cons_self
    cases groups with
    | nil =>
      refine ⟨hparts.1, ?_⟩
      intro fuel rest hfuel hrest
      obtain ⟨n, rfl⟩ := succ_of_ne_nil hparts.1 hfuel (k := 0) (by omega)
      change 4 * g.1.length ≤ n + 1 at hfuel
      have hread := hparts.2 n rest (by omega) (hrest.mono (by simp))
      change readAlternatives (n + 1) (g.1 ++ rest) = some ([g.2], rest)
      rw [hg]
      exact readAlternatives_last hread (hrest.mono (by simp))
    | cons p groups =>
      obtain ⟨_, hmore⟩ := ih (List.cons_ne_nil p groups)
        fun z hz => h z (List.mem_cons_of_mem g hz)
      have htokens : separated .bar ((g :: p :: groups).map Prod.fst) =
          g.1 ++ .bar :: separated .bar ((p :: groups).map Prod.fst) := rfl
      refine ⟨by rw [htokens]; simp, ?_⟩
      intro fuel rest hfuel hrest
      rw [htokens, List.length_append, List.length_cons] at hfuel
      obtain ⟨n, rfl⟩ : ∃ n, fuel = n + 1 := ⟨fuel - 1, by omega⟩
      change _ = some (g.2 :: (p :: groups).map Prod.snd, rest)
      rw [htokens, List.append_assoc, List.cons_append, hg]
      have hread := hparts.2 n (.bar :: (separated .bar ((p :: groups).map Prod.fst) ++ rest))
        (by omega) (avoids_cons (by decide) _)
      exact readAlternatives_more hread (hmore n rest (by omega) hrest)

/-! ## What the reader makes of a type -/

/-- How the tokens of a type are taken: as alternatives, as parts unless the type is a union,
and as one operand unless it is a combination. What is taken has the normal form of the type. -/
structure Readable (t : TypeExpr) : Prop where
  alternatives : Spine .union ReadsTogether (tokens t) (t.normal.members .union)
  parts : t.isUnion = false →
    Spine .intersection ReadsOperand (tokens t) (t.normal.members .intersection)
  operand : t.isCompound = false → ∃ x, ReadsOperand (tokens t) x ∧ x.normal = t.normal

theorem Readable.whole {t : TypeExpr} (h : Readable t) :
    ∃ alternatives, ReadsAlternatives (tokens t) alternatives ∧
      (combine .union alternatives).normal = t.normal := by
  obtain ⟨groups, hgroups, hpieces, htokens, hmembers⟩ := h.alternatives
  refine ⟨groups.map Prod.snd, ?_, ?_⟩
  · rw [htokens]
    exact readsAlternatives_parts hgroups hpieces
  · rw [normal_combine, hmembers, combine_members (flat_normal t)]

/-- What is taken as parts holds together, and is one alternative. -/
theorem together_of_parts {t : TypeExpr}
    (h : Spine .intersection ReadsOperand (tokens t) (t.normal.members .intersection)) :
    Spine .union ReadsTogether (tokens t) (t.normal.members .union) := by
  obtain ⟨ops, hops, hpieces, htokens, hmembers⟩ := h
  have hnormal : (combine .intersection (ops.map Prod.snd)).normal = t.normal := by
    rw [normal_combine, hmembers, combine_members (flat_normal t)]
  rw [← hnormal]
  apply spine_single
  refine ⟨ops.map Prod.snd, ?_, rfl⟩
  rw [htokens]
  exact readsParts_operands hops hpieces

theorem readable_of_parts {t : TypeExpr} (hcompound : t.isCompound = true)
    (h : Spine .intersection ReadsOperand (tokens t) (t.normal.members .intersection)) :
    Readable t where
  alternatives := together_of_parts h
  parts _ := h
  operand hnot := by
    rw [hcompound] at hnot
    cases hnot

theorem readable_of_operand {t x : TypeExpr} (h : ReadsOperand (tokens t) x)
    (hnormal : x.normal = t.normal) : Readable t := by
  have hparts : Spine .intersection ReadsOperand (tokens t) (t.normal.members .intersection) := by
    rw [← hnormal]
    exact spine_single h
  exact ⟨together_of_parts hparts, fun _ => hparts, fun _ => ⟨x, h, hnormal⟩⟩

/-- In parentheses every type is one operand. -/
theorem Readable.parenthesized {t : TypeExpr} (h : Readable t) :
    ∃ x, ReadsOperand (parenthesized true (tokens t)) x ∧ x.normal = t.normal := by
  obtain ⟨alternatives, hread, hnormal⟩ := h.whole
  refine ⟨combine .union alternatives, ReadsPrimary.operand ⟨by simp [TypeReader.parenthesized], ?_⟩,
    hnormal⟩
  intro fuel rest hfuel
  change 4 * (Token.openParen :: tokens t ++ [Token.closeParen]).length ≤ fuel + 3 at hfuel
  simp only [List.length_append, List.length_cons, List.length_nil] at hfuel
  obtain ⟨n, rfl⟩ : ∃ n, fuel = n + 1 := ⟨fuel - 1, by omega⟩
  have hinner := hread.2 n (.closeParen :: rest) (by omega) (avoids_cons (by decide) _)
  change readPrimary (n + 1) (.openParen :: (tokens t ++ [.closeParen]) ++ rest) = _
  rw [List.cons_append, List.append_assoc, List.singleton_append, readPrimary]
  simp only [hinner]

/-! ### Records -/

theorem readKey_fieldTokens (name : String) (optional : Bool) (type rest : List Token) :
    readKey (fieldTokens name optional type ++ rest) = some (name, optional, type ++ rest) := by
  unfold fieldTokens keyToken
  cases Identifier.needsQuoting name <;> cases optional <;> rfl

theorem length_fieldTokens (name : String) (optional : Bool) (type : List Token) :
    type.length + 2 ≤ (fieldTokens name optional type).length := by
  simp only [fieldTokens, List.length_append, List.length_cons]
  omega

def ReadsFields (ts : List Token) (fields : List Field) : Prop :=
  ∀ fuel rest, 4 * ts.length ≤ fuel → Avoids [.openBracket, .ampersand, .bar, .semicolon] rest →
    readFields fuel (ts ++ rest) = some (fields, rest)

/-- Fields whose types are readable are taken with types of the same normal forms. -/
theorem readsFields {fields : List Field} (hfields : fields ≠ [])
    (h : ∀ f ∈ fields, Readable f.type) :
    ∃ taken, normalFields taken = normalFields fields ∧
      ReadsFields
        (separated .semicolon
          (fields.map fun f => fieldTokens f.name f.optional (tokens f.type))) taken := by
  induction fields with
  | nil => exact (hfields rfl).elim
  | cons f fields ih =>
    obtain ⟨alternatives, hread, hnormal⟩ := (h f List.mem_cons_self).whole
    have hlength := length_fieldTokens f.name f.optional (tokens f.type)
    have hkey := readKey_fieldTokens f.name f.optional (tokens f.type)
    cases fields with
    | nil =>
      refine ⟨[⟨f.name, combine .union alternatives, f.optional, none⟩], ?_, ?_⟩
      · simp only [normalFields_eq_map, List.map_cons, List.map_nil, hnormal]
      · intro fuel rest hfuel hrest
        change 4 * (fieldTokens f.name f.optional (tokens f.type)).length ≤ fuel at hfuel
        obtain ⟨n, rfl⟩ : ∃ n, fuel = n + 1 := ⟨fuel - 1, by omega⟩
        exact readFields_last (hkey rest) (hread.2 n rest (by omega) (hrest.mono (by simp)))
          (hrest.mono (by simp))
    | cons g fields =>
      obtain ⟨taken, htaken, hmore⟩ := ih (List.cons_ne_nil g fields)
        fun z hz => h z (List.mem_cons_of_mem f hz)
      refine ⟨⟨f.name, combine .union alternatives, f.optional, none⟩ :: taken, ?_, ?_⟩
      · rw [normalFields_cons, normalFields_cons f, htaken, hnormal]
      · intro fuel rest hfuel hrest
        simp only [List.map_cons, separated, List.length_append, List.length_cons] at hfuel hmore ⊢
        obtain ⟨n, rfl⟩ : ∃ n, fuel = n + 1 := ⟨fuel - 1, by omega⟩
        rw [List.append_assoc, List.cons_append]
        exact readFields_more (hkey _) (hread.2 n _ (by omega) (avoids_cons (by decide) _))
          (hmore n rest (by omega) hrest)

theorem readsPrimary_record {fields : List Field} (h : ∀ f ∈ fields, Readable f.type) :
    ∃ taken, normalFields taken = normalFields fields ∧
      ReadsPrimary (tokens (.record fields)) (.record taken) := by
  cases fields with
  | nil =>
    refine ⟨[], rfl, by simp [tokens], ?_⟩
    intro fuel rest hfuel
    simp only [tokens, List.length_cons, List.length_nil] at hfuel ⊢
    obtain ⟨n, rfl⟩ : ∃ n, fuel = n + 1 := ⟨fuel - 1, by omega⟩
    rfl
  | cons f fields =>
    obtain ⟨taken, htaken, hread⟩ := readsFields (List.cons_ne_nil f fields) h
    refine ⟨taken, htaken, by simp [tokens], ?_⟩
    intro fuel rest hfuel
    rw [tokens, recordTokens_eq_map] at hfuel ⊢
    simp only [List.length_append, List.length_cons, List.length_nil] at hfuel
    obtain ⟨n, rfl⟩ : ∃ n, fuel = n + 1 := ⟨fuel - 1, by omega⟩
    rw [List.cons_append, List.cons_append, List.append_assoc, List.singleton_append]
    exact readPrimary_record (hread n (.closeBrace :: rest) (by omega) (avoids_cons (by decide) _))

/-! ### All types -/

theorem readsPrimary_word (text : String) : ReadsPrimary [.word text] (ofWord text) := by
  refine ⟨by simp, ?_⟩
  intro fuel rest hfuel
  obtain ⟨n, rfl⟩ : ∃ n, fuel = n + 1 := ⟨fuel - 1, by simp at hfuel; omega⟩
  rfl

theorem readsPrimary_quoted (text : String) : ReadsPrimary [.quoted text] (.literal text) := by
  refine ⟨by simp, ?_⟩
  intro fuel rest hfuel
  obtain ⟨n, rfl⟩ : ∃ n, fuel = n + 1 := ⟨fuel - 1, by simp at hfuel; omega⟩
  rfl

theorem ofWord_keyword (word : Keyword) : ofWord word.text = .keyword word := by
  have hfound : [Keyword.string, .number, .boolean, .null, .undefined, .any, .object].find?
      (·.text == word.text) = some word := by cases word <;> decide
  rw [ofWord, hfound]

theorem ofWord_ref {name : String} (h : ∀ word : Keyword, name ≠ word.text) :
    ofWord name = .ref name := by
  have hnone : [Keyword.string, .number, .boolean, .null, .undefined, .any, .object].find?
      (·.text == name) = none := by
    rw [List.find?_eq_none]
    intro word _ hword
    exact h word (beq_iff_eq.mp hword).symm
  rw [ofWord, hnone]

/-- The reader takes every well-formed type, and what it takes has the type's normal form. -/
theorem readable {t : TypeExpr} (h : t.Wellformed) : Readable t := by
  induction h with
  | keyword word =>
    have hread := (readsPrimary_word word.text).operand
    rw [ofWord_keyword] at hread
    exact readable_of_operand (by rw [tokens]; exact hread) rfl
  | @array item _ ih =>
    obtain ⟨x, hread, hnormal⟩ : ∃ x,
        ReadsOperand (TypeReader.parenthesized item.isCompound (tokens item)) x ∧
          x.normal = item.normal := by
      cases hcompound : item.isCompound with
      | true => exact ih.parenthesized
      | false => exact ih.operand hcompound
    apply readable_of_operand (x := .array x)
    · rw [tokens]
      exact hread.array
    · rw [normal, normal, hnormal]
  | @union ts hts _ ih =>
    refine ⟨?_, ?_, ?_⟩
    · have hjoined := spine_join (c := .union) hts fun t ht => (ih t ht).alternatives
      have hmembers := members_normal_make .union ts
      rw [tokens, memberTokens_eq_map]
      exact hmembers ▸ hjoined
    · intro hnot
      cases hnot
    · intro hnot
      cases hnot
  | @intersection ts hts _ ih =>
    apply readable_of_parts rfl
    have hpart : ∀ t ∈ ts, Spine .intersection ReadsOperand
        (TypeReader.parenthesized t.isUnion (tokens t)) (t.normal.members .intersection) := by
      intro t ht
      cases hunion : t.isUnion with
      | true =>
        obtain ⟨x, hread, hnormal⟩ := (ih t ht).parenthesized
        rw [← hnormal]
        exact spine_single hread
      | false => exact (ih t ht).parts hunion
    have hjoined := spine_join (c := .intersection) hts hpart
    have hmembers := members_normal_make .intersection ts
    rw [tokens, partTokens_eq_map]
    exact hmembers ▸ hjoined
  | @record fields _ ih =>
    obtain ⟨taken, htaken, hread⟩ := readsPrimary_record ih
    apply readable_of_operand hread.operand
    rw [normal, normal, htaken]
  | literal value =>
    apply readable_of_operand (x := .literal value) _ rfl
    rw [tokens]
    exact (readsPrimary_quoted value).operand
  | @ref name _ hname =>
    have hread := (readsPrimary_word name).operand
    rw [ofWord_ref hname] at hread
    exact readable_of_operand (by rw [tokens]; exact hread) rfl

theorem read_of_wellformed {t : TypeExpr} (h : t.Wellformed) :
    ∃ t', read t.emit = some t' ∧ t'.normal = t.normal := by
  obtain ⟨alternatives, hread, hnormal⟩ := (readable h).whole
  refine ⟨combine .union alternatives, ?_, hnormal⟩
  have hempty : Avoids [.openBracket, .ampersand, .bar] [] := by
    intro u hu
    cases hu
  have hall := hread.2 (4 * (tokens t).length) [] (Nat.le_refl _) hempty
  rw [List.append_nil] at hall
  unfold read
  rw [scan_emit h]
  simp only [hall]

/-- The text of a type means the type. Reading the text of a well-formed type succeeds
and consumes all of it, and gives the type back up to its normal form. So the types of two
schema nodes have the same text only if they differ in nothing but descriptions. -/
theorem read_emit :
    (∀ t : TypeExpr, t.Wellformed → ∃ t', read t.emit = some t' ∧ t'.normal = t.normal) ∧
      ∀ n₁ n₂ : Schema.Node, (ofNode n₁).emit = (ofNode n₂).emit →
        (ofNode n₁).undescribed = (ofNode n₂).undescribed := by
  refine ⟨fun t h => read_of_wellformed h, ?_⟩
  intro n₁ n₂ hemit
  obtain ⟨hwell₁, hnormal₁⟩ := ofNodeWithin_spec (Schema.maxDepth + 1) n₁
  obtain ⟨hwell₂, hnormal₂⟩ := ofNodeWithin_spec (Schema.maxDepth + 1) n₂
  obtain ⟨t₁, hread₁, ht₁⟩ := read_of_wellformed hwell₁
  obtain ⟨t₂, hread₂, ht₂⟩ := read_of_wellformed hwell₂
  have hsame : some t₁ = some t₂ := by
    rw [← hread₁, ← hread₂]
    exact congrArg read hemit
  cases hsame
  calc (ofNode n₁).undescribed = (ofNode n₁).normal := hnormal₁.symm
    _ = t₁.normal := ht₁.symm
    _ = (ofNode n₂).normal := ht₂
    _ = (ofNode n₂).undescribed := hnormal₂

/-- Alternatives inside parts inside alternatives, as the items of an array. -/
def nestedType : TypeExpr :=
  .array (.union [.literal "it's", .intersection [.union [.literal " | ", .keyword .null], .ref "Item"]])

theorem read_emit_nested : nestedType.Wellformed ∧
    ∃ t', read nestedType.emit = some t' ∧ t'.normal = nestedType.normal := by
  have halternatives : (TypeExpr.union [.literal " | ", .keyword .null]).Wellformed :=
    .union (by simp) (List.forall_mem_cons.mpr
      ⟨.literal _, List.forall_mem_singleton.mpr (.keyword _)⟩)
  have hitem : (TypeExpr.ref "Item").Wellformed :=
    .ref (by decide) fun word => by cases word <;> decide
  have hparts : (TypeExpr.intersection
      [.union [.literal " | ", .keyword .null], .ref "Item"]).Wellformed :=
    .intersection (by simp) (List.forall_mem_cons.mpr
      ⟨halternatives, List.forall_mem_singleton.mpr hitem⟩)
  have hnested : nestedType.Wellformed :=
    .array (.union (by simp) (List.forall_mem_cons.mpr
      ⟨.literal _, List.forall_mem_singleton.mpr hparts⟩))
  exact ⟨hnested, read_emit.1 nestedType hnested⟩

end ApiTypings.TypeReader
