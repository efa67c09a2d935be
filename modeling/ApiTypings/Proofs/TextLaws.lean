import ApiTypings.Text.Basic
import ApiTypings.Text.Uppercase
import Mathlib.Data.List.Basic

/-!
# Laws of pieces, trimming and joins

What the pieces of a text are made of and that they join to the text again, when trimming changes
nothing, which characters a text on a single line has, and that upper case adds no blanks to it.
-/

namespace ApiTypings.Text

/-! ## Pieces -/

theorem splitChars_not_sep {sep : Char → Bool} {cs piece : List Char}
    (h : piece ∈ splitChars sep cs) : ∀ c ∈ piece, sep c = false := by
  induction cs generalizing piece with
  | nil =>
    simp only [splitChars, List.mem_singleton] at h
    simp [h]
  | cons c cs ih =>
    unfold splitChars at h
    split at h
    · rcases List.mem_cons.mp h with rfl | h
      · simp
      · exact ih h
    · next hsep =>
      split at h
      · simp only [List.mem_singleton] at h
        subst h
        simpa using hsep
      · next p ps hsplit =>
        rcases List.mem_cons.mp h with rfl | h
        · intro d hd
          rcases List.mem_cons.mp hd with rfl | hd
          · simpa using hsep
          · exact ih (by simp [hsplit]) d hd
        · exact ih (by simp [hsplit, h])

theorem splitChars_ne_nil (sep : Char → Bool) (cs : List Char) : splitChars sep cs ≠ [] := by
  cases cs with
  | nil => simp [splitChars]
  | cons c cs =>
    unfold splitChars
    split
    · simp
    · split <;> simp

/-- Around a separator a text is split on either side. -/
theorem splitChars_append {sep : Char → Bool} {c : Char} (hc : sep c = true)
    (xs ys : List Char) :
    splitChars sep (xs ++ c :: ys) = splitChars sep xs ++ splitChars sep ys := by
  induction xs with
  | nil => simp [splitChars, hc]
  | cons x xs ih =>
    simp only [List.cons_append, splitChars, ih]
    split
    · rfl
    · cases hxs : splitChars sep xs with
      | nil => exact (splitChars_ne_nil sep xs hxs).elim
      | cons p ps => rfl

theorem splitChars_eq_singleton {sep : Char → Bool} {cs : List Char}
    (h : ∀ c ∈ cs, sep c = false) : splitChars sep cs = [cs] := by
  induction cs with
  | nil => rfl
  | cons c cs ih =>
    have hc : sep c = false := h c (by simp)
    unfold splitChars
    rw [ih fun d hd => h d (by simp [hd])]
    simp [hc]

/-- A text is split in two where the first separator stands. -/
theorem splitFirst_append {sep : Char → Bool} {c : Char} (hc : sep c = true) {xs : List Char}
    (h : ∀ x ∈ xs, sep x = false) (ys : List Char) :
    splitFirst sep (xs ++ c :: ys) = (xs, some ys) := by
  have hbefore : ∀ x ∈ xs, (!sep x) = true := fun x hx => by rw [h x hx, Bool.not_false]
  have hmark : (!sep c) = false := by rw [hc, Bool.not_true]
  have hdrop : (xs ++ c :: ys).dropWhile (!sep ·) = c :: ys := by
    rw [List.dropWhile_append_of_pos hbefore, List.dropWhile_cons, hmark]
    rfl
  have htake : (xs ++ c :: ys).takeWhile (!sep ·) = xs := by
    rw [List.takeWhile_append_of_pos hbefore, List.takeWhile_cons, hmark]
    exact List.append_nil xs
  rw [splitFirst, hdrop, htake]

/-! ## Trimming -/

theorem mem_of_mem_trimRight {cs : List Char} {c : Char} (h : c ∈ trimRight cs) : c ∈ cs := by
  induction cs with
  | nil => simp [trimRight] at h
  | cons d ds ih =>
    unfold trimRight at h
    split at h
    · split at h
      · cases h
      · simp only [List.mem_singleton] at h
        simp [h]
    · next e es hes =>
      rcases List.mem_cons.mp h with rfl | h
      · simp
      · exact List.mem_cons_of_mem _ (ih (by rw [hes]; exact h))

theorem mem_of_mem_trim {s : String} {c : Char} (h : c ∈ (trim s).toList) : c ∈ s.toList := by
  simp only [trim, trimChars, String.toList_ofList] at h
  exact (List.dropWhile_sublist _).mem (mem_of_mem_trimRight h)

theorem trimRight_eq_nil_iff {cs : List Char} :
    trimRight cs = [] ↔ ∀ c ∈ cs, isBlank c = true := by
  induction cs with
  | nil => simp [trimRight]
  | cons c cs ih =>
    unfold trimRight
    rw [List.forall_mem_cons, ← ih]
    cases trimRight cs <;> simp

theorem trimRight_cons_of_nil {cs : List Char} (h : trimRight cs = []) (c : Char) :
    trimRight (c :: cs) = if isBlank c then [] else [c] := by
  rw [trimRight, h]

theorem trimRight_cons_of_cons {cs ds : List Char} {d : Char} (h : trimRight cs = d :: ds)
    (c : Char) : trimRight (c :: cs) = c :: d :: ds := by
  rw [trimRight, h]

theorem trimRight_trimRight (cs : List Char) : trimRight (trimRight cs) = trimRight cs := by
  induction cs with
  | nil => rfl
  | cons c cs ih =>
    cases hcs : trimRight cs with
    | nil =>
      rw [trimRight_cons_of_nil hcs]
      cases hc : isBlank c with
      | true => rfl
      | false => simp [trimRight, hc]
    | cons d ds =>
      rw [hcs] at ih
      rw [trimRight_cons_of_cons hcs, trimRight_cons_of_cons ih]

/-- What trimming leaves does not start with a blank. -/
theorem dropWhile_trimChars (cs : List Char) :
    (trimChars cs).dropWhile isBlank = trimChars cs := by
  unfold trimChars
  cases hcs : cs.dropWhile isBlank with
  | nil => rfl
  | cons c rest =>
    have hc : isBlank c = false := by
      have hhead := List.head_dropWhile_not isBlank (l := cs) (by simp [hcs])
      simpa [hcs] using hhead
    unfold trimRight
    cases trimRight rest <;> simp [hc]

theorem trimChars_trimChars (cs : List Char) : trimChars (trimChars cs) = trimChars cs := by
  have hstart := dropWhile_trimChars cs
  unfold trimChars at hstart ⊢
  rw [hstart, trimRight_trimRight]

/-- Trimming twice is trimming once. -/
theorem trim_trim (s : String) : trim (trim s) = trim s := by
  unfold trim
  rw [String.toList_ofList, trimChars_trimChars]

theorem trimChars_eq_nil_iff {cs : List Char} :
    trimChars cs = [] ↔ ∀ c ∈ cs, isBlank c = true := by
  unfold trimChars
  rw [trimRight_eq_nil_iff]
  constructor
  · intro h c hc
    rw [← List.takeWhile_append_dropWhile (p := isBlank) (l := cs), List.mem_append] at hc
    rcases hc with hc | hc
    · exact List.all_eq_true.mp List.all_takeWhile c hc
    · exact h c hc
  · intro h c hc
    exact h c ((List.dropWhile_sublist _).mem hc)

/-- Trimming leaves nothing exactly of the blank texts. -/
theorem trim_eq_empty_iff {s : String} : trim s = "" ↔ isBlankText s = true := by
  unfold trim isBlankText
  rw [List.all_eq_true, ← trimChars_eq_nil_iff, ← String.toList_inj, String.toList_ofList]
  rfl

/-! ## Joins and single lines -/

theorem mem_join {sep : String} {xs : List String} {c : Char} (h : c ∈ (join sep xs).toList) :
    c ∈ sep.toList ∨ ∃ x ∈ xs, c ∈ x.toList := by
  induction xs with
  | nil => simp [join] at h
  | cons x xs ih =>
    cases xs with
    | nil => exact .inr ⟨x, by simp, h⟩
    | cons y xs =>
      simp only [join, String.toList_append, List.mem_append] at h
      rcases h with (h | h) | h
      · exact .inr ⟨x, by simp, h⟩
      · exact .inl h
      · rcases ih h with hsep | ⟨z, hz, hcz⟩
        · exact .inl hsep
        · exact .inr ⟨z, by simp [List.mem_cons.mp hz], hcz⟩

theorem join_cons_of_ne_nil (sep x : String) {xs : List String} (h : xs ≠ []) :
    join sep (x :: xs) = x ++ sep ++ join sep xs := by
  cases xs with
  | nil => exact (h rfl).elim
  | cons y xs => rfl

theorem join_append_cons (sep x y : String) (xs : List String) :
    join sep ((x ++ y) :: xs) = x ++ join sep (y :: xs) := by
  cases xs with
  | nil => rfl
  | cons z xs => simp only [join, String.append_assoc]

/-- The pieces between the occurrences of a character are joined by it to the text. -/
theorem join_split (c : Char) (s : String) :
    join (.singleton c) (split (· == c) s) = s := by
  have hchars (cs : List Char) :
      join (.singleton c) ((splitChars (· == c) cs).map .ofList) = .ofList cs := by
    induction cs with
    | nil => rfl
    | cons d cs ih =>
      simp only [splitChars]
      split
      · next hd =>
        have hne : (splitChars (· == c) cs).map String.ofList ≠ [] := by
          simp [splitChars_ne_nil]
        rw [List.map_cons, join_cons_of_ne_nil _ _ hne, ih, ← beq_iff_eq.mp hd]
        apply String.toList_injective
        simp
      · cases hsplit : splitChars (· == c) cs with
        | nil => exact (splitChars_ne_nil _ cs hsplit).elim
        | cons p ps =>
          rw [hsplit, List.map_cons] at ih
          rw [List.map_cons, String.ofList_cons, join_append_cons, ih, ← String.ofList_cons]
  have h := hchars s.toList
  rw [String.ofList_toList] at h
  exact h

/-- Texts that are joined by a separator are the pieces, if none of them has one. -/
theorem splitChars_join {sep : Char → Bool} {c : Char} (hc : sep c = true) {xs : List String}
    (hne : xs ≠ []) (h : ∀ x ∈ xs, ∀ d ∈ x.toList, sep d = false) :
    splitChars sep (join (.singleton c) xs).toList = xs.map String.toList := by
  induction xs with
  | nil => exact (hne rfl).elim
  | cons x xs ih =>
    obtain ⟨hx, hxs⟩ := List.forall_mem_cons.mp h
    by_cases hrest : xs = []
    · rw [hrest]
      exact splitChars_eq_singleton hx
    · have htext : (join (.singleton c) (x :: xs)).toList =
          x.toList ++ c :: (join (.singleton c) xs).toList := by
        rw [join_cons_of_ne_nil _ _ hrest]
        simp
      rw [htext, splitChars_append hc, splitChars_eq_singleton hx, ih hrest hxs]
      rfl

/-- With nothing between them, texts are joined one after the other. -/
theorem join_empty_cons (x : String) (xs : List String) : join "" (x :: xs) = x ++ join "" xs := by
  cases xs with
  | nil => exact (String.append_empty).symm
  | cons y ys => rw [join, String.append_empty]

theorem join_empty_append (xs ys : List String) :
    join "" (xs ++ ys) = join "" xs ++ join "" ys := by
  induction xs with
  | nil => exact (String.empty_append).symm
  | cons x xs ih => rw [List.cons_append, join_empty_cons, ih, join_empty_cons, String.append_assoc]

/-- Joining fewer texts gives no other characters and no other order. -/
theorem join_sublist (sep : String) {xs ys : List String} (h : xs.Sublist ys) :
    (join sep xs).toList.Sublist (join sep ys).toList := by
  induction h with
  | slnil => exact List.Sublist.refl _
  | @cons xs ys y hsub ih =>
    by_cases hys : ys = []
    · subst hys
      rw [List.sublist_nil.mp hsub]
      exact List.nil_sublist _
    · rw [join_cons_of_ne_nil sep y hys, String.toList_append]
      exact ih.trans (List.sublist_append_right _ _)
  | @cons_cons xs ys x hsub ih =>
    by_cases hxs : xs = []
    · subst hxs
      cases ys with
      | nil => exact List.Sublist.refl _
      | cons y ys =>
        simp only [join, String.toList_append, List.append_assoc]
        exact List.sublist_append_left _ _
    · have hys : ys ≠ [] := by
        rintro rfl
        exact hxs (List.sublist_nil.mp hsub)
      rw [join_cons_of_ne_nil sep x hxs, join_cons_of_ne_nil sep x hys, String.toList_append,
        String.toList_append (s := x ++ sep)]
      exact (List.Sublist.refl _).append ih

/-- A text on a single line has no blanks but spaces. -/
theorem mem_singleLine {s : String} {c : Char} (h : c ∈ (singleLine s).toList) :
    c = ' ' ∨ isBlank c = false := by
  have hspace : " ".toList = [' '] := rfl
  rcases mem_join h with hsep | ⟨word, hword, hc⟩
  · rw [hspace, List.mem_singleton] at hsep
    exact .inl hsep
  · unfold words at hword
    obtain ⟨piece, hpiece, rfl⟩ := List.mem_map.mp hword
    rw [String.toList_ofList] at hc
    exact .inr (splitChars_not_sep (List.mem_filter.mp hpiece).1 c hc)

/-! ## Upper case -/

/-- A property of the characters below 128, checked one by one. -/
theorem ascii_forall {P : Char → Prop} (h : ∀ n < 0x80, P (Char.ofNat n)) {c : Char}
    (hc : c.toNat < 0x80) : P c := by
  have hchar := h c.toNat hc
  rwa [Char.ofNat_toNat] at hchar

theorem isAlphanum_iff {c : Char} : c.isAlphanum = true ↔
    (65 ≤ c.toNat ∧ c.toNat ≤ 90) ∨ (97 ≤ c.toNat ∧ c.toNat ≤ 122) ∨
      (48 ≤ c.toNat ∧ c.toNat ≤ 57) := by
  delta Char.isAlphanum Char.isAlpha Char.isUpper Char.isLower Char.isDigit
  simp only [Bool.or_eq_true, Bool.and_eq_true, decide_eq_true_eq, ge_iff_le,
    UInt32.le_iff_toNat_le, or_assoc]
  rfl

theorem toNat_lt_of_isAlphanum {c : Char} (h : c.isAlphanum = true) : c.toNat < 0x80 := by
  have hranges := isAlphanum_iff.mp h
  omega

theorem toNat_ofNat (n : Nat) : (Char.ofNat n).toNat = n ∨ (Char.ofNat n).toNat = 0 := by
  unfold Char.ofNat
  by_cases h : n.isValidChar
  · rw [dif_pos h]
    exact .inl rfl
  · rw [dif_neg h]
    exact .inr rfl

/-- The places of the blanks, with other characters in between. -/
def blankRanges : List (Nat × Nat) :=
  [(0x09, 0x20), (0x85, 0xA0), (0x1680, 0x1680), (0x2000, 0x205F), (0x3000, 0x3000)]

theorem mem_blankRanges {c : Char} (h : isBlank c = true) :
    ∃ r ∈ blankRanges, r.1 ≤ c.toNat ∧ c.toNat ≤ r.2 := by
  simp only [isBlank, Bool.or_eq_true, Bool.and_eq_true, decide_eq_true_eq, beq_iff_eq] at h
  simp only [blankRanges, List.exists_mem_cons_iff]
  omega

theorem uppercaseSequences_not_blank :
    ∀ row ∈ uppercaseSequences, ∀ n ∈ row.2, isBlank (Char.ofNat n) = false := by
  decide

set_option maxRecDepth 4000 in
theorem uppercaseRuns_not_blank :
    ∀ row ∈ uppercaseRuns, ∀ r ∈ blankRanges,
      row.2.1 + row.2.2.2 < r.1 ∨ r.2 < row.1 + row.2.2.2 := by
  decide

/-- The upper case of what is no blank has no blanks. -/
theorem isBlank_upperChar {c d : Char} (hc : isBlank c = false) (hd : d ∈ upperChar c) :
    isBlank d = false := by
  unfold upperChar at hd
  dsimp only at hd
  split at hd
  · next hascii =>
    rw [List.mem_singleton.mp hd]
    exact ascii_forall (P := fun c => isBlank c = false → isBlank c.toUpper = false) (by decide)
      hascii hc
  · split at hd
    · next row cs hrow =>
      obtain ⟨n, hn, rfl⟩ := List.mem_map.mp hd
      exact uppercaseSequences_not_blank _ (List.mem_of_find?_eq_some hrow) n hn
    · split at hd
      · next first last stride shift hrow =>
        have hbounds := List.find?_some hrow
        simp only [Bool.and_eq_true, decide_eq_true_eq] at hbounds
        obtain ⟨⟨hfirst, hlast⟩, _⟩ := hbounds
        rw [List.mem_singleton.mp hd]
        by_contra hblank
        obtain ⟨r, hr, hlow, hhigh⟩ := mem_blankRanges (eq_true_of_ne_false hblank)
        have hpositive : ∀ r ∈ blankRanges, 0 < r.1 := by decide
        have hapart := uppercaseRuns_not_blank _ (List.mem_of_find?_eq_some hrow) r hr
        have hplace := toNat_ofNat (c.toNat + shift).toNat
        have hstart := hpositive r hr
        dsimp only at hapart
        omega
      · rw [List.mem_singleton.mp hd]
        exact hc

end ApiTypings.Text
