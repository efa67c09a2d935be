import ApiTypings.Proofs.UrlCodes
import ApiTypings.Url.Basic

/-!
# Paths of web addresses

A path that was read is made of segments that reading leaves as they are: they hold no slash, none
of them stands for dots, and all of their characters are kept. A dot may be written as its code, but
encoding makes no code of a dot: it leaves the bytes that a text stands for. So a path with a
slash at its end is read as its segments with an empty one behind them, and what lies below it
has the path in front.
-/

namespace ApiTypings.Url

open Percent

/-! ## Dots -/

/-- The spellings of one dot in lower case. -/
def loweredDots : List (List Char) := [['.'], ['%', '2', 'e']]

theorem isSingleDot_iff {s : List Char} :
    isSingleDot s = true ↔ s.map Char.toLower ∈ loweredDots := by
  have hdots : [".", "%2e"] = loweredDots.map String.ofList := rfl
  rw [isSingleDot, hdots, List.contains_iff_mem,
    List.mem_map_of_injective fun _ _ => String.ofList_injective]

/-- Two dots are one dot after the other. -/
theorem isDoubleDot_iff {s : List Char} : isDoubleDot s = true ↔
    ∃ first second, s = first ++ second ∧ isSingleDot first = true ∧ isSingleDot second = true := by
  have hdots : ["..", ".%2e", "%2e.", "%2e%2e"] =
      (loweredDots.flatMap fun first => loweredDots.map (first ++ ·)).map String.ofList := rfl
  rw [isDoubleDot, hdots, List.contains_iff_mem,
    List.mem_map_of_injective fun _ _ => String.ofList_injective]
  simp only [isSingleDot_iff, List.mem_flatMap, List.mem_map]
  constructor
  · rintro ⟨lower, hfirst, lower', hsecond, happend⟩
    obtain ⟨first, second, hs, rfl, rfl⟩ := List.map_eq_append_iff.mp happend.symm
    exact ⟨first, second, hs, hfirst, hsecond⟩
  · rintro ⟨first, second, rfl, hfirst, hsecond⟩
    exact ⟨_, hfirst, _, hsecond, List.map_append.symm⟩

/-- A byte below 128 stands only for the character with its number. -/
theorem utf8EncodeChar_ascii {c : Char} {b : UInt8} {bytes : List UInt8}
    (h : String.utf8EncodeChar c = b :: bytes) (hb : b.toNat < 0x80) :
    c.toNat = b.toNat ∧ bytes = [] := by
  have hfirst (n : Nat) (hn : n < 0x100) (h : UInt8.ofNat n = b) : b.toNat = n := by
    rw [← h]
    exact UInt8.toNat_ofNat_of_lt' hn
  have hval : c.toNat = c.val.toNat := rfl
  unfold String.utf8EncodeChar at h
  dsimp only at h
  split_ifs at h
  · obtain ⟨hhead, hrest⟩ := List.cons.inj h
    have hnumber := hfirst _ (by omega) hhead
    exact ⟨by omega, hrest.symm⟩
  · have hnumber := hfirst _ (by omega) (List.cons.inj h).1
    omega
  · have hnumber := hfirst _ (by omega) (List.cons.inj h).1
    omega
  · have hnumber := hfirst _ (by omega) (List.cons.inj h).1
    omega

/-- A property of the characters with a given lower case, checked for those below 128. -/
theorem toLower_forall {P : Char → Prop} {c d : Char} (hd : d.toNat < 0x80)
    (h : ∀ k < 0x80, (Char.ofNat k).toLower = d → P (Char.ofNat k)) (hc : c.toLower = d) : P c := by
  have hascii : c.toNat < 0x80 := by
    rw [← hc] at hd
    unfold Char.toLower at hd
    split at hd
    · next hupper =>
      have hlast : c.val.toNat ≤ 'Z'.val.toNat := UInt32.le_iff_toNat_le.mp hupper.2
      exact Nat.lt_of_le_of_lt hlast (by decide)
    · exact hd
  exact Text.ascii_forall (P := fun c => c.toLower = d → P c) h hascii hc

theorem decode_of_isSingleDot {dot : List Char} (h : isSingleDot dot = true) (rest : List Char) :
    decode (dot ++ rest) = 0x2E :: decode rest := by
  rw [isSingleDot_iff, loweredDots, List.mem_cons, List.mem_singleton] at h
  rcases h with h | h
  · obtain ⟨c, rfl, hc⟩ := List.map_eq_singleton_iff.mp h
    obtain rfl : c = '.' := toLower_forall (P := (· = '.')) (by decide) (by decide) hc
    have hplain : '.' = '%' → ¬ StartsHex rest := fun heq => absurd heq (by decide)
    exact decode_cons hplain
  · obtain ⟨c, s, rfl, hc, hs⟩ := List.map_eq_cons_iff.mp h
    obtain ⟨a, s, rfl, ha, hs⟩ := List.map_eq_cons_iff.mp hs
    obtain ⟨b, rfl, hb⟩ := List.map_eq_singleton_iff.mp hs
    obtain rfl : c = '%' := toLower_forall (P := (· = '%')) (by decide) (by decide) hc
    have ha : hexValue? a = some 2 :=
      toLower_forall (P := fun a => hexValue? a = some 2) (by decide) (by decide) ha
    have hb : hexValue? b = some 14 :=
      toLower_forall (P := fun b => hexValue? b = some 14) (by decide) (by decide) hb
    exact decode_of_hex ha hb rest

/-- A text stands for bytes that start with a dot if it starts with a spelling of one. -/
theorem decode_eq_dot_cons {s : List Char} {bytes : List UInt8} :
    decode s = 0x2E :: bytes ↔
      ∃ dot rest, s = dot ++ rest ∧ isSingleDot dot = true ∧ decode rest = bytes := by
  constructor
  · intro h
    cases s with
    | nil => cases h
    | cons c rest =>
      rcases decode_cases c rest with ⟨a, b, more, m, n, rfl, rfl, ha, hb, hdecode⟩ | hdecode
      · rw [hdecode] at h
        obtain ⟨hbyte, hrest⟩ := List.cons.inj h
        have hm := hexValue?_lt ha
        have hn := hexValue?_lt hb
        have hvalue : m * 16 + n = 0x2E := by
          have hsize : m * 16 + n < UInt8.size := by
            rw [UInt8.size]
            omega
          have hnumber := congrArg UInt8.toNat hbyte
          rwa [UInt8.toNat_ofNat_of_lt' hsize] at hnumber
        have ha' : a.toLower = '2' := hexValue?_forall
          (P := fun c k => k = 2 → c.toLower = '2') (by decide) ha (by omega)
        have hb' : b.toLower = 'e' := hexValue?_forall
          (P := fun c k => k = 14 → c.toLower = 'e') (by decide) hb (by omega)
        refine ⟨['%', a, b], more, rfl, isSingleDot_iff.mpr ?_, hrest⟩
        rw [List.map_cons, List.map_cons, List.map_cons, ha', hb']
        decide
      · rw [hdecode] at h
        cases hchar : String.utf8EncodeChar c with
        | nil => exact (String.utf8EncodeChar_ne_nil hchar).elim
        | cons b more =>
          rw [hchar] at h
          obtain ⟨rfl, hmore⟩ := List.cons.inj h
          obtain ⟨hc, rfl⟩ := utf8EncodeChar_ascii hchar (by decide)
          have hdot : c = '.' := Char.toNat_inj.mp hc
          exact ⟨['.'], rest, by rw [hdot]; rfl, by decide, hmore⟩
  · rintro ⟨dot, rest, rfl, hdot, rfl⟩
    exact decode_of_isSingleDot hdot rest

theorem decode_eq_nil {s : List Char} : decode s = [] ↔ s = [] := by
  refine ⟨fun h => ?_, fun h => by rw [h]; rfl⟩
  cases s with
  | nil => rfl
  | cons c rest =>
    rcases decode_cases c rest with ⟨_, _, _, _, _, _, _, _, _, hdecode⟩ | hdecode
    · rw [hdecode] at h
      cases h
    · rw [hdecode] at h
      exact (String.utf8EncodeChar_ne_nil (List.append_eq_nil_iff.mp h).1).elim

theorem isSingleDot_iff_decode {s : List Char} : isSingleDot s = true ↔ decode s = [0x2E] := by
  rw [decode_eq_dot_cons]
  simp only [decode_eq_nil]
  constructor
  · intro h
    exact ⟨s, [], (List.append_nil s).symm, h, rfl⟩
  · rintro ⟨dot, rest, rfl, hdot, rfl⟩
    rwa [List.append_nil]

theorem isDoubleDot_iff_decode {s : List Char} :
    isDoubleDot s = true ↔ decode s = [0x2E, 0x2E] := by
  rw [decode_eq_dot_cons, isDoubleDot_iff]
  simp only [← isSingleDot_iff_decode]

/-! ## Segments -/

theorem keepsCodes_inPath : KeepsCodes inPath := keepsCodes_of_ascii (by decide) (by decide)

theorem isSingleDot_encode (s : List Char) : isSingleDot (encode inPath s) = isSingleDot s := by
  rw [Bool.eq_iff_iff, isSingleDot_iff_decode, isSingleDot_iff_decode,
    keepsCodes_inPath.decode_encode]

theorem isDoubleDot_encode (s : List Char) : isDoubleDot (encode inPath s) = isDoubleDot s := by
  rw [Bool.eq_iff_iff, isDoubleDot_iff_decode, isDoubleDot_iff_decode,
    keepsCodes_inPath.decode_encode]

/-- Digits and letters are no slashes. -/
theorem isSlash_of_isAlphanum {c : Char} (h : c.isAlphanum = true) (scheme : String) :
    isSlash scheme c = false := by
  have hne : c ≠ '/' ∧ c ≠ '\\' := by
    constructor <;> rintro rfl <;> exact absurd h (by decide)
  rw [isSlash, beq_eq_false_iff_ne.mpr hne.1, beq_eq_false_iff_ne.mpr hne.2, Bool.and_false,
    Bool.or_false]

/-- A segment that stays as it is when a path of the scheme is read. -/
structure IsSegment (scheme : String) (s : String) : Prop where
  undivided : ∀ c ∈ s.toList, isSlash scheme c = false
  noDot : isSingleDot s.toList = false
  noDots : isDoubleDot s.toList = false
  kept : ∀ c ∈ s.toList, inPath c = true

theorem isSegment_empty (scheme : String) : IsSegment scheme "" where
  undivided _ hc := absurd hc List.not_mem_nil
  noDot := by decide
  noDots := by decide
  kept _ hc := absurd hc List.not_mem_nil

variable {scheme : String}

theorem IsSegment.encode_eq {s : String} (h : IsSegment scheme s) :
    String.ofList (encode inPath s.toList) = s := by
  rw [encode_of_all h.kept, String.ofList_toList]

/-- What is added to a path for a piece that is no dots. -/
theorem isSegment_encode {piece : List Char} (h : ∀ c ∈ piece, isSlash scheme c = false)
    (hdot : isSingleDot piece = false) (hdots : isDoubleDot piece = false) :
    IsSegment scheme (.ofList (encode inPath piece)) where
  undivided c hc := by
    rw [String.toList_ofList] at hc
    obtain ⟨d, hd, hc⟩ := List.mem_flatMap.mp hc
    rcases mem_encodeChar hc with ⟨rfl, _⟩ | rfl | ⟨n, hn, rfl⟩
    · exact h c hd
    · rw [isSlash]
      exact Bool.and_false _
    · exact isSlash_of_isAlphanum (hexDigit_isAlphanum hn) scheme
  noDot := by rw [String.toList_ofList, isSingleDot_encode, hdot]
  noDots := by rw [String.toList_ofList, isDoubleDot_encode, hdots]
  kept c hc := keepsCodes_inPath.of_mem_encode (by rwa [String.toList_ofList] at hc)

/-! ## Reading paths -/

theorem Trail.add_eq (t : Trail) (piece : List Char) : t.add false piece =
    if isSingleDot piece then t
    else if isDoubleDot piece then { t with segments := shorten t.segments }
    else { t with segments := t.segments ++ [.ofList (encode inPath piece)] } := by
  unfold add
  rfl

theorem mem_of_mem_shorten {ss : List String} {s : String} (h : s ∈ shorten ss) : s ∈ ss := by
  unfold shorten at h
  split at h
  · exact h
  · exact (List.dropLast_sublist ss).mem h

/-- One more piece leaves a path of segments. -/
theorem Trail.isSegment_add {t : Trail} {piece : List Char}
    (ht : ∀ s ∈ t.segments, IsSegment scheme s) (h : ∀ c ∈ piece, isSlash scheme c = false) :
    ∀ s ∈ (t.add false piece).segments, IsSegment scheme s := by
  rw [add_eq]
  split
  · exact ht
  · next hdot =>
    split
    · exact fun s hs => ht s (mem_of_mem_shorten hs)
    · next hdots =>
      rw [List.forall_mem_append]
      exact ⟨ht, List.forall_mem_singleton.mpr (isSegment_encode h (Bool.eq_false_iff.mpr hdot)
        (Bool.eq_false_iff.mpr hdots))⟩

theorem Trail.isSegment_resolve {pieces : List (List Char)}
    (h : ∀ piece ∈ pieces, ∀ c ∈ piece, isSlash scheme c = false) :
    ∀ s ∈ (resolve false pieces).segments, IsSegment scheme s := by
  have hrun (t : Trail) (ht : ∀ s ∈ t.segments, IsSegment scheme s) :
      ∀ s ∈ (pieces.foldl (add false) t).segments, IsSegment scheme s := by
    induction pieces generalizing t with
    | nil => exact ht
    | cons piece pieces ih =>
      obtain ⟨hpiece, hpieces⟩ := List.forall_mem_cons.mp h
      exact ih hpieces _ (isSegment_add ht hpiece)
  -- Dots at the end add an empty segment behind what was read.
  have hread := hrun ⟨[], false⟩ fun _ hs => absurd hs List.not_mem_nil
  unfold resolve
  dsimp only
  split
  · rw [List.forall_mem_append]
    exact ⟨hread, List.forall_mem_singleton.mpr (isSegment_empty scheme)⟩
  · exact hread

theorem Trail.isSegment_ofText (hfile : isFile scheme = false) (cs : List Char) :
    ∀ s ∈ (ofText scheme cs).segments, IsSegment scheme s := by
  unfold ofText
  split
  · intro s hs
    dsimp only at hs
    split at hs
    · rw [List.mem_singleton.mp hs]
      exact isSegment_empty scheme
    · exact absurd hs List.not_mem_nil
  · rw [hfile]
    exact isSegment_resolve fun piece hpiece => Text.splitChars_not_sep hpiece

/-- Segments are read as they are. -/
theorem Trail.resolve_segments {ss : List String} (h : ∀ s ∈ ss, IsSegment scheme s) :
    (resolve false (ss.map String.toList)).segments = ss := by
  have hrun (t : Trail) :
      ((ss.map String.toList).foldl (add false) t).segments = t.segments ++ ss := by
    induction ss generalizing t with
    | nil => exact (List.append_nil _).symm
    | cons s ss ih =>
      obtain ⟨hs, hss⟩ := List.forall_mem_cons.mp h
      rw [List.map_cons, List.foldl_cons, ih hss, add_eq, hs.noDot, hs.noDots, hs.encode_eq]
      exact (List.append_cons ..).symm
  have hlast : ((ss.map String.toList).getLast?.any fun s => isSingleDot s || isDoubleDot s) =
      false := by
    rw [List.getLast?_map]
    cases hlast : ss.getLast? with
    | none => rfl
    | some s =>
      have hs := h s (List.mem_of_getLast? hlast)
      simp [hs.noDot, hs.noDots]
  unfold resolve
  simp only [hlast]
  exact hrun _

/-! ## Texts of paths -/

theorem text_append (ss ts : List String) :
    (UrlPath.segments (ss ++ ts)).text =
      (UrlPath.segments ss).text ++ (UrlPath.segments ts).text := by
  rw [UrlPath.text, List.map_append, Text.join_empty_append]
  rfl

theorem text_eq_join {ss : List String} (h : ss ≠ []) :
    (UrlPath.segments ss).text = "/" ++ Text.join "/" ss := by
  induction ss with
  | nil => exact (h rfl).elim
  | cons s ss ih =>
    have hfirst : (UrlPath.segments (s :: ss)).text = "/" ++ s ++ (UrlPath.segments ss).text :=
      Text.join_empty_cons _ _
    by_cases hss : ss = []
    · rw [hfirst, hss]
      exact String.append_empty
    · rw [hfirst, ih hss, Text.join_cons_of_ne_nil _ _ hss, String.append_assoc,
        String.append_assoc]

theorem mem_text_segments {ss : List String} {c : Char}
    (h : c ∈ (UrlPath.segments ss).text.toList) : c = '/' ∨ ∃ s ∈ ss, c ∈ s.toList := by
  rcases Text.mem_join h with h | ⟨piece, hpiece, h⟩
  · exact absurd h List.not_mem_nil
  · obtain ⟨s, hs, rfl⟩ := List.mem_map.mp hpiece
    rw [String.toList_append, List.mem_append] at h
    exact h.imp List.mem_singleton.mp fun h => ⟨s, hs, h⟩

/-- A path with a slash at its end, which is added if there is none. -/
def slashed (path : String) : String :=
  if path.toList.getLast? = some '/' then path else path ++ "/"

/-- The segments of a path that others lie below. -/
def directory (ss : List String) : List String :=
  if ss.getLast? = some "" then ss.dropLast else ss

theorem directory_concat (ss : List String) (s : String) :
    directory (ss ++ [s]) = if s = "" then ss else ss ++ [s] := by
  simp only [directory, List.getLast?_concat, Option.some_inj, List.dropLast_concat]

/-- A path ends with a slash exactly if its last segment is empty. -/
theorem slashed_concat {s : String} (hs : IsSegment scheme s) (ss : List String) :
    slashed (UrlPath.segments (ss ++ [s])).text =
      (UrlPath.segments (if s = "" then ss else ss ++ [s])).text ++ "/" := by
  have htext : (UrlPath.segments (ss ++ [s])).text = (UrlPath.segments ss).text ++ ("/" ++ s) :=
    text_append ss [s]
  have hchars : (UrlPath.segments (ss ++ [s])).text.toList =
      (UrlPath.segments ss).text.toList ++ '/' :: s.toList := by
    rw [htext]
    simp
  unfold slashed
  rw [hchars]
  by_cases hempty : s = ""
  · subst hempty
    have hlast : ((UrlPath.segments ss).text.toList ++ '/' :: "".toList).getLast? = some '/' :=
      List.getLast?_concat
    rw [if_pos hlast, if_pos rfl, htext, String.append_empty]
  · -- The last character belongs to the last segment, which holds no slash.
    have hne : s.toList ≠ [] := fun heq => hempty (String.toList_eq_nil_iff.mp heq)
    have hlast : ((UrlPath.segments ss).text.toList ++ '/' :: s.toList).getLast? ≠ some '/' := by
      intro hlast
      have hmem : '/' ∈ s.toList := by
        rw [List.append_cons, List.getLast?_append_of_ne_nil _ hne] at hlast
        exact List.mem_of_getLast? hlast
      exact absurd (hs.undivided _ hmem) (by rw [isSlash]; exact Bool.noConfusion)
    rw [if_neg hlast, if_neg hempty]

/-- What lies below a path has the path in front, with one slash between them. -/
theorem text_below {ss r : List String} (hss : ∀ s ∈ ss, IsSegment scheme s) (hr : r ≠ []) :
    (UrlPath.segments (directory ss ++ r)).text =
      slashed (UrlPath.segments ss).text ++ Text.join "/" r := by
  rw [text_append, text_eq_join hr, ← String.append_assoc]
  rcases List.eq_nil_or_concat ss with rfl | ⟨init, s, rfl⟩
  · rfl
  · have hs := hss s (by simp)
    rw [List.concat_eq_append]
    rw [slashed_concat hs, directory_concat]

/-- With a slash at its end a path is read again as its segments. -/
theorem withSlash_eq {u : Url} {ss : List String} (hpath : u.path = .segments ss)
    (hfile : isFile u.scheme = false) (hss : ∀ s ∈ ss, IsSegment u.scheme s) :
    u.withSlash = { u with path := .segments (directory ss ++ [""]) } := by
  have hread : (Trail.ofText u.scheme (u.path.text ++ "/").toList).segments = ss ++ [""] := by
    have htext : u.path.text ++ "/" = "/" ++ Text.join (.singleton '/') (ss ++ [""]) := by
      have hslash : (UrlPath.segments (ss ++ [""])).text = (UrlPath.segments ss).text ++ "/" :=
        text_append ss [""]
      rw [hpath, ← hslash, text_eq_join (by simp)]
      rfl
    have hsegments : ∀ s ∈ ss ++ [""], IsSegment u.scheme s := by
      rw [List.forall_mem_append]
      exact ⟨hss, List.forall_mem_singleton.mpr (isSegment_empty _)⟩
    have hmark : isSlash u.scheme '/' = true := rfl
    have hpieces : Text.splitChars (isSlash u.scheme)
        (Text.join (.singleton '/') (ss ++ [""])).toList = (ss ++ [""]).map String.toList :=
      Text.splitChars_join hmark (by simp) fun s hs => (hsegments s hs).undivided
    have hslash : "/".toList = ['/'] := rfl
    rw [htext, String.toList_append, hslash, List.singleton_append, Trail.ofText, hmark, hfile]
    simp only [Bool.false_eq_true, if_false, if_true, hpieces]
    exact Trail.resolve_segments hsegments
  by_cases hlast : ss.getLast? = some ""
  · have hsame : u.withSlash = u := by
      rw [withSlash, hpath]
      dsimp only
      rw [if_pos (by rw [hlast, beq_self_eq_true])]
    obtain ⟨init, rfl⟩ := List.getLast?_eq_some_iff.mp hlast
    rw [hsame, directory_concat, if_pos rfl, ← hpath]
  · have hdirectory : directory ss = ss := if_neg hlast
    rw [withSlash, hpath]
    dsimp only
    rw [if_neg (mt beq_iff_eq.mp hlast), ← hpath, hread, hdirectory]

end ApiTypings.Url
