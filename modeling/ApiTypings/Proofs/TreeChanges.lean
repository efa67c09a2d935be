import ApiTypings.Proofs.SteadyStores

/-!
# What changes in a file tree

Making sure of a directory only adds directories, also when it fails after having made some of
those above. Once it has succeeded, doing it again changes nothing, and a file of any name that is
no directory there can be written in the directory, unless its path is longer than calls take. For
a path may be short enough when that of a file below it is not. A write changes the file that its
path leads to or, if it fails, nothing.

The tree may be any, and so may the directory that relative paths start from. Modes and owners,
links, and what goes wrong in a device are left out, as they are in the calls themselves.
-/

namespace ApiTypings

namespace FileTree

/-! ## Added directories -/

/-- A tree with everything that was in another one and with nothing new but directories. -/
structure Grown (t t' : FileTree) : Prop where
  kept : ∀ l entry, t.find? l = some entry → t'.find? l = some entry
  added : ∀ l entry, t.find? l = none → t'.find? l = some entry → entry = .directory

theorem Grown.refl (t : FileTree) : Grown t t where
  kept _ _ h := h
  added l entry hnone h := by
    rw [hnone] at h
    cases h

theorem Grown.trans {t t' t'' : FileTree} (h : Grown t t') (h' : Grown t' t'') : Grown t t'' where
  kept l entry hentry := h'.kept l entry (h.kept l entry hentry)
  added l entry hnone hentry := by
    cases hbetween : t'.find? l with
    | none => exact h'.added l entry hbetween hentry
    | some between =>
      obtain rfl := h.added l between hnone hbetween
      exact Option.some.inj (hentry.symm.trans (h'.kept l _ hbetween))

theorem grown_makeDirectory {t t' : FileTree} {cwd : Location} {path : String}
    (h : t.makeDirectory cwd path = .ok t') : Grown t t' := by
  obtain ⟨l, name, _, _, hfree, rfl⟩ := makeDirectory_eq_ok h
  have hfind := find?_put t (l := l ++ [name]) (by simp) .directory
  constructor
  · intro k entry hentry
    rw [hfind, if_neg]
    · exact hentry
    · rintro rfl
      rw [hfree] at hentry
      cases hentry
  · intro k entry hnone hentry
    rw [hfind] at hentry
    split at hentry
    · exact (Option.some.inj hentry).symm
    · rw [hnone] at hentry
      cases hentry

theorem grown_provide (t : FileTree) (cwd : Location) (path : String) :
    Grown t (t.provide cwd path).1 := by
  unfold provide
  split
  · next t' hmade => exact grown_makeDirectory hmade
  · exact .refl t

/-- What has been made of the directories above stays, whether or not this one can be made. -/
theorem grown_provideAbove (t : FileTree) (cwd : Location) (absolute : Bool) (path : String)
    (above : List String) : Grown t (t.provideAbove cwd absolute path above).1 := by
  induction above generalizing path with
  | nil => exact grown_provide t cwd path
  | cons c above ih =>
    have habove := ih (pathOf absolute (c :: above).reverse)
    unfold provideAbove
    split
    · split
      · next made hmade =>
        rw [hmade] at habove
        exact habove.trans (grown_provide made cwd path)
      · next left error hleft =>
        rw [hleft] at habove
        exact habove
    · exact grown_provide t cwd path

theorem grown_ensureDirectory (t : FileTree) (cwd : Location) (path : String) :
    Grown t (t.ensureDirectory cwd path).1 := by
  unfold ensureDirectory
  split
  · exact .refl t
  · exact grown_provideAbove t cwd _ path _

/-! ## Files in a directory that is there -/

/-- A path that calls take goes on to a name without a zero, if it does not get too long. -/
theorem Takes.join {dir name : String} (h : Takes dir) (hname : Path.IsName name)
    (hzero : '\x00' ∉ name.toList) (hbound : (Path.join dir name).utf8ByteSize ≤ maxPath) :
    Takes (Path.join dir name) where
  bounded := hbound
  nonempty := by
    rw [Path.join_of_isName hname]
    intro hempty
    exact hname.nonempty (String.append_eq_empty_iff.mp hempty).2
  noZero := by
    rw [Path.join_of_isName hname, String.toList_append, List.mem_append, not_or]
    refine ⟨?_, hzero⟩
    have hslash : '\x00' ∉ "/".toList := by decide
    unfold Path.opening
    split
    · simp
    · split
      · exact h.noZero
      · rw [String.toList_append, List.mem_append, not_or]
        exact ⟨h.noZero, hslash⟩

theorem endsInSlash_join {name : String} (h : Path.IsName name) (dir : String) :
    Path.endsInSlash (Path.join dir name) = false := by
  have hne : name.toList ≠ [] := mt String.toList_eq_nil_iff.mp h.nonempty
  rw [Path.join_of_isName h, Path.endsInSlash, String.toList_append,
    List.getLast?_append_of_ne_nil _ hne, beq_eq_false_iff_ne]
  intro hlast
  exact h.noSlash (List.mem_of_getLast? hlast)

/-- The path of a name in a directory leads to that name there. -/
theorem locate_join {t : FileTree} {cwd l : Location} {dir name : String}
    (hwalk : t.walk (start cwd dir) (Path.components dir) = .ok l) (hname : Path.IsName name)
    (htakes : Takes (Path.join dir name)) :
    t.locate cwd (Path.join dir name) = .ok (.name l name) := by
  have hstart : start cwd (Path.join dir name) = start cwd dir := by
    unfold start
    rw [Path.isAbsolute_join hname]
  rw [locate_of_takes htakes, hstart, Path.components_join hname, List.dropLast_concat, hwalk]
  simp [Except.map, targetOf, Path.components_join hname, hname.notSelf, hname.notParent]

/-- In a directory that is there a file can be written exactly if its path is not too long for
calls. -/
theorem writeFile_join {t : FileTree} {cwd : Location} {dir name : String}
    (hdir : t.isDirectory cwd dir = true) (hname : Path.IsName name)
    (hzero : '\x00' ∉ name.toList) (hshort : name.utf8ByteSize ≤ maxName)
    (hfree : t.isDirectory cwd (Path.join dir name) = false) (text : String) :
    (∃ t', t.writeFile cwd (Path.join dir name) text = .ok t') ↔
      (Path.join dir name).utf8ByteSize ≤ maxPath := by
  obtain ⟨htakes, l, hwalk⟩ := (isDirectory_iff t cwd dir).mp hdir
  constructor
  · rintro ⟨t', hwrite⟩
    by_contra hlong
    obtain ⟨e, he⟩ := locate_of_not_takes (fun h : Takes (Path.join dir name) => hlong h.bounded) cwd
    rw [writeFile, he] at hwrite
    cases hwrite
  · intro hbound
    have hlocate := locate_join hwalk hname (htakes.join hname hzero hbound)
    have hentry : t.find? (l ++ [name]) ≠ some .directory := by
      intro hentry
      have hthere : t.isDirectory cwd (Path.join dir name) = true := by
        simp [isDirectory, lookup, hlocate, Nat.not_lt.mpr hshort, hentry]
      rw [hfree] at hthere
      cases hthere
    refine ⟨t.put (l ++ [name]) (.file text), ?_⟩
    rw [writeFile, hlocate]
    simp only [endsInSlash_join hname, Nat.not_lt.mpr hshort, hentry, Bool.false_eq_true, if_false]

/-! ## Calls that are refused -/

theorem isDirectory_of_error {t : FileTree} {cwd : Location} {path : String} {e : CallError}
    (h : t.locate cwd path = .error e) : t.isDirectory cwd path = false := by
  simp [isDirectory, lookup, h]

theorem write_of_error {t : FileTree} {cwd : Location} {path : String} {e : CallError}
    (h : t.locate cwd path = .error e) (text : String) :
    (store cwd).write t path text = (t, some (.write path e.message)) := by
  simp [store, writeFile, h]

/-! ## Written files -/

/-- What is written can be read where it was written. -/
theorem read_of_writeFile {t t' : FileTree} {cwd : Location} {path text : String}
    (h : t.writeFile cwd path text = .ok t') : t'.read cwd path = .ok text := by
  have hfree := writeFile_not_directory h
  obtain ⟨hplace, rfl⟩ := writeFile_ok h
  unfold writeFile at h
  split at h
  · cases h
  · cases h
  · next l name hlocate =>
    split_ifs at h with hslash hlong _
    obtain ⟨htakes, hself, hparent, xs, hxs, hwalk⟩ := locate_eq_name hlocate
    rw [locate_name hlocate] at hplace hfree ⊢
    have hagain : (t.put (l ++ [name]) (.file text)).locate cwd path = .ok (.name l name) := by
      rw [locate_of_takes htakes, hxs, List.dropLast_concat,
        (within_put t hplace hfree (.file text)).walk hwalk]
      simp [Except.map, targetOf, hxs, hself, hparent]
    rw [read, lookup, hagain]
    simp [hlong, hslash, find?_put t hplace]

/-! ## The store of a file tree -/

theorem store_ensureDirectory_eq_none {t t' : FileTree} {cwd : Location} {path : String} :
    (store cwd).ensureDirectory t path = (t', none) ↔ t.ensureDirectory cwd path = (t', none) := by
  simp [store, Prod.ext_iff]

theorem store_write_eq_none {t t' : FileTree} {cwd : Location} {path text : String} :
    (store cwd).write t path text = (t', none) ↔ t.writeFile cwd path text = .ok t' := by
  simp only [store]
  cases t.writeFile cwd path text <;> simp

/-- What the store of a file tree does to the tree. Making sure of a directory adds directories, if
anything. If it succeeds it changes nothing the next time, and a file can be written in the
directory under each name that is no directory there, exactly if calls take its path. A write that
succeeds changes the file that its path leads to, from which the text can then be read, and a write
that fails changes nothing. -/
theorem store_changes (cwd : Location) (t : FileTree) (path : String) :
    Grown t ((store cwd).ensureDirectory t path).1 ∧
      (∀ made, path ≠ "" → (store cwd).ensureDirectory t path = (made, none) →
        (store cwd).ensureDirectory made path = (made, none) ∧
          ∀ name text, Path.IsName name → '\x00' ∉ name.toList → name.utf8ByteSize ≤ maxName →
            made.isDirectory cwd (Path.join path name) = false →
              ((∃ written, (store cwd).write made (Path.join path name) text = (written, none)) ↔
                (Path.join path name).utf8ByteSize ≤ maxPath)) ∧
      (∀ text written, (store cwd).write t path text = (written, none) →
        written.find? (Path.resolve cwd path) = some (.file text) ∧
          written.read cwd path = .ok text ∧
          ∀ l, l ≠ Path.resolve cwd path → written.find? l = t.find? l) ∧
      ∀ text left error, (store cwd).write t path text = (left, some error) → left = t := by
  refine ⟨grown_ensureDirectory t cwd path, ?_, ?_, ?_⟩
  · intro made hne hmade
    have hdir : made.isDirectory cwd path = true :=
      (isDirectory_of_ensureDirectory (store_ensureDirectory_eq_none.mp hmade)).resolve_left hne
    refine ⟨store_ensureDirectory_eq_none.mpr (ensureDirectory_of_isDirectory (.inr hdir)), ?_⟩
    intro name text hname hzero hshort hfree
    simp only [store_write_eq_none]
    exact writeFile_join hdir hname hzero hshort hfree text
  · intro text written hwritten
    have hwrite := store_write_eq_none.mp hwritten
    have hread := read_of_writeFile hwrite
    obtain ⟨hplace, rfl⟩ := writeFile_ok hwrite
    refine ⟨?_, hread, ?_⟩
    · rw [find?_put t hplace, if_pos rfl]
    · intro l hl
      rw [find?_put t hplace, if_neg hl]
  · intro text left error hleft
    simp only [store] at hleft
    cases hwrite : t.writeFile cwd path text with
    | ok t' =>
      rw [hwrite] at hleft
      cases hleft
    | error e =>
      rw [hwrite] at hleft
      cases hleft
      rfl

/-- A directory whose path goes through another one that has to be made first, a file in it, and a
write that is refused since the directory is there. -/
theorem store_changes_parent :
    let made : FileTree := ⟨[(["a"], .directory), (["b"], .directory)]⟩
    let written := made.put ["b", "get.ts"] (.file "text")
    (store []).ensureDirectory empty "a/..//b/" = (made, none) ∧
      (store []).ensureDirectory made "a/..//b/" = (made, none) ∧
      (∃ t, (store []).write made (Path.join "a/..//b/" "get.ts") "text" = (t, none)) ∧
      (store []).write made "b/get.ts" "text" = (written, none) ∧
      written.read [] "b/get.ts" = .ok "text" ∧ written.find? ["a"] = some .directory ∧
      ∃ left error, (store []).write made "b" "text" = (left, some error) ∧ left = made := by
  intro made written
  have hmade : (store []).ensureDirectory empty "a/..//b/" = (made, none) := by decide +kernel
  have hwritten : (store []).write made "b/get.ts" "text" = (written, none) := by decide +kernel
  have hrefused : (store []).write made "b" "text" =
      (made, some (.write "b" "Is a directory (os error 21)")) := by decide +kernel
  have hname : Path.IsName "get.ts" := ⟨by decide, by decide, by decide, by decide⟩
  obtain ⟨_, hagain, _⟩ := store_changes [] empty "a/..//b/"
  obtain ⟨hsame, hfile⟩ := hagain made (by decide) hmade
  obtain ⟨_, _, hwrite, _⟩ := store_changes [] made "b/get.ts"
  obtain ⟨_, hread, hothers⟩ := hwrite "text" written hwritten
  obtain ⟨_, _, _, hkeep⟩ := store_changes [] made "b"
  have hother := hothers ["a"] (by decide +kernel)
  exact ⟨hmade, hsame,
    (hfile "get.ts" "text" hname (by decide) (by decide) (by decide +kernel)).mpr (by decide),
    hwritten, hread, hother, made, _, hrefused, hkeep "text" made _ hrefused⟩

/-! ## A directory with a long path -/

/-- The directory itself, said many times. -/
def longPath (n : Nat) : String := Text.join "/" (List.replicate (n + 1) ".")

theorem longPath_succ (n : Nat) : longPath (n + 1) = "./" ++ longPath n := by
  unfold longPath
  rw [List.replicate_succ, Text.join_cons_of_ne_nil _ _ (by simp)]
  rfl

theorem utf8ByteSize_longPath (n : Nat) : (longPath n).utf8ByteSize = 2 * n + 1 := by
  induction n with
  | zero => rfl
  | succ n ih =>
    have hstep : "./".utf8ByteSize = 2 := rfl
    rw [longPath_succ, String.utf8ByteSize_append, ih, hstep]
    omega

theorem join_longPath (n : Nat) {name : String} (h : Path.IsName name) :
    Path.join (longPath n) name = longPath n ++ "/" ++ name := by
  have hlast : (longPath n).toList.getLast? = some '.' := by
    induction n with
    | zero => rfl
    | succ n ih =>
      rw [longPath_succ, String.toList_append, List.getLast?_append, ih]
      rfl
  rw [Path.join_of_isName h, Path.opening, hlast]
  rfl

theorem zero_not_mem_longPath (n : Nat) : '\x00' ∉ (longPath n).toList := by
  intro hzero
  rcases Text.mem_join hzero with hslash | ⟨c, hc, hdot⟩
  · exact absurd hslash (by decide)
  · rw [List.eq_of_mem_replicate hc] at hdot
    exact absurd hdot (by decide)

theorem ne_empty_longPath (n : Nat) : longPath n ≠ "" := by
  intro hempty
  have hsize := utf8ByteSize_longPath n
  rw [hempty] at hsize
  cases hsize

theorem isDirectory_longPath {n : Nat} (h : 2 * n + 1 ≤ maxPath) (t : FileTree) (cwd : Location) :
    t.isDirectory cwd (longPath n) = true := by
  have hcomponents : Path.components (longPath n) = List.replicate (n + 1) "." :=
    Path.components_join_of_noSlash fun c hc => by
      rw [List.eq_of_mem_replicate hc]
      decide
  refine (isDirectory_iff t cwd _).mpr
    ⟨⟨zero_not_mem_longPath n, ne_empty_longPath n, ?_⟩, ?_⟩
  · rwa [utf8ByteSize_longPath]
  · rw [hcomponents, ← walk_steps, List.filter_eq_nil_iff.mpr]
    · exact ⟨_, rfl⟩
    · intro c hc
      rw [List.eq_of_mem_replicate hc]
      decide

theorem utf8Len_replicate (n : Nat) : String.utf8Len (List.replicate n 'a') = n := by
  induction n with
  | zero => rfl
  | succ n ih =>
    rw [List.replicate_succ, String.utf8Len_cons, ih]
    rfl

/-- A name of the allowed length. -/
def longName : String := .ofList (List.replicate maxName 'a')

theorem isName_longName : Path.IsName longName ∧ '\x00' ∉ longName.toList ∧
    longName.utf8ByteSize = maxName := by
  have hlist : longName.toList = List.replicate maxName 'a' := String.toList_ofList
  have hne (s : String) (hs : s.toList.length < maxName) : longName ≠ s := by
    rintro rfl
    rw [hlist, List.length_replicate] at hs
    exact absurd hs (Nat.lt_irrefl _)
  refine ⟨⟨?_, hne _ (by decide), hne _ (by decide), hne _ (by decide)⟩, ?_, ?_⟩
  · simp [hlist]
  · simp [hlist]
  · rw [longName, String.utf8ByteSize_ofList, utf8Len_replicate]

/-- Calls do not take the path of such a file in a directory with a long path. -/
theorem locate_longName {n : Nat} (h : maxPath < 2 * n + 2 + maxName) (t : FileTree)
    (cwd : Location) :
    t.locate cwd (Path.join (longPath n) longName) = .error .nameTooLong := by
  obtain ⟨hname, hzero, hsize⟩ := isName_longName
  have hslash : "/".utf8ByteSize = 1 := rfl
  rw [join_longPath n hname]
  generalize hpath : longPath n ++ "/" ++ longName = path
  have hlong : maxPath < path.utf8ByteSize := by
    rw [← hpath, String.utf8ByteSize_append, String.utf8ByteSize_append, hslash, hsize,
      utf8ByteSize_longPath]
    omega
  have hnoZero : '\x00' ∉ path.toList := by
    rw [← hpath, String.toList_append, String.toList_append]
    simp [zero_not_mem_longPath, hzero]
  have hne : path ≠ "" := by
    rintro rfl
    exact Nat.not_lt_zero _ hlong
  simp [locate, hnoZero, hne, hlong]

/-- A directory is there, and its path is not too long for calls, but a file in it with a name of
the allowed length cannot be written, as the path of the file is too long. -/
theorem no_file_below_long_path :
    (store []).ensureDirectory empty (longPath 1949) = (empty, none) ∧
      longPath 1949 ≠ "" ∧
      Path.IsName longName ∧ '\x00' ∉ longName.toList ∧ longName.utf8ByteSize = maxName ∧
      empty.isDirectory [] (Path.join (longPath 1949) longName) = false ∧
      (store []).write empty (Path.join (longPath 1949) longName) "text" =
        (empty, some (.write (Path.join (longPath 1949) longName)
          "File name too long (os error 36)")) := by
  have hdir : 2 * 1949 + 1 ≤ maxPath := by unfold maxPath; omega
  have hfile : maxPath < 2 * 1949 + 2 + maxName := by unfold maxPath maxName; omega
  have hthere := isDirectory_longPath hdir empty []
  have hlocate := locate_longName hfile empty []
  obtain ⟨hname, hzero, hsize⟩ := isName_longName
  exact ⟨store_ensureDirectory_eq_none.mpr (ensureDirectory_of_isDirectory (.inr hthere)),
    ne_empty_longPath 1949, hname, hzero, hsize, isDirectory_of_error hlocate,
    write_of_error hlocate "text"⟩

end FileTree

end ApiTypings
