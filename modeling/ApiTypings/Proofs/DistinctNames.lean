import ApiTypings.Proofs.Scheduling
import ApiTypings.Proofs.SteadyStores
import Mathlib.Data.List.Nodup
import Mathlib.Data.List.Perm.Basic

/-!
# Batches whose modules have different names

What a batch does for an interface is its account: the module that is written and its path, the
entry about its failure and the entry about what it was generated from. When no two modules have
one name, the account of an interface follows from what was fetched for it and from how its own
write ended, and the result of the batch is made of the accounts in selection order.

The turns share the names that are taken, the store and the result. Of the names a turn learns
only whether its own is taken, and it is not, by the invariant that the names taken are those of
other interfaces. On a steady store the end of a write does not depend on the writes before it
either.
-/

namespace ApiTypings

/-- How an event tells that a write ended, with or without an error. -/
def BatchEvent.ended? : BatchEvent → Option (Option StoreError)
  | .writeEnded _ _ _ error => some error
  | _ => none

theorem BatchEvent.ended?_of_attempt? {ev : BatchEvent} (h : ev.attempt? = none) :
    ev.ended? = none := by
  cases ev <;> first | rfl | cases h

namespace Batch

variable {σ : Type}

/-! ## Accounts -/

/-- The name of the module generated from a fetched detail. -/
def Fetched.fileName (f : Fetched) : String := (Module.ofDetail f.detail).fileName

/-- What a batch did for one interface. -/
structure Account where
  /-- The path and the module that were written. -/
  written : Option (String × Module)
  failure : Option Failure
  degradation : Option Failure

/-- What follows for an interface from its detail, from why that is only what the listing says, and
from how the write of its module ended. -/
def Account.of (destination : String) (detail : Detail) (reason : Option Reason)
    (error : Option StoreError) : Account where
  written :=
    match error with
    | none => some (Path.join destination (Module.ofDetail detail).fileName, Module.ofDetail detail)
    | some _ => none
  failure := error.map fun error => ⟨detail.id, .write error⟩
  degradation := reason.map fun reason => ⟨detail.id, reason⟩

/-- The result that consists of accounts. -/
def ofAccounts (accounts : List Account) : BatchResult where
  succeeded := (accounts.filterMap Account.written).length
  failures := accounts.filterMap Account.failure
  degraded := accounts.filterMap Account.degradation
  outputs := (accounts.filterMap Account.written).map Prod.snd
  files := (accounts.filterMap Account.written).map Prod.fst

/-- How the writes of a batch ended. -/
def Run.errors (r : Run σ) : List (Option StoreError) := r.events.filterMap BatchEvent.ended?

/-- The accounts of a batch, by what its source answers and how its writes ended. -/
def accounts (e : Setting σ) (selection : List Summary) (store : σ) : List Account :=
  List.zipWith (fun f error => .of e.destination f.detail f.reason error)
    (Fetching.answers e.source selection) (run e selection store).errors

/-- How a write to a file of the destination ends right after that was made. -/
def Setting.writeError (e : Setting σ) (store : σ) (file : String) : Option StoreError :=
  (e.store.write (e.store.ensureDirectory store e.destination).1 (Path.join e.destination file)
    "").2

/-! ## Turns that get the plain name -/

/-- A turn whose write is tried under the plain name of its module. -/
def Turn.Plain (t : Turn) : Prop :=
  t.fate = .written t.fetched.fileName ∨ ∃ error, t.fate = .failed t.fetched.fileName error

theorem choose_of_free (collision : Collision) {taken : Taken} {m : Module}
    (h : Assoc.find? m.fileName taken = none) : choose collision taken m = .plain m.fileName := by
  unfold choose
  rw [h]

theorem turnOf_plain_of_free (e : Setting σ) {w : Writing σ} {f : Fetched}
    (h : Assoc.find? f.fileName w.taken = none) : (turnOf e w f).Plain := by
  have hfate : fateOf e w f = writeFate e w (Module.ofDetail f.detail) f.fileName := by
    unfold fateOf
    simp only [choose_of_free _ h]
    rfl
  unfold Turn.Plain
  simp only [turnOf, hfate]
  rcases writeFate_cases e w (Module.ofDetail f.detail) f.fileName with
    ⟨_, _, hend⟩ | ⟨_, error, _, hend⟩
  · exact .inl hend
  · exact .inr ⟨error, hend⟩

theorem Turn.Plain.file? {t : Turn} (h : t.Plain) : t.file? = some t.fetched.fileName := by
  unfold Turn.file?
  rcases h with hfate | ⟨_, hfate⟩ <;> rw [hfate]

/-- A turn under its plain name takes that name or none. -/
theorem Turn.Plain.find?_takenAfter {t : Turn} (h : t.Plain) {taken : Taken} {file : String}
    (hne : file ≠ t.fetched.fileName) (hfree : Assoc.find? file taken = none) :
    Assoc.find? file (t.takenAfter taken) = none := by
  unfold Turn.takenAfter
  rcases h with hfate | ⟨_, hfate⟩ <;> rw [hfate]
  · simp only [Assoc.find?_put, if_neg hne, hfree]
  · exact hfree

/-- When the names of modules are different and none is taken, every turn gets its plain name. -/
theorem Course.plain {e : Setting σ} {w w' : Writing σ} {ts : List Turn} (h : Course e w ts w')
    (hnodup : (ts.map fun t => t.fetched.fileName).Nodup)
    (hfree : ∀ t ∈ ts, Assoc.find? t.fetched.fileName w.taken = none) : ∀ t ∈ ts, t.Plain := by
  -- No name of a later turn is taken, since those taken are the names of earlier ones.
  induction h with
  | done w => simp
  | @turn w w' f ts _ _ _ ih =>
    obtain ⟨hother, hrest⟩ := List.nodup_cons.mp hnodup
    have hfirst : (turnOf e w f).Plain := turnOf_plain_of_free e (hfree (turnOf e w f) (by simp))
    refine List.forall_mem_cons.mpr ⟨hfirst, ih hrest ?_⟩
    intro t ht
    rw [(process_spec e w f).2.1]
    apply hfirst.find?_takenAfter
    · intro heq
      exact hother (List.mem_map.mpr ⟨t, ht, heq⟩)
    · exact hfree t (by simp [ht])

/-! ## The account of a turn -/

def Turn.account (destination : String) (t : Turn) : Account :=
  .of destination t.fetched.detail t.fetched.reason t.error?

theorem Turn.Plain.account_spec {t : Turn} (h : t.Plain) (destination : String) :
    t.output? = (t.account destination).written.map Prod.snd ∧
      t.path? destination = (t.account destination).written.map Prod.fst ∧
      t.failure? = (t.account destination).failure ∧
      t.write? destination = (t.account destination).written := by
  unfold Turn.account Account.of Turn.output? Turn.path? Turn.failure? Turn.write? Turn.error?
    Turn.generated
  rcases h with hfate | ⟨_, hfate⟩ <;>
    simp only [hfate, Fetched.fileName, Option.map_some, Option.map_none, and_self]

/-- Turns under plain names add up to the result of their accounts. -/
theorem result_of_plain {ts : List Turn} (h : ∀ t ∈ ts, t.Plain) (destination : String) :
    ofAccounts (ts.map (Turn.account destination)) =
      { succeeded := (ts.filterMap Turn.output?).length
        failures := ts.filterMap Turn.failure?
        degraded := ts.filterMap Turn.degradation?
        outputs := ts.filterMap Turn.output?
        files := ts.filterMap (Turn.path? destination) } := by
  have houtputs : ts.filterMap Turn.output? =
      (ts.filterMap fun t => (t.account destination).written).map Prod.snd := by
    rw [List.map_filterMap]
    exact List.filterMap_congr fun t ht => ((h t ht).account_spec destination).1
  have hpaths : ts.filterMap (Turn.path? destination) =
      (ts.filterMap fun t => (t.account destination).written).map Prod.fst := by
    rw [List.map_filterMap]
    exact List.filterMap_congr fun t ht => ((h t ht).account_spec destination).2.1
  have hfailures : ts.filterMap Turn.failure? =
      ts.filterMap fun t => (t.account destination).failure :=
    List.filterMap_congr fun t ht => ((h t ht).account_spec destination).2.2.1
  rw [houtputs, hpaths, hfailures]
  simp only [ofAccounts, List.filterMap_map, List.length_map]
  rfl

theorem Course.errors {e : Setting σ} {w w' : Writing σ} {ts : List Turn} (h : Course e w ts w')
    (hplain : ∀ t ∈ ts, t.Plain) :
    w'.events.filterMap BatchEvent.ended? =
      w.events.filterMap BatchEvent.ended? ++ ts.map Turn.error? := by
  have hended : ts.filterMap (fun t => (t.ending? e.destination).bind BatchEvent.ended?) =
      ts.map Turn.error? := by
    rw [← List.filterMap_eq_map]
    apply List.filterMap_congr
    intro t ht
    rw [Turn.ending?, (hplain t ht).file?]
    rfl
  rw [h.endings fun _ => BatchEvent.ended?_of_attempt?, hended]

/-- On a steady store the write of a turn ends as it would have ended before all turns. -/
theorem Course.error?_eq {e : Setting σ} (steady : e.store.Steady) {store opened : σ}
    (hopened : e.store.ensureDirectory store e.destination = (opened, none)) {w w' : Writing σ}
    {ts : List Turn} (h : Course e w ts w')
    (hw : e.store.Reaches e.destination opened w.store) :
    ∀ t ∈ ts, ∀ file, t.file? = some file →
      t.error? = (e.store.write opened (Path.join e.destination file) "").2 := by
  induction h with
  | done w => simp
  | @turn w w' f ts _ _ _ ih =>
    refine List.forall_mem_cons.mpr ⟨?_, ih (process_reaches e w f hw)⟩
    intro file hfile
    have hin : Path.ModuleIn e.destination file (Path.join e.destination file) := by
      rw [turnOf_file?] at hfile
      exact (isModule_of_choose hfile).moduleIn e.destination
    have houtcome := steady.outcome (turnOf e w f).generated.emit "" hopened hw hin
    have heffect := (process_spec e w f).2.2.1
    unfold Turn.Effect at heffect
    unfold Turn.file? at hfile
    unfold Turn.error?
    cases hfate : (turnOf e w f).fate with
    | refused name earlier =>
      rw [hfate] at hfile
      cases hfile
    | written name =>
      rw [hfate] at heffect hfile
      cases hfile
      rw [← houtcome, heffect]
    | failed name error =>
      rw [hfate] at heffect hfile
      cases hfile
      rw [← houtcome, heffect]

/-! ## Batches whose modules have different names -/

/-- A batch that is not cancelled, about different interfaces whose modules have different
names. -/
structure Separate (e : Setting σ) (selection : List Summary) (store : σ) : Prop where
  uncancelled : (run e selection store).cancelled = false
  ids : (selection.map (·.id)).Nodup
  names : ((Fetching.answers e.source selection).map Fetched.fileName).Nodup

/-- The turns of a batch that is not cancelled are about all that the source answered. -/
theorem exists_course {e : Setting σ} {selection : List Summary} {opened : σ}
    (hselection : selection ≠ []) (h : (generate e selection opened).cancelled = false) :
    ∃ ts w, Course e ⟨.empty, [], opened, [], false⟩ ts w ∧
      Fetching.answers e.source selection = ts.map Turn.fetched ∧
      (generate e selection opened).outcome = .ok w.result ∧
      (generate e selection opened).store = w.store ∧
      ∀ (β : Type) (g : BatchEvent → Option β), (∀ ev, ev.attempt? = none → g ev = none) →
        (generate e selection opened).events.filterMap g = w.events.filterMap g := by
  have hfetching := fetching_of_not_cancelled hselection h
  rw [generate_eq_written hfetching] at h ⊢
  obtain ⟨ts, w, hcourse, hend⟩ := all_cases e ⟨.empty, [], opened, [], false⟩
    (Fetching.answers e.source selection)
  unfold written at h ⊢
  rcases hend with ⟨hfs, hall⟩ | ⟨f, rest, _, hc, ⟨_, hall⟩ | ⟨_, hall⟩⟩ <;> rw [hall] at h ⊢
  · refine ⟨ts, w, hcourse, hfs, rfl, rfl, ?_⟩
    intro β g hg
    have hopening : (openingEvents e selection).filterMap g = [] :=
      List.filterMap_eq_nil_iff.mpr fun ev hev => hg ev (opening_silent e selection ev hev).2
    have hfinished : g (.finished w.result.succeeded w.result.failures.length
        w.result.degraded.length) = none := hg _ rfl
    simp [Run.after, conclude, hopening, hfinished]
  · exact (Bool.false_ne_true (h.symm.trans hc)).elim
  · exact (Bool.false_ne_true (h.symm.trans hc)).elim

/-- The turns of a batch whose modules have different names, with its result and its accounts. -/
theorem Separate.exists_turns {e : Setting σ} {selection : List Summary} {store : σ}
    (h : Separate e selection store) {r : BatchResult}
    (hr : (run e selection store).outcome = .ok r) :
    ∃ opened ts w, e.store.ensureDirectory store e.destination = (opened, none) ∧
      Course e ⟨.empty, [], opened, [], false⟩ ts w ∧
      (ts.map fun t => t.fetched.fileName).Nodup ∧ (∀ t ∈ ts, t.Plain) ∧
      Fetching.answers e.source selection = ts.map Turn.fetched ∧ r = w.result ∧
      (run e selection store).store = w.store ∧
      (run e selection store).events.filterMap BatchEvent.attempt? =
        ts.filterMap (Turn.attempt? e.destination) ∧
      (run e selection store).errors = ts.map Turn.error? ∧
      accounts e selection store = ts.map (Turn.account e.destination) := by
  obtain ⟨hselection, opened, hopened, hrun⟩ := run_ok hr
  have hcancelled := h.uncancelled
  rw [hrun] at hcancelled hr
  obtain ⟨ts, w, hcourse, hanswers, houtcome, hstore, hevents⟩ :=
    exists_course hselection hcancelled
  have hnames : (ts.map fun t => t.fetched.fileName).Nodup := by
    have hnames := h.names
    rw [hanswers, List.map_map] at hnames
    exact hnames
  have hplain := hcourse.plain hnames fun _ _ => rfl
  have hended : (run e selection store).errors = ts.map Turn.error? := by
    rw [Run.errors, hrun, hevents _ _ fun _ => BatchEvent.ended?_of_attempt?,
      hcourse.errors hplain]
    rfl
  have hattempts : (run e selection store).events.filterMap BatchEvent.attempt? =
      ts.filterMap (Turn.attempt? e.destination) := by
    rw [hrun, hevents _ _ fun _ => id, hcourse.attempts]
    rfl
  refine ⟨opened, ts, w, hopened, hcourse, hnames, hplain, hanswers, ?_, by rw [hrun, hstore],
    hattempts, hended, ?_⟩
  · rw [houtcome] at hr
    exact (Except.ok.inj hr).symm
  · rw [accounts, hended, hanswers, List.zipWith_map, List.zipWith_self]
    rfl

/-- The result of a batch whose modules have different names is made of its accounts. -/
theorem Separate.result {e : Setting σ} {selection : List Summary} {store : σ}
    (h : Separate e selection store) {r : BatchResult}
    (hr : (run e selection store).outcome = .ok r) :
    r = ofAccounts (accounts e selection store) := by
  obtain ⟨_, ts, w, _, hcourse, _, hplain, _, rfl, _, _, _, haccounts⟩ := h.exists_turns hr
  rw [haccounts, result_of_plain hplain, hcourse.result]
  simp [BatchResult.empty]

theorem Separate.length_accounts {e : Setting σ} {selection : List Summary} {store : σ}
    (h : Separate e selection store) {r : BatchResult}
    (hr : (run e selection store).outcome = .ok r) :
    (accounts e selection store).length = selection.length := by
  obtain ⟨_, ts, _, _, _, _, _, hanswers, _, _, _, _, haccounts⟩ := h.exists_turns hr
  rw [haccounts, List.length_map, ← Fetching.length_answers e.source selection, hanswers,
    List.length_map]

/-- Such a batch tries each module once, under its own name. -/
theorem Separate.attempts {e : Setting σ} {selection : List Summary} {store : σ}
    (h : Separate e selection store) {r : BatchResult}
    (hr : (run e selection store).outcome = .ok r) :
    (run e selection store).events.filterMap BatchEvent.attempt? =
      (Fetching.answers e.source selection).map fun f =>
        (Path.join e.destination f.fileName, (Module.ofDetail f.detail).emit) := by
  obtain ⟨_, ts, _, _, _, _, hplain, hanswers, _, _, hattempts, _⟩ := h.exists_turns hr
  rw [hattempts, hanswers, List.map_map, ← List.filterMap_eq_map]
  apply List.filterMap_congr
  intro t ht
  rw [Turn.attempt?, (hplain t ht).file?]
  rfl

/-- On a steady store every write ends as it would have ended right after the destination was
made. -/
theorem Separate.errors_eq {e : Setting σ} (steady : e.store.Steady) {selection : List Summary}
    {store : σ} (h : Separate e selection store) {r : BatchResult}
    (hr : (run e selection store).outcome = .ok r) :
    (run e selection store).errors =
      (Fetching.answers e.source selection).map fun f => e.writeError store f.fileName := by
  obtain ⟨opened, ts, w, hopened, hcourse, _, hplain, hanswers, _, _, _, herrors, _⟩ :=
    h.exists_turns hr
  rw [herrors, hanswers, List.map_map]
  apply List.map_congr_left
  intro t ht
  rw [hcourse.error?_eq steady hopened .start t ht _ (hplain t ht).file?]
  simp only [Function.comp_apply, Setting.writeError, hopened]

/-- The account that a position has on a steady store. -/
def Setting.account (e : Setting σ) (store : σ) (f : Fetched) : Account :=
  .of e.destination f.detail f.reason (e.writeError store f.fileName)

theorem Separate.accounts_eq {e : Setting σ} (steady : e.store.Steady) {selection : List Summary}
    {store : σ} (h : Separate e selection store) {r : BatchResult}
    (hr : (run e selection store).outcome = .ok r) :
    accounts e selection store = (Fetching.answers e.source selection).map (e.account store) := by
  rw [accounts, h.errors_eq steady hr, List.zipWith_map_right, List.zipWith_self]
  rfl

/-! ## Files -/

section Files
variable {κ : Type} [DecidableEq κ] {place : String → κ} {held : σ → κ → Option String}

/-- Writes to different files come to the same in any order. -/
theorem overwritten_perm {writes writes' : List (String × Module)} (hperm : writes.Perm writes')
    (hapart : ∀ v ∈ writes, ∀ w ∈ writes, place v.1 = place w.1 → v = w)
    (files : κ → Option String) :
    overwritten place writes files = overwritten place writes' files := by
  apply hperm.foldl_eq'
  intro v hv w hw files
  by_cases hplace : place v.1 = place w.1
  · rw [hapart v hv w hw hplace]
  · exact Function.update_comm hplace _ _ _

/-- Of writes to different files each is what its file holds. -/
theorem overwritten_mem {writes : List (String × Module)} {w : String × Module} (hw : w ∈ writes)
    (hapart : ∀ v ∈ writes, place v.1 = place w.1 → v = w) (files : κ → Option String) :
    overwritten place writes files (place w.1) = some w.2.emit := by
  obtain ⟨before, after, hsplit, hnot⟩ := List.eq_append_cons_of_mem (List.mem_reverse.mpr hw)
  have hwrites : writes = after.reverse ++ w :: before.reverse := by
    rw [← List.reverse_reverse writes, hsplit]
    simp
  rw [hwrites]
  apply overwritten_last
  intro v hv heq
  have hin : v ∈ writes := by simp [hwrites, List.mem_reverse.mp hv]
  rw [hapart v hin heq] at hv
  exact hnot (List.mem_reverse.mp hv)

/-- Turns whose modules have different names write to different files. -/
theorem turns_apart {s : Store σ} (law : s.Lawful place held) {destination : String}
    {ts : List Turn} (hnames : (ts.map fun t => t.fetched.fileName).Nodup) {t t' : Turn}
    (ht : t ∈ ts) (ht' : t' ∈ ts)
    (h : place (Path.join destination t.fetched.fileName) =
      place (Path.join destination t'.fetched.fileName)) : t = t' :=
  List.inj_on_of_nodup_map hnames ht ht'
    (law.apart _ _ _ (isModule_fileName t.fetched.detail).isName
      (isModule_fileName t'.fetched.detail).isName h)

theorem Turn.account_written {destination : String} {t : Turn} {v : String × Module}
    (h : (t.account destination).written = some v) :
    v = (Path.join destination t.fetched.fileName, t.generated) := by
  unfold Turn.account Account.of at h
  simp only at h
  split at h
  · rw [← Option.some.inj h, Fetched.fileName, Turn.generated]
  · cases h

/-- Among the writes of such turns the one to the file of a turn is its own. -/
theorem written_of_place {s : Store σ} (law : s.Lawful place held) {destination : String}
    {ts : List Turn} (hnames : (ts.map fun t => t.fetched.fileName).Nodup) {t : Turn} (ht : t ∈ ts)
    {v : String × Module}
    (hv : v ∈ (ts.map (Turn.account destination)).filterMap Account.written)
    (h : place v.1 = place (Path.join destination t.fetched.fileName)) :
    (t.account destination).written = some v := by
  rw [List.filterMap_map] at hv
  obtain ⟨t', ht', hwritten⟩ := List.mem_filterMap.mp hv
  obtain rfl := Turn.account_written hwritten
  simp only at h
  rw [← turns_apart law hnames ht' ht h]
  exact hwritten

theorem writes_apart {s : Store σ} (law : s.Lawful place held) {destination : String}
    {ts : List Turn} (hnames : (ts.map fun t => t.fetched.fileName).Nodup) :
    ∀ v ∈ (ts.map (Turn.account destination)).filterMap Account.written,
      ∀ w ∈ (ts.map (Turn.account destination)).filterMap Account.written,
        place v.1 = place w.1 → v = w := by
  intro v hv w hw h
  rw [List.filterMap_map] at hw
  obtain ⟨t, ht, hwritten⟩ := List.mem_filterMap.mp hw
  obtain rfl := Turn.account_written hwritten
  simp only at h
  exact Option.some.inj ((written_of_place law hnames ht hv h).symm.trans hwritten)

/-- The file of a turn holds its module in the end, or what it held before if that was not
written. -/
theorem overwritten_own {s : Store σ} (law : s.Lawful place held) {destination : String}
    {ts : List Turn} (hnames : (ts.map fun t => t.fetched.fileName).Nodup) {t : Turn} (ht : t ∈ ts)
    (files : κ → Option String) :
    overwritten place ((ts.map (Turn.account destination)).filterMap Account.written) files
        (place (Path.join destination t.fetched.fileName)) =
      ((t.account destination).written.map fun v => v.2.emit).or
        (files (place (Path.join destination t.fetched.fileName))) := by
  cases hwritten : (t.account destination).written with
  | none =>
    apply overwritten_other
    intro v hv h
    rw [written_of_place law hnames ht hv h] at hwritten
    cases hwritten
  | some v =>
    have hv : v ∈ (ts.map (Turn.account destination)).filterMap Account.written := by
      rw [List.filterMap_map]
      exact List.mem_filterMap.mpr ⟨t, ht, hwritten⟩
    obtain rfl := Turn.account_written hwritten
    have hholds := overwritten_mem hv (fun w hw h => writes_apart law hnames w hw _ hv h) files
    simp only at hholds
    rw [hholds]
    rfl

/-- The files after a batch whose modules have different names. -/
theorem Separate.files {e : Setting σ} (law : e.store.Lawful place held)
    {selection : List Summary} {store : σ} (h : Separate e selection store) {r : BatchResult}
    (hr : (run e selection store).outcome = .ok r) :
    held (run e selection store).store =
      overwritten place ((accounts e selection store).filterMap Account.written) (held store) := by
  obtain ⟨opened, ts, w, hopened, hcourse, _, hplain, _, _, hstore, _, _, haccounts⟩ :=
    h.exists_turns hr
  have hdirectory := law.directory store e.destination
  rw [hopened] at hdirectory
  have hwrites : ts.filterMap (Turn.write? e.destination) =
      (ts.map (Turn.account e.destination)).filterMap Account.written := by
    rw [List.filterMap_map]
    exact List.filterMap_congr fun t ht => ((hplain t ht).account_spec e.destination).2.2.2
  rw [hstore, hcourse.held law, haccounts, hwrites]
  exact congrArg _ hdirectory

theorem Separate.accounts_apart {e : Setting σ} (law : e.store.Lawful place held)
    {selection : List Summary} {store : σ} (h : Separate e selection store) {r : BatchResult}
    (hr : (run e selection store).outcome = .ok r) :
    ∀ v ∈ (accounts e selection store).filterMap Account.written,
      ∀ w ∈ (accounts e selection store).filterMap Account.written,
        place v.1 = place w.1 → v = w := by
  obtain ⟨_, ts, _, _, _, hnames, _, _, _, _, _, _, haccounts⟩ := h.exists_turns hr
  rw [haccounts]
  exact writes_apart law hnames

/-- The file of a position depends on the account of that position alone. -/
theorem Separate.file_own {e : Setting σ} (law : e.store.Lawful place held)
    {selection : List Summary} {store : σ} (h : Separate e selection store) {r : BatchResult}
    (hr : (run e selection store).outcome = .ok r) {j : Nat} {f : Fetched} {a : Account}
    (hf : (Fetching.answers e.source selection)[j]? = some f)
    (ha : (accounts e selection store)[j]? = some a) :
    held (run e selection store).store (place (Path.join e.destination f.fileName)) =
      (a.written.map fun v => v.2.emit).or
        (held store (place (Path.join e.destination f.fileName))) := by
  rw [h.files law hr]
  obtain ⟨_, ts, _, _, _, hnames, _, hanswers, _, _, _, _, haccounts⟩ := h.exists_turns hr
  rw [hanswers, List.getElem?_map] at hf
  obtain ⟨t, ht, rfl⟩ := Option.map_eq_some_iff.mp hf
  rw [haccounts, List.getElem?_map, ht] at ha
  cases ha
  rw [haccounts]
  exact overwritten_own law hnames (List.mem_of_getElem? ht) _

end Files

end Batch

end ApiTypings
