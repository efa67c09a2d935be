import ApiTypings.Command.Run
import ApiTypings.Proofs.Containment

/-!
# The exit status of generating

A command that generates modules goes through stages: settings, listing, selection, and the batch.
Each of them may end it with a reason, and then it exits with 1 and has changed no file; after the
batch it exits with 0 exactly if the batch wrote a module.

What was written is read off the events of the batch, which tell of every write how it ended. That
they tell the truth is shown by the files: after the command they are what the writes that
succeeded make of the files before it.
-/

namespace ApiTypings

/-- The path and the text that an event tells were written. -/
def BatchEvent.wrote? : BatchEvent → Option (String × String)
  | .writeEnded _ path text none => some (path, text)
  | _ => none

theorem BatchEvent.wrote?_of_attempt? {ev : BatchEvent} (h : ev.attempt? = none) :
    ev.wrote? = none := by
  cases ev <;> first | rfl | cases h

namespace Batch

variable {σ : Type}

/-! ## Batches that cannot be cancelled -/

theorem arrives_of_impossible {c : Cancellation} (h : c.possible = false) (m : Moment) :
    c.arrives m = false := by
  rw [Cancellation.arrives, h, Bool.false_and]

theorem Course.not_cancelled {e : Setting σ} (hnever : e.cancel.possible = false)
    {w w' : Writing σ} {ts : List Turn} (h : Course e w ts w') (hw : w.cancelled = false) :
    w'.cancelled = false := by
  induction h with
  | done w => exact hw
  | @turn w w' f ts _ _ _ ih =>
    apply ih
    rw [(process_spec e w f).2.2.2.1, hw, Bool.false_or]
    cases (turnOf e w f).file? with
    | none => rfl
    | some file => exact arrives_of_impossible hnever _

theorem generate_not_cancelled {e : Setting σ} (hnever : e.cancel.possible = false)
    (selection : List Summary) (opened : σ) : (generate e selection opened).cancelled = false := by
  have hfetching : (fetching e selection).cancelled = false := by
    rw [← Bool.not_eq_true, Fetching.run_cancelled_iff]
    simp [Fetching.strikes, arrives_of_impossible hnever]
  obtain ⟨ts, w, hcourse, hend⟩ := all_cases e (openingState e selection opened)
    (fetching e selection).results.reverse
  have hw := hcourse.not_cancelled hnever hfetching
  rcases hend with ⟨_, hall⟩ | ⟨f, rest, _, hc, _⟩
  · rw [generate_eq, hall]
    exact hw
  · simp [Writing.pass, hw, arrives_of_impossible hnever] at hc

theorem run_not_cancelled {e : Setting σ} (hnever : e.cancel.possible = false)
    (selection : List Summary) (store : σ) : (run e selection store).cancelled = false := by
  cases hrefusal : refusal e selection with
  | some error =>
    rw [run_of_refusal hrefusal]
    simp [Cancellation.atStart, hnever]
  | none =>
    obtain ⟨_, ⟨left, cause, _, hrun⟩ | ⟨opened, _, hrun⟩⟩ := run_of_admitted hrefusal store <;>
      rw [hrun]
    · exact arrives_of_impossible hnever _
    · exact generate_not_cancelled hnever selection opened

/-! ## What a batch wrote -/

/-- The paths and texts that a batch wrote, in order. -/
def Run.wrote (r : Run σ) : List (String × String) := r.events.filterMap BatchEvent.wrote?

theorem Turn.ending?_wrote (destination : String) (t : Turn) :
    (t.ending? destination).bind BatchEvent.wrote? =
      (t.write? destination).map fun v => (v.1, v.2.emit) := by
  unfold Turn.ending? Turn.file? Turn.error? Turn.write?
  cases t.fate <;> rfl

/-- What was written are the modules of the result, to its files; without a result nothing was. -/
theorem run_wrote {e : Setting σ} {selection : List Summary} {store : σ}
    (h : (run e selection store).cancelled = false) :
    (run e selection store).wrote =
      match (run e selection store).outcome with
      | .ok r => (r.files.zip r.outputs).map fun v => (v.1, v.2.emit)
      | .error _ => [] := by
  cases houtcome : (run e selection store).outcome with
  | error error =>
    have hnone := (stopped_before_writing h houtcome).1
    rw [List.filterMap_eq_nil_iff] at hnone
    exact List.filterMap_eq_nil_iff.mpr fun ev hev => BatchEvent.wrote?_of_attempt? (hnone ev hev)
  | ok r =>
    obtain ⟨hselection, opened, _, hrun⟩ := run_ok houtcome
    rw [hrun] at h houtcome
    obtain ⟨ts, w, hcourse, _, hok, _, hevents⟩ := exists_course hselection h
    obtain rfl := Except.ok.inj (hok.symm.trans houtcome)
    have hwrote := hcourse.endings fun _ => BatchEvent.wrote?_of_attempt?
    simp only [Turn.ending?_wrote] at hwrote
    rw [Run.wrote, hrun, hevents _ _ fun _ => BatchEvent.wrote?_of_attempt?, hwrote, hcourse.result]
    simp [BatchResult.empty, zip_paths_outputs, List.map_filterMap]

/-- The files after a batch are those before it with what it wrote. -/
theorem run_wrote_files {κ : Type} [DecidableEq κ] {e : Setting σ} {place : String → κ}
    {held : σ → κ → Option String} (law : e.store.Lawful place held) {selection : List Summary}
    {store : σ} (h : (run e selection store).cancelled = false) :
    held (run e selection store).store = (run e selection store).wrote.foldl
      (fun files v => Function.update files (place v.1) (some v.2)) (held store) := by
  rw [run_wrote h]
  cases houtcome : (run e selection store).outcome with
  | error error => exact held_of_error law houtcome
  | ok r =>
    obtain ⟨ts, hc⟩ := exists_completed houtcome
    rw [hc.held law, List.foldl_map]
    rfl

/-- A batch has a success to report exactly if it wrote something. -/
theorem isSuccess_iff_wrote {e : Setting σ} {selection : List Summary} {store : σ}
    (h : (run e selection store).cancelled = false) {r : BatchResult}
    (hr : (run e selection store).outcome = .ok r) :
    r.isSuccess = true ↔ (run e selection store).wrote ≠ [] := by
  obtain ⟨ts, hc⟩ := exists_completed hr
  have hlength : (r.files.zip r.outputs).length = r.succeeded := by
    rw [hc.files, hc.outputs, hc.succeeded, List.length_zip, Turn.length_paths, Nat.min_self]
  rw [run_wrote h, hr, BatchResult.isSuccess, decide_eq_true_iff, ← hlength, List.length_pos_iff]
  simp

/-- Every write is one of a module file of the destination. -/
theorem run_wrote_modules {e : Setting σ} {selection : List Summary} {store : σ}
    {v : String × String} (hv : v ∈ (run e selection store).wrote) :
    ∃ file, Path.ModuleIn e.destination file v.1 := by
  have htarget : ∀ ev : BatchEvent, ev.wrote? = some v → ev.target? = some v.1 := by
    intro ev hev
    unfold BatchEvent.wrote? at hev
    split at hev <;> cases hev
    rfl
  obtain ⟨ev, hev, hwrote⟩ := List.mem_filterMap.mp hv
  cases hrefusal : refusal e selection with
  | some error =>
    rw [run_of_refusal hrefusal] at hev
    cases hev
  | none =>
    obtain ⟨_, ⟨left, cause, _, hrun⟩ | ⟨opened, _, hrun⟩⟩ := run_of_admitted hrefusal store <;>
      rw [hrun] at hev
    · rcases List.mem_cons.mp hev with rfl | hev
      · cases hwrote
      · have huntargeted := cancel_untargeted _ _ ev hev
        rw [htarget ev hwrote] at huntargeted
        cases huntargeted
    · exact (generate_stays e selection opened).1 ev hev v.1 (htarget ev hwrote)

end Batch

namespace Command

/-! ## The stages of the command -/

/-- The batch of a command, if the command comes to it: there is a session, and it selects
something. -/
def batch? (w : World) (o : Options) : Option (Batch.Run FileTree) :=
  match (openSession w o "yapi2ts_cli::commands::generate").result with
  | .error _ => none
  | .ok session =>
    match o.selection.resolve session.categories with
    | .ok (s :: selected) => some (Batch.run (batchSetting w session) (s :: selected) w.files)
    | _ => none

/-- The paths and texts of the files that a command wrote, in order. -/
def wrote (w : World) (o : Options) : List (String × String) :=
  match batch? w o with
  | none => []
  | some r => r.wrote

/-- A command ends before its batch, for a reason and without touching a file, or it reports what
the batch did. -/
theorem generate_cases (w : World) (o : Options) :
    (wrote w o = [] ∧ (∃ reason, (generate w o).error = some reason) ∧
      (generate w o).files = w.files) ∨
    ∃ session selected,
      (openSession w o "yapi2ts_cli::commands::generate").result = .ok session ∧
      wrote w o = (Batch.run (batchSetting w session) selected w.files).wrote ∧
      generate w o = generateModules w (openSession w o "yapi2ts_cli::commands::generate") session
        selected := by
  unfold wrote batch? generate
  simp only
  cases hsession : (openSession w o "yapi2ts_cli::commands::generate").result with
  | error reason => exact .inl ⟨rfl, ⟨reason, rfl⟩, rfl⟩
  | ok session =>
    simp only
    cases hselected : o.selection.resolve session.categories with
    | error e => exact .inl ⟨rfl, ⟨e.message, rfl⟩, rfl⟩
    | ok selected =>
      cases selected with
      | nil => exact .inl ⟨rfl, ⟨_, rfl⟩, rfl⟩
      | cons s selected => exact .inr ⟨session, s :: selected, rfl, rfl, rfl⟩

theorem batch_not_cancelled (w : World) (session : Session) (selected : List Summary) :
    (Batch.run (batchSetting w session) selected w.files).cancelled = false :=
  Batch.run_not_cancelled rfl selected w.files

/-- The report of a batch names a reason exactly if nothing was written. -/
theorem generateModules_error (w : World) (a : Opening) (session : Session)
    (selected : List Summary) :
    (generateModules w a session selected).error = none ↔
      (Batch.run (batchSetting w session) selected w.files).wrote ≠ [] := by
  have hcancelled := batch_not_cancelled w session selected
  unfold generateModules
  simp only
  cases houtcome : (Batch.run (batchSetting w session) selected w.files).outcome with
  | error e =>
    have hwrote := Batch.run_wrote hcancelled
    rw [houtcome] at hwrote
    simp [hwrote]
  | ok r =>
    rw [← Batch.isSuccess_iff_wrote hcancelled houtcome]
    simp

theorem generateModules_files (w : World) (a : Opening) (session : Session)
    (selected : List Summary) :
    (generateModules w a session selected).files =
      (Batch.run (batchSetting w session) selected w.files).store := by
  unfold generateModules
  simp only
  cases (Batch.run (batchSetting w session) selected w.files).outcome <;> rfl

/-- What a command leaves: the files before it with what it wrote. It has a reason to give exactly
if it wrote nothing. -/
theorem generate_spec (w : World) (o : Options) :
    ((generate w o).error = none ↔ wrote w o ≠ []) ∧
      (generate w o).files.held = (wrote w o).foldl
        (fun files v => Function.update files (Path.resolve w.cwd v.1) (some v.2))
          w.files.held := by
  rcases generate_cases w o with ⟨hwrote, ⟨reason, hreason⟩, hfiles⟩ |
    ⟨session, selected, _, hwrote, hgenerate⟩
  · rw [hwrote, hreason, hfiles]
    exact ⟨by simp, rfl⟩
  · rw [hwrote, hgenerate, generateModules_files]
    exact ⟨generateModules_error w _ session selected,
      Batch.run_wrote_files (FileTree.lawful w.cwd) (batch_not_cancelled w session selected)⟩

/-- The files that a command wrote are modules in the directory its settings name. -/
theorem wrote_modules {w : World} {o : Options} {v : String × String} (hv : v ∈ wrote w o) :
    ∃ session file, (openSession w o "yapi2ts_cli::commands::generate").result = .ok session ∧
      Path.ModuleIn session.settings.outDirectory file v.1 := by
  rcases generate_cases w o with ⟨hwrote, _⟩ | ⟨session, selected, hsession, hwrote, _⟩
  · rw [hwrote] at hv
    cases hv
  · rw [hwrote] at hv
    obtain ⟨file, hfile⟩ := Batch.run_wrote_modules hv
    exact ⟨session, file, hsession, hfile⟩

/-- The exit status of generating tells the truth. The command exits with 0 exactly if it wrote a
file, and such a file is there afterwards; else it exits with 1, and no file has changed or come
up. The files after it are those before it with what it wrote, which are modules in the directory
of the settings. -/
theorem generate_exit_status (w : World) (o : Options)
    (h : readArguments w.arguments = .ok (.generate o)) :
    ((run w).exit = 0 ↔ wrote w o ≠ []) ∧
      ((run w).exit ≠ 0 → (run w).exit = 1 ∧ (run w).files.held = w.files.held) ∧
      (run w).files.held = (wrote w o).foldl
        (fun files v => Function.update files (Path.resolve w.cwd v.1) (some v.2)) w.files.held ∧
      ((run w).exit = 0 → ∃ v ∈ wrote w o,
        (run w).files.held (Path.resolve w.cwd v.1) = some v.2) ∧
      ∀ v ∈ wrote w o, ∃ session file,
        (openSession w o "yapi2ts_cli::commands::generate").result = .ok session ∧
          Path.ModuleIn session.settings.outDirectory file v.1 := by
  obtain ⟨herror, hheld⟩ := generate_spec w o
  have hrun : (run w).exit = (if (generate w o).error.isSome then 1 else 0) ∧
      (run w).files = (generate w o).files := by
    unfold run
    simp only [h]
    exact ⟨rfl, rfl⟩
  have hexit : (run w).exit = 0 ↔ wrote w o ≠ [] := by
    rw [hrun.1, ← herror]
    cases (generate w o).error <;> simp
  rw [hrun.2]
  refine ⟨hexit, ?_, hheld, ?_, fun v hv => wrote_modules hv⟩
  · intro hfailed
    have hnothing : wrote w o = [] := by
      by_contra hsome
      exact hfailed (hexit.mpr hsome)
    constructor
    · rw [hrun.1] at hfailed ⊢
      split at hfailed
      · next hsome => rw [if_pos hsome]
      · exact (hfailed rfl).elim
    · rw [hheld, hnothing]
      rfl
  · intro hdone
    rcases List.eq_nil_or_concat (wrote w o) with hnil | ⟨before, v, hlast⟩
    · exact (hexit.mp hdone hnil).elim
    · rw [List.concat_eq_append] at hlast
      refine ⟨v, by simp [hlast], ?_⟩
      rw [hheld, hlast, List.foldl_append]
      exact Function.update_self _ _ _

/-- A server that lists one interface and does not tell its detail. It heeds no more of a URL than
what stands before the query. -/
def listingServer : Transport := fun url =>
  match String.ofList (url.toList.takeWhile (· != '?')) with
  | "http://h/api/project/get" =>
    .answer 200 "\x7b\"errcode\":0,\"data\":\x7b\"_id\":1\x7d\x7d"
  | "http://h/api/interface/list_menu" =>
    .answer 200
      ("\x7b\"errcode\":0,\"data\":" ++
        "[\x7b\"name\":\"c\",\"list\":[\x7b\"_id\":5,\"path\":\"/a\"\x7d]\x7d]\x7d")
  | _ => .none

/-- A command line with the token `t`. -/
def oneInterface : World where
  arguments := ["generate", "--token", "t", "--base-url", "http://h/"]
  environment := fun _ => none
  files := .empty
  cwd := ["work"]
  home := none
  network := listingServer
  elapsed := "0ms"

def oneOptions : Options :=
  { Options.none with
    settings := { Layer.empty with token := "t", baseUrl := "http://h/" } }

/-- The module is generated from the listing, which is enough to exit with 0. -/
theorem generate_exit_status_one :
    (run oneInterface).exit = 0 ∧ ∃ v ∈ wrote oneInterface oneOptions, v.1 = "yapi/a.ts" ∧
      (run oneInterface).files.held ["work", "yapi", "a.ts"] = some v.2 := by
  have harguments : (readArguments oneInterface.arguments).toOption =
      some (.generate oneOptions) := by decide +kernel
  obtain ⟨hexit, hpath⟩ : (run oneInterface).exit = 0 ∧
      (wrote oneInterface oneOptions).map Prod.fst = ["yapi/a.ts"] := by decide +kernel
  obtain ⟨_, _, _, hheld, _⟩ := generate_exit_status oneInterface oneOptions
    (Batch.ok_of_toOption harguments)
  obtain ⟨v, hv, htext⟩ := hheld hexit
  have hplace : v.1 = "yapi/a.ts" := by
    have := List.mem_map_of_mem (f := Prod.fst) hv
    rw [hpath] at this
    exact List.mem_singleton.mp this
  refine ⟨hexit, v, hv, hplace, ?_⟩
  rw [hplace] at htext
  exact htext

end Command

end ApiTypings
