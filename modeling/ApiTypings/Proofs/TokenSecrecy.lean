import ApiTypings.Proofs.AlikeCalls
import ApiTypings.Proofs.AlikeTrees
import ApiTypings.Proofs.ExitStatus

/-!
# The token does not show

Nothing of a run depends on the text of the token but the URLs that are asked for. This is about two
runs of one command whose worlds differ in the texts of tokens, and whose servers reply alike to
requests for the same, made in the same place. The runs are followed side by side: the layers come to the same settings
but for the token; with these the clients go through the same calls; what the calls came to gives
the sessions the same categories and the batches the same details; and the store does not tell
what files hold, so that the batches come to the same.

A token is compared as it stands in the layer it comes from, and only by whether it is blank, since
a blank one counts as not given. The line about the settings that were loaded shows all of them,
and in place of the token always the same words.
-/

namespace ApiTypings

/-! ## Settings without the token -/

/-- What stands for a token. A blank one counts as not given. -/
def redactedToken (token : Option String) : Option String :=
  (token.bind Text.nonBlank?).map fun _ => "<redacted>"

def Layer.redacted (l : Layer) : Layer := { l with token := redactedToken l.token }

def Settings.redacted (s : Settings) : Settings := { s with token := "<redacted>" }

theorem firstNonBlank?_redacted (tokens : List (Option String)) :
    firstNonBlank? (tokens.map redactedToken) =
      (firstNonBlank? tokens).map fun _ => "<redacted>" := by
  induction tokens with
  | nil => rfl
  | cons token tokens ih =>
    unfold firstNonBlank? at ih ⊢
    rw [List.map_cons, List.findSome?_cons, List.findSome?_cons, redactedToken]
    cases htoken : token.bind Text.nonBlank? with
    | none => simpa [htoken] using ih
    | some text =>
      have hshown : Text.nonBlank? "<redacted>" = some "<redacted>" := by decide
      simp [hshown]

/-- Settings that are the same without the token differ in it alone. -/
theorem Settings.eq_of_redacted {s s' : Settings} (h : s.redacted = s'.redacted) :
    s.baseUrl = s'.baseUrl ∧ s.outDirectory = s'.outDirectory ∧ s.concurrency = s'.concurrency ∧
      s.collision = s'.collision := by
  simpa [redacted] using h

theorem Settings.summary_redacted (s : Settings) : s.redacted.summary = s.summary := rfl

/-- Settings are resolved from layers without the token as they are with it. -/
theorem Settings.resolve_redacted (arguments environment file : Layer) :
    (resolve arguments environment file).map redacted =
      (resolve arguments.redacted environment.redacted file.redacted).map redacted := by
  have htoken : firstNonBlank? ([arguments.redacted, environment.redacted, file.redacted].map
      (·.token)) = (firstNonBlank? ([arguments, environment, file].map (·.token))).map
        fun _ => "<redacted>" :=
    firstNonBlank?_redacted [arguments.token, environment.token, file.token]
  have hbaseUrl : [arguments.redacted, environment.redacted, file.redacted].map (·.baseUrl) =
      [arguments, environment, file].map (·.baseUrl) := rfl
  have hothers {β : Type} (setting : Layer → Option β)
      (h : ∀ l : Layer, setting l.redacted = setting l) :
      [arguments.redacted, environment.redacted, file.redacted].findSome? setting =
        [arguments, environment, file].findSome? setting := by
    simp only [List.findSome?_cons, h]
  unfold resolve
  simp only [htoken, hbaseUrl, hothers (·.outDirectory) fun _ => rfl,
    hothers (·.concurrency) fun _ => rfl, hothers (·.collision) fun _ => rfl]
  cases firstNonBlank? ([arguments, environment, file].map (·.token)) with
  | none => rfl
  | some token =>
    simp only [Option.map_some]
    split
    · rfl
    · split
      · rfl
      · split <;> rfl

namespace Command

/-! ## Worlds that differ in the token -/

def Options.redacted (o : Options) : Options := { o with settings := o.settings.redacted }

theorem Options.eq_of_redacted {o o' : Options} (h : o.redacted = o'.redacted) :
    o.config = o'.config ∧ o.settings.redacted = o'.settings.redacted ∧
      o.selection = o'.selection := by
  simp only [redacted, Options.mk.injEq] at h
  obtain ⟨hconfig, hsettings, _, hcategories, hids⟩ := h
  refine ⟨hconfig, hsettings, ?_⟩
  unfold selection
  rw [hcategories, hids]

/-- Command lines with their worlds that are the same up to the texts of tokens. A token may come
with the options, from the environment and from the configuration file. Files and directories are
at the same places; of what files hold only the settings that are read matter. -/
structure SameButToken (w : World) (o : Options) (w' : World) (o' : Options) : Prop where
  options : o.redacted = o'.redacted
  environment : ∀ name, name ≠ Layer.tokenVariable → w.environment name = w'.environment name
  token : redactedToken (w.environment Layer.tokenVariable) =
    redactedToken (w'.environment Layer.tokenVariable)
  config : ∀ path, Settings.locate w.files w.cwd o.config w.directory w.home = some path →
    (Layer.load w.files w.cwd path).map Layer.redacted =
      (Layer.load w'.files w'.cwd path).map Layer.redacted
  files : FileTree.SameShape w.files w'.files
  cwd : w.cwd = w'.cwd
  home : w.home = w'.home
  elapsed : w.elapsed = w'.elapsed

/-- The client that the settings of a command ask for. -/
def client? (w : World) (o : Options) : Option Client :=
  (loadSettings w o).2.toOption.map fun s => Client.atBase s.baseUrl s.token

/-- The URLs with which two commands ask their servers for the same. -/
def Corresponding (w : World) (o : Options) (w' : World) (o' : Options) (url url' : String) :
    Prop :=
  ∃ c c', client? w o = some c ∧ client? w' o' = some c' ∧ c.Corresponding c' url url'

section
variable {w w' : World} {o o' : Options} (h : SameButToken w o w' o')
include h

theorem SameButToken.locate :
    Settings.locate w.files w.cwd o.config w.directory w.home =
      Settings.locate w'.files w'.cwd o'.config w'.directory w'.home := by
  obtain ⟨hnamed, _⟩ := Options.eq_of_redacted h.options
  have hisFile : w.files.isFile = w'.files.isFile := by
    funext cwd path
    exact h.files.isFile cwd path
  unfold Settings.locate World.directory
  rw [hnamed, hisFile, h.cwd, h.home]

theorem SameButToken.ofEnvironment : (Layer.ofEnvironment w.environment).redacted =
    (Layer.ofEnvironment w'.environment).redacted := by
  unfold Layer.redacted Layer.ofEnvironment
  simp only [h.token, h.environment Layer.baseUrlVariable (by decide)]

/-- The same lines come up, and the same settings but for the token. -/
theorem SameButToken.loadSettings : (loadSettings w o).1 = (loadSettings w' o').1 ∧
    EndAlike (fun s s' => s.redacted = s'.redacted) (loadSettings w o).2
      (loadSettings w' o').2 := by
  obtain ⟨_, hoptions, _⟩ := Options.eq_of_redacted h.options
  have hresolve (file file' : Layer) (hfile : file.redacted = file'.redacted) :
      EndAlike (fun s s' => s.redacted = s'.redacted)
        (Settings.resolve o.settings (Layer.ofEnvironment w.environment) file)
        (Settings.resolve o'.settings (Layer.ofEnvironment w'.environment) file') := by
    apply EndAlike.of_map
    rw [Settings.resolve_redacted, hoptions, h.ofEnvironment, hfile, ← Settings.resolve_redacted]
  unfold Command.loadSettings
  simp only [← h.locate]
  cases hpath : Settings.locate w.files w.cwd o.config w.directory w.home with
  | none => exact ⟨rfl, hresolve _ _ rfl⟩
  | some path => exact ⟨rfl, (EndAlike.of_map (h.config path hpath)).bind hresolve⟩

end

/-! ## Sessions -/

/-- Sessions that differ in the token, and in nothing that fetching details comes to. -/
structure Session.Alike (R : String → String → Prop) (w w' : World) (a b : Session) : Prop where
  settings : a.settings.redacted = b.settings.redacted
  categories : a.categories = b.categories
  detail : ∀ position id, Call.Alike R (detailCall w a position id) (detailCall w' b position id)

structure Opening.Alike (R : String → String → Prop) (w w' : World) (a b : Opening) : Prop where
  log : a.log = b.log
  exchanges : List.Forall₂ (Exchange.Alike R) a.exchanges b.exchanges
  result : EndAlike (Session.Alike R w w') a.result b.result

section
variable {w w' : World} {o o' : Options} (h : SameButToken w o w' o')
  (hserver : ∀ n url url', Corresponding w o w' o' url url' →
    w.network.request n url = w'.network.request n url')
include h hserver

theorem openSession_alike (target : String) :
    Opening.Alike (Corresponding w o w' o') w w' (openSession w o target)
      (openSession w' o' target) := by
  obtain ⟨hlines, hsettings⟩ := h.loadSettings
  unfold openSession
  cases hs : loadSettings w o with
  | mk lines settings =>
    cases hs' : loadSettings w' o' with
    | mk lines' settings' =>
      rw [hs, hs'] at hlines hsettings
      obtain rfl : lines = lines' := hlines
      cases hsettings with
      | error e => exact ⟨rfl, .nil, .error _⟩
      | @ok s s' hredacted =>
        obtain ⟨hbaseUrl, _⟩ := Settings.eq_of_redacted hredacted
        have hsummary : s.summary = s'.summary := by
          rw [← s.summary_redacted, hredacted, s'.summary_redacted]
        have hbase : (Client.atBase s.baseUrl s.token).base =
            (Client.atBase s'.baseUrl s'.token).base := congrArg Url.withSlash hbaseUrl
        have hclients (url url' : String)
            (hc : (Client.atBase s.baseUrl s.token).Corresponding
              (Client.atBase s'.baseUrl s'.token) url url') :
            Corresponding w o w' o' url url' :=
          ⟨_, _, by rw [client?, hs]; rfl, by rw [client?, hs']; rfl, hc⟩
        have hreply := fun n url url' hc => hserver n url url' (hclients url url' hc)
        have hcategories := (Client.categories_alike hbase hreply).mono hclients
        have hdetail := fun position id =>
          (Client.detail_alike hbase (hreply (position + 2)) id).mono hclients
        refine ⟨?_, hcategories.exchanges, ?_⟩
        · simp only [hsummary, hcategories.events]
        · simp only [← hcategories.result]
          cases ((Client.atBase s.baseUrl s.token).categories w.network).result with
          | error e => exact .error _
          | ok categories => exact .ok ⟨hredacted, rfl, hdetail⟩

end

/-! ## Batches -/

/-- Reports that differ in the URLs of their exchanges, and in what files hold as far as it was so
before. -/
structure Report.Alike (R : String → String → Prop) (w w' : World) (a b : Report) : Prop where
  output : a.output = b.output
  error : a.error = b.error
  log : a.log = b.log
  exchanges : List.Forall₂ (Exchange.Alike R) a.exchanges b.exchanges
  files : FileTree.ChangedAlike w.files w'.files a.files b.files

theorem Report.Alike.outcome {R : String → String → Prop} {w w' : World} {a b : Report}
    (h : Report.Alike R w w' a b) (filter : LogFilter) (notices : List String) :
    (a.outcome filter notices).exit = (b.outcome filter notices).exit ∧
      (a.outcome filter notices).errors = (b.outcome filter notices).errors ∧
      (a.outcome filter notices).log = (b.outcome filter notices).log := by
  simp only [Report.outcome, h.error, h.log, and_self]

theorem Opening.Alike.failed {R : String → String → Prop} {w w' : World} {a b : Opening}
    (h : Opening.Alike R w w' a b) (hfiles : FileTree.SameShape w.files w'.files)
    (reason : String) :
    Report.Alike R w w' (a.failed w.files reason) (b.failed w'.files reason) :=
  ⟨rfl, rfl, h.log, h.exchanges, .refl hfiles⟩

section
variable {R : String → String → Prop} {w w' : World} {s s' : Session}
  (h : Session.Alike R w w' s s')
include h

theorem Session.Alike.outDirectory : s.settings.outDirectory = s'.settings.outDirectory :=
  (Settings.eq_of_redacted h.settings).2.1

theorem Session.Alike.batchSetting (hcwd : w.cwd = w'.cwd) :
    batchSetting w s = batchSetting w' s' := by
  obtain ⟨_, houtDirectory, hconcurrency, hcollision⟩ := Settings.eq_of_redacted h.settings
  have hfetch : (fun position id => (detailCall w s position id).result) =
      fun position id => (detailCall w' s' position id).result := by
    funext position id
    exact (h.detail position id).result
  unfold Command.batchSetting
  rw [houtDirectory, hconcurrency, hcollision, hfetch, hcwd]

theorem Session.Alike.eventLines (position : Nat) (ev : BatchEvent) :
    eventLines w s position ev = eventLines w' s' position ev := by
  cases ev with
  | fetchStarted id => exact congrArg (List.map ClientEvent.logLine) (h.detail position id).events
  | _ => rfl

theorem Session.Alike.eventExchanges (position : Nat) (ev : BatchEvent) :
    List.Forall₂ (Exchange.Alike R) (eventExchanges w s position ev)
      (eventExchanges w' s' position ev) := by
  cases ev with
  | fetchStarted id => exact (h.detail position id).exchanges
  | _ => exact .nil

theorem Session.Alike.batch (hcwd : w.cwd = w'.cwd) (hfiles : FileTree.SameShape w.files w'.files)
    (selected : List Summary) :
    Batch.Run.Alike (FileTree.ChangedAlike w.files w'.files)
      (Batch.run (Command.batchSetting w s) selected w.files)
      (Batch.run (Command.batchSetting w' s') selected w'.files) := by
  rw [← h.batchSetting hcwd]
  exact Batch.run_alike (FileTree.answersAlike_changedAlike w.cwd _ _ _) selected (.refl hfiles)
    (FileTree.ChangedAlike.ensureDirectory (.refl hfiles) w.cwd _)

end

theorem generateModules_alike {R : String → String → Prop} {w w' : World} {a b : Opening}
    {s s' : Session} (hopening : Opening.Alike R w w' a b) (hsession : Session.Alike R w w' s s')
    (hcwd : w.cwd = w'.cwd) (hfiles : FileTree.SameShape w.files w'.files)
    (helapsed : w.elapsed = w'.elapsed) (selected : List Summary) :
    Report.Alike R w w' (generateModules w a s selected) (generateModules w' b s' selected) := by
  have hrun := hsession.batch hcwd hfiles selected
  have hlines : eventLines w s = eventLines w' s' :=
    funext fun position => funext (hsession.eventLines position)
  have hexchanges (events : List (Nat × BatchEvent)) : List.Forall₂ (Exchange.Alike R)
      (events.flatMap fun ev => eventExchanges w s ev.1 ev.2)
      (events.flatMap fun ev => eventExchanges w' s' ev.1 ev.2) := by
    induction events with
    | nil => exact .nil
    | cons ev events ih => exact List.rel_append (hsession.eventExchanges ev.1 ev.2) ih
  unfold generateModules
  simp only [← hrun.outcome, ← hrun.events, hopening.log, hlines, hsession.outDirectory, helapsed]
  cases (Batch.run (batchSetting w s) selected w.files).outcome <;>
    exact ⟨rfl, rfl, rfl, List.rel_append hopening.exchanges (hexchanges _), hrun.store⟩

section
variable {w w' : World} {o o' : Options} (h : SameButToken w o w' o')
  (hserver : ∀ n url url', Corresponding w o w' o' url url' →
    w.network.request n url = w'.network.request n url')
include h hserver

theorem list_alike :
    Report.Alike (Corresponding w o w' o') w w' (list w o) (list w' o') := by
  have hopening := openSession_alike h hserver "yapi2ts_cli::commands::list"
  unfold list
  generalize openSession w o _ = a, openSession w' o' _ = b at hopening ⊢
  obtain ⟨log, exchanges, result⟩ := a
  obtain ⟨log', exchanges', result'⟩ := b
  cases hopening.result with
  | error reason => exact hopening.failed h.files reason
  | ok hsession =>
    exact ⟨congrArg listingText hsession.categories, rfl, hopening.log, hopening.exchanges,
      .refl h.files⟩

theorem generate_alike :
    Report.Alike (Corresponding w o w' o') w w' (generate w o) (generate w' o') ∧
      wrote w o = wrote w' o' := by
  have hopening := openSession_alike h hserver "yapi2ts_cli::commands::generate"
  obtain ⟨_, _, hselection⟩ := Options.eq_of_redacted h.options
  unfold generate wrote batch?
  generalize openSession w o _ = a, openSession w' o' _ = b at hopening ⊢
  obtain ⟨log, exchanges, result⟩ := a
  obtain ⟨log', exchanges', result'⟩ := b
  cases hopening.result with
  | error reason => exact ⟨hopening.failed h.files reason, rfl⟩
  | @ok s s' hsession =>
    simp only [← hselection, ← hsession.categories]
    cases o.selection.resolve s.categories with
    | error e => exact ⟨hopening.failed h.files e.message, rfl⟩
    | ok selected =>
      cases selected with
      | nil => exact ⟨hopening.failed h.files _, rfl⟩
      | cons first selected =>
        have hevents := (hsession.batch h.cwd h.files (first :: selected)).events
        refine ⟨generateModules_alike hopening hsession h.cwd h.files h.elapsed _, ?_⟩
        exact congrArg (List.filterMap BatchEvent.wrote?) hevents

end

/-! ## The program -/

/-- The paths and texts of the files that the program wrote, in order. -/
def written (w : World) : List (String × String) :=
  match readArguments w.arguments with
  | .ok (.generate o) => wrote w o
  | _ => []

/-- The token does not show. Two runs of a command whose worlds differ in the texts of tokens, and
whose servers reply alike when the same is asked for in the same request, end with the same exit code, the same
output, the same errors and the same log, whatever the filter admits. They write the same texts to
the same files in the same order, and their trees are the same afterwards except where they still
hold what they held before. Their exchanges are about the same requests and have the same replies;
the URLs alone differ, in the token. -/
theorem run_hides_token {w w' : World} {o o' : Options} {command : Options → Invocation}
    (hcommand : command = .list ∨ command = .generate)
    (ho : readArguments w.arguments = .ok (command o))
    (ho' : readArguments w'.arguments = .ok (command o')) (h : SameButToken w o w' o')
    (hserver : ∀ n url url', Corresponding w o w' o' url url' →
      w.network.request n url = w'.network.request n url') :
    (run w).exit = (run w').exit ∧ (run w).output = (run w').output ∧
      (run w).errors = (run w').errors ∧ (run w).log = (run w').log ∧ written w = written w' ∧
      FileTree.ChangedAlike w.files w'.files (run w).files (run w').files ∧
      List.Forall₂ (fun x x' => Corresponding w o w' o' x.url x'.url ∧ x.reply = x'.reply)
        (run w).exchanges (run w').exchanges := by
  have hfilter : w.environment logVariable = w'.environment logVariable :=
    h.environment logVariable (by decide)
  unfold run written
  simp only [ho, ho', hfilter]
  rcases hcommand with rfl | rfl
  · have hr := list_alike h hserver
    obtain ⟨hexit, herrors, hlog⟩ := hr.outcome _ _
    exact ⟨hexit, hr.output, herrors, hlog, rfl, hr.files, hr.exchanges⟩
  · obtain ⟨hr, hwrote⟩ := generate_alike h hserver
    obtain ⟨hexit, herrors, hlog⟩ := hr.outcome _ _
    exact ⟨hexit, hr.output, herrors, hlog, hwrote, hr.files, hr.exchanges⟩

/-- A world in which the configuration file tells the token. -/
def configured (token : String) : World where
  arguments := ["generate"]
  environment := fun _ => none
  files := ⟨[(["work"], .directory), (["work", "yapi2ts.toml"],
    .file ("base_url = \"http://h/\"\ntoken = \"" ++ token ++ "\"\n"))]⟩
  cwd := ["work"]
  home := none
  network := listingServer
  elapsed := "0ms"

theorem sameButToken_configured :
    SameButToken (configured "t") .none (configured "secret") .none where
  options := rfl
  environment _ _ := rfl
  token := rfl
  config path hpath := by
    have hlocate : Settings.locate (configured "t").files (configured "t").cwd none
        (configured "t").directory (configured "t").home = some "/work/yapi2ts.toml" := by
      decide +kernel
    obtain rfl := Option.some.inj (hlocate.symm.trans hpath)
    have hload (token : String) (htoken : token = "t" ∨ token = "secret") :
        (Layer.load (configured token).files (configured token).cwd "/work/yapi2ts.toml").toOption =
          some { Layer.empty with baseUrl := "http://h/", token := token } := by
      rcases htoken with rfl | rfl <;> decide +kernel
    rw [Batch.ok_of_toOption (hload "t" (.inl rfl)),
      Batch.ok_of_toOption (hload "secret" (.inr rfl))]
    rfl
  files l := by
    unfold FileTree.find? configured
    split
    · rfl
    · simp only [Assoc.find?]
      split_ifs <;> rfl
  cwd := rfl
  home := rfl
  elapsed := rfl

/-- The files differ that the token is read from, and so do the URLs. -/
theorem run_hides_token_configured :
    (run (configured "t")).exit = 0 ∧ (run (configured "secret")).exit = 0 ∧
      (written (configured "t")).map Prod.fst = ["yapi/a.ts"] ∧
      written (configured "secret") = written (configured "t") ∧
      (run (configured "secret")).log = (run (configured "t")).log ∧
      (run (configured "secret")).exchanges ≠ (run (configured "t")).exchanges := by
  have harguments (token : String) :
      (readArguments (configured token).arguments).toOption = some (.generate .none) := by
    change (readArguments ["generate"]).toOption = _
    decide +kernel
  obtain ⟨hexit, hpaths, hurls⟩ : (run (configured "t")).exit = 0 ∧
      (written (configured "t")).map Prod.fst = ["yapi/a.ts"] ∧
      (run (configured "secret")).exchanges ≠ (run (configured "t")).exchanges := by
    decide +kernel
  have hserver : ∀ n url url',
      Corresponding (configured "t") .none (configured "secret") .none url url' →
        (configured "t").network.request n url = (configured "secret").network.request n url' := by
    intro n url url' ⟨c, c', _, _, hurls⟩
    change listingServer url = listingServer url'
    rw [listingServer, listingServer, hurls.beforeQuery]
  obtain ⟨hsame, _, _, hlog, hwritten, _⟩ := run_hides_token (.inr rfl)
    (Batch.ok_of_toOption (harguments "t")) (Batch.ok_of_toOption (harguments "secret"))
    sameButToken_configured hserver
  exact ⟨hexit, hsame.symm.trans hexit, hpaths, hwritten.symm, hlog.symm, hurls⟩

end Command

end ApiTypings
