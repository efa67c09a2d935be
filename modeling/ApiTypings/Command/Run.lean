import ApiTypings.Batch.Run
import ApiTypings.Command.Help
import ApiTypings.Log.Filter
import ApiTypings.Log.Generation
import ApiTypings.Settings.File

/-!
# Running a command

A command runs in a world of arguments, environment, files and a network, and
ends with an exit code, its output, and the files as it leaves them. It succeeds
with exit code 0. A command that fails says why on the error output and exits with
1; arguments that cannot be read exit with 2. The log is filtered as the
environment asks.
-/

namespace ApiTypings.Command

structure World where
  arguments : List String
  environment : String → Option String
  files : FileTree
  cwd : Location
  home : Option String
  network : Server
  /-- How the time that generating takes is written. -/
  elapsed : String

/-- A duration in milliseconds, in words. -/
def durationText (ms : Nat) : String :=
  if ms < 1000 then toString ms ++ "ms"
  else toString (ms / 1000) ++ "s " ++ toString (ms % 1000) ++ "ms"

/-- The path of the working directory. -/
def World.directory (w : World) : String := "/" ++ Text.join "/" w.cwd

structure Report where
  output : String
  error : Option String
  /-- Every line, whether it is shown or not. -/
  log : List LogLine
  exchanges : List Exchange
  files : FileTree

/-- What is seen of a command from outside. -/
structure Outcome where
  exit : Nat
  output : String
  errors : String
  log : List LogLine
  exchanges : List Exchange
  files : FileTree

def counted (n : Nat) (noun : String) : String :=
  toString n ++ " " ++ noun ++ (if n == 1 then "" else "s")

/-! ## Settings -/

def settingsTarget : String := "yapi2ts_cli::config"

/-- The settings of a command, with the lines about finding them. -/
def loadSettings (w : World) (o : Options) : List LogLine × Except SettingsError Settings :=
  let environment := Layer.ofEnvironment w.environment
  match Settings.locate w.files w.cwd o.config w.directory w.home with
  | none =>
    ([⟨.debug, settingsTarget, "No config file found, using defaults.", []⟩],
      Settings.resolve o.settings environment .empty)
  | some path =>
    ([⟨.debug, settingsTarget, "Loading config file.", [("path", path)]⟩],
      (Layer.load w.files w.cwd path).bind (Settings.resolve o.settings environment))

/-- The options of a command that works with settings. -/
def Invocation.options? : Invocation → Option Options
  | .list o => some o
  | .generate o => some o
  | _ => none

/-- The files that may hold settings. -/
def World.settingsFiles (w : World) : List String :=
  match readArguments w.arguments with
  | .error _ => []
  | .ok i =>
    match i.options? with
    | none => []
    | some o =>
      o.config.toList ++ [Settings.localFile w.directory] ++ (w.home.map Settings.homeFile).toList

/-- The directory that modules go to, if modules are generated. -/
def World.destination? (w : World) : Option String :=
  match readArguments w.arguments with
  | .ok (.generate o) =>
    match (loadSettings w o).2 with
    | .ok settings => some settings.outDirectory
    | .error _ => none
  | _ => none

/-! ## Fetching the listing -/

/-- The settings, the client and the categories that a command works with. -/
structure Session where
  settings : Settings
  client : Client
  categories : List Category

/-- What opening a session leads to. -/
structure Opening where
  log : List LogLine
  exchanges : List Exchange
  result : Except String Session

/-- Loads the settings and fetches the listing. -/
def openSession (w : World) (o : Options) (target : String) : Opening :=
  let (lines, settings) := loadSettings w o
  match settings with
  | .error e => ⟨lines, [], .error e.message⟩
  | .ok settings =>
    let client := Client.atBase settings.baseUrl settings.token
    let call := client.categories w.network
    let loaded : LogLine :=
      ⟨.debug, target, "Loaded configuration.", [("config", settings.summary)]⟩
    ⟨lines ++ [loaded] ++ call.events.map ClientEvent.logLine, call.exchanges,
      match call.result with
      | .error e => .error ("Failed to fetch YAPI interfaces: " ++ e.message)
      | .ok categories => .ok ⟨settings, client, categories⟩⟩

/-- The report of a session that did not get to its work. -/
def Opening.failed (a : Opening) (files : FileTree) (reason : String) : Report :=
  ⟨"", some reason, a.log, a.exchanges, files⟩

/-! ## Listing -/

def interfaceLine (s : Summary) : String :=
  "  " ++ Text.padLeft 8 (toString s.id) ++ "  " ++ Text.padRight 7 (Text.upper s.method) ++ " " ++
    s.path ++ "  " ++ s.title ++ "\n"

def categoryText (c : Category) : String :=
  c.name ++ " (" ++ counted c.interfaces.length "interface" ++ ")\n" ++
    Text.join "" (c.interfaces.map interfaceLine)

def listingText (categories : List Category) : String :=
  if categories.isEmpty then "No interfaces found.\n"
  else Text.join "" (categories.map categoryText)

def list (w : World) (o : Options) : Report :=
  let a := openSession w o "yapi2ts_cli::commands::list"
  match a.result with
  | .error reason => a.failed w.files reason
  | .ok session => ⟨listingText session.categories, none, a.log, a.exchanges, w.files⟩

/-! ## Generating -/

def failureLine (f : Failure) : String := "    #" ++ toString f.id ++ "  " ++ f.reason.text ++ "\n"

/-- Failures below a title, if there are any. -/
def failuresText (mark noun title : String) (failures : List Failure) : String :=
  if failures.isEmpty then ""
  else
    mark ++ " " ++ counted failures.length noun ++ " " ++ title ++ ":\n" ++
      Text.join "" (failures.map failureLine)

/-- What a batch did, in words. -/
def resultText (r : BatchResult) (destination elapsed : String) : String :=
  (if r.isSuccess then
    "✓ Wrote " ++ counted r.succeeded "module" ++ " to " ++ destination ++ " (" ++ elapsed ++ ")\n"
  else "") ++
    failuresText "!" "interface" "generated from the listing only" r.degraded ++
    failuresText "✗" "module" "not written" r.failures

/-- The call for the detail at a position of the selection. The requests for the listing
come before. -/
def detailCall (w : World) (session : Session) (position id : Nat) : Call Detail :=
  session.client.detail (w.network.request (position + 2)) id

/-- The batch of a session. Fetches run side by side and take one unit of time. -/
def batchSetting (w : World) (session : Session) : Batch.Setting FileTree :=
  { options := ⟨session.settings.concurrency, session.settings.collision⟩
    source := ⟨fun position id => (detailCall w session position id).result, fun _ _ => 1⟩
    store := FileTree.store w.cwd
    cancel := .none
    destination := session.settings.outDirectory }

/-- Batch events, each with the number of fetches that were started before. Fetches start
in the order of the selection, so this is the position of one that starts. -/
def numbered (started : Nat) : List BatchEvent → List (Nat × BatchEvent)
  | [] => []
  | .fetchStarted id :: rest => (started, .fetchStarted id) :: numbered (started + 1) rest
  | e :: rest => (started, e) :: numbered started rest

/-- The lines of a batch event. The start of a fetch is the start of a call. -/
def eventLines (w : World) (session : Session) (position : Nat) : BatchEvent → List LogLine
  | .fetchStarted id => (detailCall w session position id).events.map ClientEvent.logLine
  | e => e.lines

/-- The exchanges of a batch event. -/
def eventExchanges (w : World) (session : Session) (position : Nat) :
    BatchEvent → List Exchange
  | .fetchStarted id => (detailCall w session position id).exchanges
  | _ => []

def generateModules (w : World) (a : Opening) (session : Session) (selected : List Summary) :
    Report :=
  let r := Batch.run (batchSetting w session) selected w.files
  let events := numbered 0 r.events
  let log := a.log ++ events.flatMap fun (position, e) => eventLines w session position e
  let exchanges :=
    a.exchanges ++ events.flatMap fun (position, e) => eventExchanges w session position e
  match r.outcome with
  | .error e => ⟨"", some ("Generation failed: " ++ e.message), log, exchanges, r.store⟩
  | .ok result =>
    ⟨resultText result session.settings.outDirectory w.elapsed,
      if result.isSuccess then none else some "No modules were written", log, exchanges, r.store⟩

def generate (w : World) (o : Options) : Report :=
  let a := openSession w o "yapi2ts_cli::commands::generate"
  match a.result with
  | .error reason => a.failed w.files reason
  | .ok session =>
    match o.selection.resolve session.categories with
    | .error e => a.failed w.files e.message
    | .ok [] => a.failed w.files "No interfaces matched the selection"
    | .ok (s :: selected) => generateModules w a session (s :: selected)

/-! ## The program -/

def logVariable : String := "YAPI2TS_LOG"

/-- Shows a report: the log filtered, the failure behind what was noticed before. -/
def Report.outcome (filter : LogFilter) (notices : List String) (r : Report) : Outcome :=
  ⟨if r.error.isSome then 1 else 0, r.output, linesText (notices ++ r.error.toList),
    r.log.filter filter.admits, r.exchanges, r.files⟩

/-- The end of a program that did nothing but answer. -/
def World.answer (w : World) (exit : Nat) (output : String) (errors : List String) : Outcome :=
  ⟨exit, output, linesText errors, [], [], w.files⟩

def run (w : World) : Outcome :=
  let (filter, notices) := LogFilter.ofSetting (w.environment logVariable)
  match readArguments w.arguments with
  | .error e => w.answer 2 "" (notices ++ ["error: " ++ e.message])
  | .ok .nothing => w.answer 0 (Topic.program.text ++ "\n") notices
  | .ok (.help topic) => w.answer 0 topic.text notices
  | .ok .version => w.answer 0 versionText notices
  | .ok (.list options) => (list w options).outcome filter notices
  | .ok (.generate options) => (generate w options).outcome filter notices

end ApiTypings.Command
