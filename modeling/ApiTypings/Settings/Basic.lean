import ApiTypings.Batch.Basic
import ApiTypings.Text.Quoted
import ApiTypings.Url.Parse

/-!
# Settings

Settings come in layers: arguments come before the environment, and the
environment before the configuration file. Each setting is taken from the first
layer that gives it. A blank token or base URL counts as not given; the other
settings count whatever they are.
-/

namespace ApiTypings

/-- What one source says of the settings. -/
structure Layer where
  baseUrl : Option String
  token : Option String
  outDirectory : Option String
  concurrency : Option Nat
  collision : Option Collision
  deriving DecidableEq, Repr

/-- Where the server is, how to authenticate, and how to generate. -/
structure Settings where
  baseUrl : Url
  token : String
  outDirectory : String
  concurrency : Nat
  collision : Collision
  deriving DecidableEq, Repr

inductive SettingsError where
  | read (path cause : String)
  /-- The file is not TOML, or it says something that is no setting. -/
  | parse (path : String)
  | missingToken
  | missingBaseUrl
  | invalidBaseUrl (value : String) (error : UrlError)
  | emptyOutDirectory
  deriving DecidableEq, Repr

/-- The details of a malformed file are held by `<detail>`. -/
def SettingsError.message : SettingsError → String
  | .read path cause => "Failed to read config file '" ++ path ++ "': " ++ cause
  | .parse path => "Failed to parse config file '" ++ path ++ "': <detail>"
  | .missingToken =>
    "YAPI token is not set (use --token, YAPI2TS_TOKEN or \x60token\x60 in yapi2ts.toml)"
  | .missingBaseUrl =>
    "YAPI base URL is not set (use --base-url, YAPI2TS_BASE_URL or \x60base_url\x60 in yapi2ts.toml)"
  | .invalidBaseUrl value error =>
    "Invalid YAPI base URL '" ++ value ++ "': " ++ error.message
  | .emptyOutDirectory => "Output directory must not be empty"

namespace Layer

def empty : Layer := ⟨none, none, none, none, none⟩

def tokenVariable : String := "YAPI2TS_TOKEN"

def baseUrlVariable : String := "YAPI2TS_BASE_URL"

/-- Only the token and the base URL can be set in the environment. -/
def ofEnvironment (value? : String → Option String) : Layer :=
  { empty with baseUrl := value? baseUrlVariable, token := value? tokenVariable }

end Layer

/-- The first text that is there and not blank. -/
def firstNonBlank? (texts : List (Option String)) : Option String :=
  texts.findSome? (·.bind Text.nonBlank?)

namespace Settings

/-- Where modules go unless a setting says otherwise. -/
def defaultOutDirectory : String := "yapi"

/-- The settings of three layers, or the first thing that is wrong with them. -/
def resolve (arguments environment file : Layer) : Except SettingsError Settings :=
  let layers := [arguments, environment, file]
  match firstNonBlank? (layers.map (·.token)) with
  | none => .error .missingToken
  | some token =>
    match firstNonBlank? (layers.map (·.baseUrl)) with
    | none => .error .missingBaseUrl
    | some raw =>
      match Url.parse (Text.trim raw) with
      | .error e => .error (.invalidBaseUrl raw e)
      | .ok baseUrl =>
        let outDirectory := (layers.findSome? (·.outDirectory)).getD defaultOutDirectory
        if outDirectory.isEmpty then .error .emptyOutDirectory
        else
          .ok ⟨baseUrl, Text.trim token, outDirectory,
            (layers.findSome? (·.concurrency)).getD BatchOptions.defaultConcurrency,
            (layers.findSome? (·.collision)).getD .overwrite⟩

def summary (s : Settings) : String :=
  "Config \x7b base_url: " ++ Text.quoted s.baseUrl.text ++ ", token: \"<redacted>\", out_dir: " ++
    Text.quoted s.outDirectory ++ ", concurrency: " ++ toString s.concurrency ++
    ", collision: " ++ s.collision.label ++ " \x7d"

end Settings

end ApiTypings
