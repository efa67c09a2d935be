import ApiTypings.Settings.Basic
import ApiTypings.Store.FileTree
import ApiTypings.Toml.Reader

/-!
# Configuration files

A configuration file is a TOML table of settings; any other key makes it
malformed. The file named in the arguments is read even if it is not there, so
that its absence is reported. Otherwise the file of the working directory is read
if there is one, else the one below the home directory if there is one.
-/

namespace ApiTypings

namespace Layer

def text? : Option Toml → Option (Option String)
  | none => some none
  | some (.text s) => some (some s)
  | some _ => none

def number? : Option Toml → Option (Option Nat)
  | none => some none
  | some (.integer n) => if 0 ≤ n then some (some n.toNat) else none
  | some _ => none

/-- Whether a value holds nothing. -/
def isHollow : Toml → Bool
  | .array items => items.isEmpty
  | .table _ entries => entries.isEmpty
  | _ => false

/-- A policy is named by a text, or by the only key of a table that has nothing
under it. -/
def collision? : Option Toml → Option (Option Collision)
  | none => some none
  | some (.text name) => (Collision.ofName? name).map some
  | some (.table _ [(name, value)]) =>
    if isHollow value then (Collision.ofName? name).map some else none
  | some _ => none

/-- The keys of configuration files. -/
def fileKeys : List String := ["base_url", "token", "out_dir", "concurrency", "collision"]

def ofEntries? (entries : Toml.Entries) : Option Layer := do
  if entries.all fun (key, _) => fileKeys.contains key then
    let baseUrl ← text? (Assoc.find? "base_url" entries)
    let token ← text? (Assoc.find? "token" entries)
    let outDirectory ← text? (Assoc.find? "out_dir" entries)
    let concurrency ← number? (Assoc.find? "concurrency" entries)
    let collision ← collision? (Assoc.find? "collision" entries)
    some ⟨baseUrl, token, outDirectory, concurrency, collision⟩
  else none

def ofText? (text : String) : Option Layer := (Toml.read text).bind ofEntries?

def load (files : FileTree) (cwd : Location) (path : String) : Except SettingsError Layer :=
  match files.read cwd path with
  | .error e => .error (.read path e.message)
  | .ok text =>
    match ofText? text with
    | none => .error (.parse path)
    | some layer => .ok layer

end Layer

namespace Settings

/-- The configuration file of a directory. -/
def localFile (directory : String) : String := Path.join directory "yapi2ts.toml"

/-- The configuration file of a user. -/
def homeFile (home : String) : String := Path.join (Path.join home ".yapi2ts") "config.toml"

/-- The configuration file to read, if any. -/
def locate (files : FileTree) (cwd : Location) (named : Option String) (directory : String)
    (home : Option String) : Option String :=
  match named with
  | some path => some path
  | none =>
    if files.isFile cwd (localFile directory) then some (localFile directory)
    else (home.map homeFile).filter (files.isFile cwd)

end Settings

end ApiTypings
