import VisualNovel.Script.Load
import VisualNovel.Settings.Basic
import VisualNovel.Yaml.Value

/-!
# Loading settings

Settings come from a document in a file, if one is named, and from the environment, which wins. The
whole is checked once both have been put together.
-/
namespace VisualNovel.Settings

open VisualNovel.Text

/-- How many levels of a document are looked at: the settings, the records in them, their values, and
one more to see what kind these are. -/
def documentDepth : Nat := 4

/-- The entries of the mapping in a settings file. A file without a document has none. -/
def readEntries (files : FileTree) (path : String) : Except Failure Entries :=
  let refuse (p : SettingsProblem) : Except Failure Entries :=
    .error (.settings ⟨some path, p⟩)
  match files.read path with
  | .error (.unnameable f) => .error (.file (.unnameable f))
  | .error (.refused .noEntry _) => refuse .notFound
  | .error e => refuse (.unreadable e)
  | .ok content =>
    match Yaml.read documentDepth content.data with
    | .error .malformed => refuse .malformed
    | .error e => .error (.document e)
    | .ok none => .ok []
    | .ok (some (.map entries)) => .ok entries
    | .ok (some .null) => .ok []
    | .ok (some d) => refuse (.notMapping d.kind)

/-- The variables that replace a text, and the fields that they replace. -/
def textVariables : List (String × String) :=
  [("VN_SCRIPT_PATH", "script_path"), ("VN_BASE_DIR", "base_dir"),
    ("VN_RENDER_DIR", "render_dir"), ("VN_CACHE_DIR", "cache_dir")]

/-- What a variable must say to enable the cache. -/
def enabling : List String :=
  ["true", "1", "yes"]

/-- The entries that the environment gives. An empty text replaces nothing, while the cache is
decided by any text. -/
def overrides (environment : List (String × String)) : Entries :=
  (textVariables.filterMap fun (name, key) =>
    match environment.lookup name with
    | some value => if value = "" then none else some (.text key, .text value)
    | none => none) ++
  match environment.lookup "VN_CACHE_ENABLED" with
  | some value => [(.text "cache_enabled", .truth (enabling.contains (lower value)))]
  | none => []

/-- Puts the second entries over the first. -/
def override (entries winning : Entries) : Entries :=
  winning.foldl (fun es (k, v) => Datum.putEntry k v es) entries

def assemble (files : FileTree) (environment : List (String × String)) (path : Option String) :
    Except Failure Settings := do
  let entries ←
    match path with
    | some path => readEntries files path
    | none => .ok []
  match validate (.map (override entries (overrides environment))) with
  | .ok s => return s
  | .error issues => throw (.settings ⟨path, .invalid issues⟩)

end VisualNovel.Settings

namespace VisualNovel

def Session.loadSettings (environment : List (String × String)) (path : Option String) :
    Action Settings := do
  let settings ← Session.attempt (Settings.assemble (← get).files environment path)
  let source :=
    match path with
    | some path => if path = "" then "defaults" else path
    | none => "defaults"
  Session.note "config" .debug ("Settings loaded from " ++ source)
  return settings

end VisualNovel
