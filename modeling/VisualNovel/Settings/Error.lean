import VisualNovel.Files.Tree
import VisualNovel.Settings.Issue

/-!
# Settings errors

Why settings cannot be loaded: the file is missing or cannot be read, it is no document or not one
mapping, or its values do not pass the check.
-/
namespace VisualNovel

inductive SettingsProblem where
  | notFound
  | unreadable (cause : FileError)
  | malformed
  | notMapping (kind : String)
  | invalid (issues : List Issue)
deriving DecidableEq, Repr

def SettingsProblem.message : SettingsProblem → String
  | .notFound => "settings file not found"
  | .unreadable cause => "cannot read settings: " ++ cause.message
  | .malformed => "cannot read settings"
  | .notMapping kind => "expected a mapping, got " ++ kind
  | .invalid _ => "invalid settings"

structure SettingsError where
  path : Option String
  problem : SettingsProblem
deriving DecidableEq, Repr

def SettingsError.message (e : SettingsError) : String :=
  match e.path with
  | some path => if path = "" then e.problem.message else path ++ ": " ++ e.problem.message
  | none => e.problem.message

end VisualNovel
