import VisualNovel.Keyed
import VisualNovel.Text.Blank
import VisualNovel.Text.Case

/-!
# Journal levels

The levels of a record and the thresholds that decide which records are written: a default and one
threshold for each module that has been given its own. A module is known by its key, so names that
differ only in case or in the separators of their parts share a threshold.
-/
namespace VisualNovel.Journal

open VisualNovel.Text

inductive Level where
  | trace
  | debug
  | info
  | warning
  | error
  | critical
  | off
deriving DecidableEq, Inhabited, Repr

namespace Level

def rank : Level → Nat
  | trace => 5
  | debug => 10
  | info => 20
  | warning => 30
  | error => 40
  | critical => 50
  | off => 100

def name : Level → String
  | trace => "TRACE"
  | debug => "DEBUG"
  | info => "INFO"
  | warning => "WARNING"
  | error => "ERROR"
  | critical => "CRITICAL"
  | off => "OFF"

def all : List Level :=
  [trace, debug, info, warning, error, critical, off]

/-- The level of a given name, in any case and with blanks around it. A name that no level has
means `info`. -/
def ofText (s : String) : Level :=
  let key := upper (trim s)
  if key = "WARN" then warning else (all.find? fun l => l.name == key).getD info

theorem ofText_name (l : Level) : ofText l.name = l := by
  cases l <;> decide +kernel

end Level

/-- The key of a module: lower case, with dots and slashes as underscores. -/
def moduleKey (name : String) : String :=
  (lower name).map fun c => if c = '.' || c = '/' then '_' else c

/-- The default threshold and the thresholds of single modules by key. -/
structure Thresholds where
  default : Level := .warning
  modules : List (String × Level) := []
deriving DecidableEq, Repr

namespace Thresholds

def ofKey (t : Thresholds) (key : String) : Level :=
  (t.modules.lookup key).getD t.default

/-- Whether a module writes records of a level. -/
def enabled (t : Thresholds) (name : String) (level : Level) : Bool :=
  (t.ofKey (moduleKey name)).rank ≤ level.rank

/-- The threshold given last comes first and hides the earlier ones. -/
def setKey (t : Thresholds) (key : String) (level : Level) : Thresholds :=
  { t with modules := (key, level) :: t.modules.filter fun m => m.1 != key }

theorem ofKey_setKey (t : Thresholds) (key other : String) (level : Level) :
    (t.setKey key level).ofKey other = if other = key then level else t.ofKey other := by
  by_cases h : other = key
  · simp [setKey, ofKey, h]
  · have hb : (other == key) = false := by simpa using h
    simp [setKey, ofKey, List.lookup_cons, hb, h, Keyed.lookup_filter_ne key other t.modules h]

def configure (t : Thresholds) (level : String) (modules : List (String × String)) : Thresholds :=
  modules.foldl (fun t m => t.setKey (moduleKey m.1) (Level.ofText m.2))
    { t with default := Level.ofText level }

def silence (_ : Thresholds) : Thresholds :=
  { default := .off }

def variableStem : List Char :=
  ['V', 'N', '_', 'L', 'O', 'G', '_']

/-- Applies one environment variable: after the stem stands the key of a module, or `level` for the
default. -/
def applyVariable (t : Thresholds) (name value : String) : Thresholds :=
  if variableStem.isPrefixOf name.toList then
    let key := lower (String.ofList (name.toList.drop variableStem.length))
    if key = "level" then { t with default := Level.ofText value }
    else if key = "" then t
    else t.setKey key (Level.ofText value)
  else t

def applyEnvironment (t : Thresholds) (environment : List (String × String)) : Thresholds :=
  environment.foldl (fun t v => t.applyVariable v.1 v.2) t

end Thresholds

end VisualNovel.Journal
