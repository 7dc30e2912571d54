import VisualNovel.Journal.Record

/-!
# Loggers

A logger writes the records of one module. It knows the threshold of the module by a key, which is made
from the name once, when the logger is made.
-/
namespace VisualNovel.Journal

open VisualNovel.Text

structure Logger where
  module : String
  key : String
deriving DecidableEq, Repr

namespace Logger

def named (module : String) : Logger :=
  ⟨module, moduleKey module⟩

def threshold (g : Logger) (t : Thresholds) : Level :=
  t.ofKey g.key

/-- Whether the logger writes records of a level. -/
def enabled (g : Logger) (t : Thresholds) (level : Level) : Bool :=
  (g.threshold t).rank ≤ level.rank

def log (room : Nat) (g : Logger) (j : Journal) (level : Level) (template : String)
    (args : List Argument) : Except Template.RangeError Journal :=
  if g.enabled j.thresholds level then
    (message room template args).map fun m => j.write (recordText g.module level m)
  else .ok j

theorem log_named (room : Nat) (module : String) (j : Journal) (level : Level) (template : String)
    (args : List Argument) :
    (named module).log room j level template args = j.log room module level template args :=
  rfl

end Logger

end VisualNovel.Journal
