import VisualNovel.Cache.Basic
import VisualNovel.Settings.Basic
import VisualNovel.Stage.Attributes
import VisualNovel.Stage.Cast
import VisualNovel.Stage.Reference

/-!
# The stage

The state of a play: the script that is read and the place in it, and what outlives a script, namely
attributes, sprites and background. Scripts and backgrounds that were loaded are kept, and so is what
every jump that was followed led to.
-/
namespace VisualNovel

/-- A script of a play: the one that opened it, or the one that was loaded for a target. -/
inductive ScriptId where
  | opening
  | target (path : String)
deriving DecidableEq, Inhabited, Repr

/-- A place in a script. -/
structure Cursor where
  id : ScriptId := .opening
  script : Script
  index : Nat := 0
deriving DecidableEq, Repr

structure Stage where
  settings : Settings := {}
  cursor : Cursor
  attributes : AttributeTree := .empty
  cast : Cast := []
  background : Option String := none
  /-- The backgrounds that have been loaded, by path. -/
  backdrops : List (String × Surface) := []
  /-- The scripts that have been loaded, by target. -/
  library : List (String × Script) := []
  /-- Where the jumps that have been followed lead, by script and place. -/
  resolved : List ((ScriptId × Nat) × Script) := []
  cache : Option RenderCache := none

/-- A stage and the session that it plays in. -/
structure Play where
  session : Session
  stage : Stage

/-- An operation on a stage. What it did before it failed stays done. -/
abbrev Act := EStateM Failure Play

namespace Play

def ofSession {α : Type} (a : Action α) : Act α := fun p =>
  match a p.session with
  | .ok x s => .ok x { p with session := s }
  | .error e s => .error e { p with session := s }

instance : MonadLift Action Act where
  monadLift := ofSession

def stage? : Act Stage := do
  return (← get).stage

def change (f : Stage → Stage) : Act Unit :=
  modify fun p => { p with stage := f p.stage }

def attempt {α : Type} (r : Except Failure α) : Act α :=
  match r with
  | .ok a => pure a
  | .error e => throw e

end Play

namespace Stage

def opening (settings : Settings) (script : Script) : Stage :=
  { settings, cursor := { script } }

/-- The event at the cursor; at the end of the script there is none. -/
def current (s : Stage) : Option Event :=
  s.cursor.script.events[s.cursor.index]?

def finished (s : Stage) : Bool :=
  decide (s.cursor.script.events.length ≤ s.cursor.index)

/-- Moves the cursor behind the current event. -/
def stepped (s : Stage) : Stage :=
  { s with cursor := { s.cursor with index := s.cursor.index + 1 } }

/-- The reference of the jump at a place of a script. -/
def referenceAt (s : Stage) (id : ScriptId) (index : Nat) (target : String) : Reference Script :=
  ⟨target, s.resolved.lookup (id, index)⟩

end Stage

end VisualNovel
