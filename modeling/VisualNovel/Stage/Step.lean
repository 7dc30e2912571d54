import VisualNovel.Picture.Load
import VisualNovel.Script.Load
import VisualNovel.Stage.View

/-!
# Steps

A step applies the event at the cursor and moves on: to the next event, or to the first event of
another script. A step that fails does not move the cursor.
-/
namespace VisualNovel

open VisualNovel.Text

namespace Stage

def loadTarget (path : String) : Act Script := do
  let s ← Play.stage?
  match s.library.lookup path with
  | some script => return script
  | none =>
    let file := (Path.ofText s.settings.baseDir).join (Path.ofText path)
    let script ← Session.loadScript file (some path)
    Play.change fun s => { s with library := (path, script) :: s.library }
    return script

/-- Goes to the first event of the script that the jump at the cursor leads to. -/
def follow (target : String) : Act Unit := do
  let s ← Play.stage?
  let here := s.cursor
  let (script, reference) ← (s.referenceAt here.id here.index target).resolve loadTarget
  Session.note "engine" .debug
    ("Jumping from " ++ here.script.name ++ ":" ++ natText here.index ++ " to " ++ script.name)
  Play.change fun s => { s with
    cursor := { id := .target target, script }
    resolved :=
      match reference.loaded, s.resolved.lookup (here.id, here.index) with
      | some script, none => ((here.id, here.index), script) :: s.resolved
      | _, _ => s.resolved }

def showSprite (name : String) (p : Placement) : Act Unit := do
  Session.note "engine" .debug ("Showing sprite " ++ name ++ " (" ++ p.path ++ ")")
  let s ← Play.stage?
  match s.cast.present s.attributes.priorityOf ⟨name, p.path, p.x, p.y⟩ with
  | .ok cast => Play.change fun s => { s with cast }
  | .error e => throw (.attribute e)

def hideSprite (name : String) : Act Unit := do
  Session.note "engine" .debug ("Hiding sprite " ++ name)
  Play.change fun s => { s with cast := s.cast.dismiss name }

/-- Changes the background; its picture is loaded at the first time. -/
def changeBackground (path : String) : Act Unit := do
  let s ← Play.stage?
  if (s.backdrops.lookup path).isNone then
    let image ← Session.loadImage path
    Play.change fun s => { s with backdrops := (path, image) :: s.backdrops }
  Session.note "engine" .debug ("Background set to " ++ path)
  Play.change fun s => { s with background := some path }

/-- Whether an attribute is the priority of a sprite with a simple name. -/
def isPriority (path key : String) : Bool :=
  match fields '.' path with
  | [first, _] => first == "sprite" && key == "priority"
  | _ => false

def resortCast : Act Unit := do
  let s ← Play.stage?
  match s.cast.resort s.attributes.priorityOf with
  | .ok cast => Play.change fun s => { s with cast }
  | .error e => throw (.attribute e)

/-- Writes an attribute. A priority must be an integer, and a new one reorders the sprites. -/
def writeAttribute (path key value : String) : Act Unit := do
  let priority := isPriority path key
  let name := attributeName path key
  if priority ∧ (Number.readInt? value).isNone then
    throw (.attribute (.value name value .integer))
  let s ← Play.stage?
  match s.attributes.set path key value with
  | .ok attributes => Play.change fun s => { s with attributes }
  | .error cause => throw (.attribute (.conflict path key cause))
  Session.note "engine" .debug ("Attribute " ++ name ++ " = " ++ value)
  if priority then resortCast

/-- Applies the current event and moves on; gives the event that is current then. `choice` tells
whether a jump with choices is followed. -/
def advance (choice : Bool) : Act (Option Event) := do
  match (← Play.stage?).current with
  | none => return none
  | some event =>
    match event with
    | .directive (.jump target choices) =>
      if choices.isNone || choice then follow target
      else
        Session.note "engine" .debug ("Skipping jump to " ++ target)
        Play.change stepped
    | .dialogue _ _ => Play.change stepped
    | .directive (.show name placement) =>
      showSprite name placement
      Play.change stepped
    | .directive (.hide name _) =>
      hideSprite name
      Play.change stepped
    | .directive (.background path) =>
      changeBackground path
      Play.change stepped
    | .directive (.attribute path key value) =>
      writeAttribute path key value
      Play.change stepped
    | .directive (.custom name _) =>
      Session.note "engine" .trace ("Stepping past custom directive " ++ name)
      Play.change stepped
    return (← Play.stage?).current

/-- Steps on, declining all choices, until an event satisfies `stop`; gives that event, or none at
the end of a script. At most `budget` events are looked at. -/
def seek (stop : Event → Bool) : (budget : Nat) → Act (Option Event)
  | 0 => throw .budget
  | budget + 1 => do
    match (← Play.stage?).current with
    | none => return none
    | some event =>
      if stop event then return some event
      else
        let _ ← advance false
        seek stop budget

end Stage

end VisualNovel
