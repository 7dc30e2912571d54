import VisualNovel.Player.Prompt
import VisualNovel.Stage.Render
import VisualNovel.Stage.Step

/-!
# Runs

Playing a script to its end. Every event that shows something becomes a numbered file; choices are
made beforehand or asked for.
-/
namespace VisualNovel

open VisualNovel.Text

namespace Play

def onStage {α : Type} (stage : Stage) (act : Act α) : Action α := fun session =>
  match act ⟨session, stage⟩ with
  | .ok a p => .ok a p.session
  | .error e p => .error e p.session

def drawingName (n : Nat) : String :=
  "render_" ++ natText n ++ ".png"

/-- Whether a file has the name of a drawing, whatever its number is called. -/
def isDrawing (name : String) : Bool :=
  let s := name.toList
  let lead := ['r', 'e', 'n', 'd', 'e', 'r', '_']
  let ending := ['.', 'p', 'n', 'g']
  lead.isPrefixOf s && ending.isSuffixOf s && lead.length + ending.length ≤ s.length

/-- Makes the directory of the drawings and removes the drawings in it. -/
def clearDrawings (directory : Path) : Action Unit := do
  Session.alter fun files => files.ensureDirectory directory
  let names ← Session.consult fun files => files.list directory.text
  for name in names.filter isDrawing do
    Session.note "vn_play" .debug ("Removing file " ++ name)
    Session.alter fun files => files.remove (directory.child name).text

def stopsAt (e : Event) : Bool :=
  e.isRenderable || e.isCustom

/-- Which choice is made at an event: the one made beforehand, or the one that is asked for. -/
def choiceAt (choose : Option Bool) : Event → Act Bool
  | .dialogue _ lines => do
    Session.note "vn_play" .debug ("Rendered dialogue: " ++ quoted (Event.dialogueText lines))
    return false
  | .directive (.jump _ (some choices)) =>
    match choose with
    | some first => return first
    | none => do
      Session.note "vn_play" .info "A conditional jump was found, choose 1 or 2."
      Prompt.ask choices
  | _ => return false

/-- Plays from the current event to the end of a script, with `drawn` drawings made before; gives
the number of drawings. Both the events drawn and the events between two of them are limited by
`budget`. -/
def playFrom (r : Renderer) (out : Path) (choose : Option Bool) (drawn : Nat) :
    (budget : Nat) → Act Nat
  | 0 => throw .budget
  | budget + 1 => do
    match ← Stage.seek stopsAt (budget + 1) with
    | none => return drawn
    | some (.directive (.custom name arguments)) =>
      Session.note "vn_play" .info
        ("Ignoring custom directive " ++ name ++ "(" ++ String.intercalate ", " arguments ++ ")")
      let _ ← Stage.advance false
      playFrom r out choose drawn budget
    | some event =>
      let _ ← Stage.renderCached r (out.child (drawingName (drawn + 1))).text
      let choice ← choiceAt choose event
      let _ ← Stage.advance choice
      playFrom r out choose (drawn + 1) budget

def play (r : Renderer) (out : Path) (choose : Option Bool) (budget : Nat) : Act Nat :=
  playFrom r out choose 0 budget

end Play

end VisualNovel
