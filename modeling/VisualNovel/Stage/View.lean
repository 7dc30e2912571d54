import VisualNovel.Number.Decimal
import VisualNovel.Stage.Basic

/-!
# What is to be seen

What attributes say about sprites and speakers, and the frame of the current event. Attributes are
texts; one that does not say what it should is an error of whoever asks for it.
-/
namespace VisualNovel

open VisualNovel.Number

namespace AttributeTree

def readAs {α : Type} (t : AttributeTree) (name : String) (expected : Expected)
    (read? : String → Option α) : Except AttributeError (Option α) :=
  match t.valueOf? name with
  | none => .ok none
  | some value =>
    match read? value with
    | some a => .ok (some a)
    | none => .error (.value name value expected)

def priorityName (sprite : String) : String :=
  "sprite." ++ sprite ++ ".priority"

def priorityOf (t : AttributeTree) (sprite : String) : Except AttributeError Int :=
  (t.readAs (priorityName sprite) .integer readInt?).map fun p => p.getD 0

def scaleOf (t : AttributeTree) (sprite : String) : Except AttributeError (Option Binary64) :=
  t.readAs ("sprite." ++ sprite ++ ".scale") .number Binary64.read?

def colorOf (t : AttributeTree) (name : String) : Except AttributeError (Option Color) :=
  t.readAs name .color fun value => (Color.ofText value).toOption

end AttributeTree

namespace Stage

def textColor (s : Stage) (character : String) : Except AttributeError Color := do
  let color ← s.attributes.colorOf ("character." ++ character ++ ".text_color")
  return color.getD s.settings.textColor

/-- The color of the box of a character. A character with a simple name may have it under the name
alone. -/
def boxColor (s : Stage) (character : String) : Except AttributeError Color := do
  match ← s.attributes.colorOf ("character." ++ character ++ ".dialogue_color") with
  | some color => return color
  | none =>
    if character ≠ "" ∧ !character.toList.contains '.' then
      return (← s.attributes.colorOf character).getD s.settings.boxColor
    else return s.settings.boxColor

def backdrop (s : Stage) : Option Surface :=
  s.background.bind fun path => s.backdrops.lookup path

def viewSprite (s : Stage) (sprite : Sprite) : Except AttributeError SpriteView := do
  return ⟨sprite.name, sprite.path, sprite.x, sprite.y, ← s.attributes.scaleOf sprite.name⟩

def frame (s : Stage) : Except AttributeError (Option Frame) := do
  let backdrop : Backdrop := ⟨s.background, s.backdrop⟩
  match s.current with
  | some (.dialogue speaker lines) =>
    let sprites ← s.cast.mapM s.viewSprite
    let text := Event.dialogueText lines
    let textColor ← s.textColor speaker
    let boxColor ← s.boxColor speaker
    return some (.dialogue { backdrop, sprites, speaker, text, textColor, boxColor })
  | some (.directive (.jump _ (some choices))) => return some (.choice { backdrop, choices })
  | _ => return none

end Stage

end VisualNovel
