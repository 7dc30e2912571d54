import VisualNovel.Number.Binary64
import VisualNovel.Picture.Surface
import VisualNovel.Script.Event

/-!
# Frames

A frame is everything that is needed to draw one step of a script: a line of dialogue over the
sprites on stage, or the two labels of a choice.
-/
namespace VisualNovel

open VisualNovel.Number

structure SpriteView where
  name : String
  path : String
  x : Int
  y : Int
  scale : Option Binary64 := none
deriving DecidableEq, Repr

/-- The picture behind a scene and the path that it was loaded from. -/
structure Backdrop where
  id : Option String := none
  picture : Option Surface := none
deriving DecidableEq, Repr

structure DialogueFrame where
  backdrop : Backdrop := {}
  sprites : List SpriteView := []
  speaker : String := ""
  text : String := ""
  textColor : Color := .white
  boxColor : Color := .shade
deriving DecidableEq, Repr

structure ChoiceFrame where
  backdrop : Backdrop := {}
  choices : Choices
deriving DecidableEq, Repr

inductive Frame where
  | dialogue (f : DialogueFrame)
  | choice (f : ChoiceFrame)
deriving DecidableEq, Repr

end VisualNovel
