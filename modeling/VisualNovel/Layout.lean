import VisualNovel.Text.Digit

/-!
# Layout

Sizes and boxes in pixels, with the origin at the top left.
-/
namespace VisualNovel

open VisualNovel.Text

structure Resolution where
  width : Int
  height : Int
deriving DecidableEq, Inhabited, Repr

def Resolution.text (r : Resolution) : String :=
  intText r.width ++ "x" ++ intText r.height

structure Rectangle where
  x : Int
  y : Int
  width : Int
  height : Int
deriving DecidableEq, Inhabited, Repr

namespace Rectangle

def right (r : Rectangle) : Int :=
  r.x + r.width

def bottom (r : Rectangle) : Int :=
  r.y + r.height

end Rectangle

end VisualNovel
