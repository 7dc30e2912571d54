import VisualNovel.Color

/-!
# Surfaces

A picture is kept as the account of how it was made: decoded from a file, a new canvas, a fill or a
smaller picture put on another one, a scaled copy, or a line of text. Two pictures made in the same
way are the same picture.
-/
namespace VisualNovel

inductive Surface where
  | image (name : String) (width height : Int)
  | canvas (width height : Int)
  | fill (base : Surface) (color : Color)
  | blit (base source : Surface) (x y : Int)
  | scaled (source : Surface) (width height : Int)
  | text (line : String) (font : Option String) (pixels : Int) (color : Color) (width height : Int)
deriving DecidableEq, Inhabited, Repr

namespace Surface

def width : Surface → Int
  | image _ w _ | canvas w _ | scaled _ w _ | text _ _ _ _ w _ => w
  | fill base _ | blit base _ _ _ => base.width

def height : Surface → Int
  | image _ _ h | canvas _ h | scaled _ _ h | text _ _ _ _ _ h => h
  | fill base _ | blit base _ _ _ => base.height

/-- Something drawn on a canvas. -/
inductive Operation where
  | fill (color : Color)
  | blit (source : Surface) (x y : Int)
deriving DecidableEq, Repr

def operations : Surface → List Operation
  | fill base color => operations base ++ [.fill color]
  | blit base source x y => operations base ++ [.blit source x y]
  | _ => []

def ground : Surface → Surface
  | fill base _ | blit base _ _ _ => ground base
  | s => s

/-- Puts a picture so that its centre is at a point. -/
def blitCentred (base source : Surface) (x y : Int) : Surface :=
  blit base source (x - source.width / 2) (y - source.height / 2)

end Surface

end VisualNovel
