import VisualNovel.Picture.Surface

/-!
# Fonts

Fonts of fixed pitch: every character of a line is as wide as half the size of the font, and at least
one pixel.
-/
namespace VisualNovel

structure Font where
  path : Option String := none
  pixels : Int
deriving DecidableEq, Repr

namespace Font

def pitch (f : Font) : Int :=
  max 1 (f.pixels / 2)

def width (f : Font) (line : String) : Int :=
  line.length * f.pitch

def lineHeight (f : Font) : Int :=
  f.pixels + f.pixels / 5

def ascent (f : Font) : Int :=
  4 * f.pixels / 5

def render (f : Font) (line : String) (color : Color) : Surface :=
  .text line f.path f.pixels color (f.width line) f.pixels

end Font

end VisualNovel
