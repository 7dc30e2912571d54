import VisualNovel.Number.Binary64
import VisualNovel.Picture.Font
import VisualNovel.Session.Failure
import VisualNovel.Text.Blank

/-!
# Wrapping and fitting

A text is broken into lines between words: every line takes as many words as fit. If the lines are
too high for their box the font shrinks in steps of five in a hundred, but not below eight pixels.
-/
namespace VisualNovel

open VisualNovel.Number
open VisualNovel.Text

namespace Wrap

def joined (words : List String) : String :=
  String.intercalate " " words

/-- Cuts a list of words into groups. The first group begins with `current`, and every group takes
words as long as they fit. -/
def groupsFrom (fits : List String → Bool) (current : List String) :
    List String → List (List String)
  | [] => [current]
  | w :: rest =>
    if fits (current ++ [w]) then groupsFrom fits (current ++ [w]) rest
    else current :: groupsFrom fits [w] rest

def groups (fits : List String → Bool) : List String → List (List String)
  | [] => []
  | w :: rest => groupsFrom fits [w] rest

end Wrap

namespace Font

def wrap (f : Font) (text : String) (boxWidth : Int) : List String :=
  (Wrap.groups (fun ws => decide (f.width (Wrap.joined ws) ≤ boxWidth)) (words text)).map Wrap.joined

end Font

/-- A whole number of pixels times a number, without the fraction. Pixels beyond every number have no
multiple, and neither have those whose product is. -/
def wholeMultiple (pixels : Int) (y : Binary64) : Except Failure Int :=
  (Binary64.ofInt? pixels).elim (.error .beyondReal) fun x =>
    (x.mul y).truncate.mapError .noInteger

namespace Fit

/-- The size below which no font shrinks. -/
def least : Int := 8

/-- The number nearest to ninety-five hundredths. -/
def factor : Binary64 :=
  Binary64.ofRatio false 95 100

/-- The next smaller size of a font; a size beyond every number has none. -/
def shrink (size : Int) : Except Failure Int :=
  (wholeMultiple size factor).map (max least)

theorem toNat_lt_of_least {next size : Int} (h : ¬size ≤ least) (smaller : next < size) :
    next.toNat < size.toNat := by
  unfold least at h
  omega

/-- The first size that fits, from a given one down in the steps of `next`. The least size is taken
in any case, and so is one that no smaller one follows. -/
def sizeFrom (next : Int → Except Failure Int) (fits : Int → Bool) (size : Int) :
    Except Failure Int :=
  if fits size then .ok size
  else if h : size ≤ least then .ok size
  else
    match next size with
    | .error e => .error e
    | .ok n =>
      if smaller : n < size then
        have := toNat_lt_of_least h smaller
        sizeFrom next fits n
      else .ok size
termination_by size.toNat

/-- Whether the lines of a text in a font are not higher than a box. -/
def isLow (font : Font) (text : String) (boxWidth boxHeight : Int) : Bool :=
  decide (((font.wrap text boxWidth).length : Int) * font.lineHeight ≤ boxHeight)

/-- The font of at most a given size in which a text fits a box, and the lines of the text. -/
def fit (path : Option String) (text : String) (boxWidth boxHeight size : Int) :
    Except Failure (Font × List String) := do
  let size ← sizeFrom shrink (fun s => isLow ⟨path, s⟩ text boxWidth boxHeight) size
  let font : Font := ⟨path, size⟩
  return (font, font.wrap text boxWidth)

end Fit

end VisualNovel
