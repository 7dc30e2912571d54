import VisualNovel.Cache.Renderer
import VisualNovel.Picture.Load
import VisualNovel.Picture.Wrap
import VisualNovel.Settings.Basic

/-!
# Scenes

Drawing of frames. A line of dialogue is drawn from back to front: the background, the sprites, the
box, the name of the speaker and the lines of the text. A choice shows its two labels on bars.
-/
namespace VisualNovel

open VisualNovel.Number
open VisualNovel.Text

namespace Scene

/-- One and a half times a distance, without the fraction. -/
def oneAndHalf (distance : Int) : Except Failure Int :=
  wholeMultiple distance (Binary64.ofRatio false 3 2)

/-- A side of a scaled image, at least one pixel. -/
def scaledSide (side : Int) (scale : Binary64) : Except Failure Int :=
  (wholeMultiple side scale).map (max 1)

def scaleImage (image : Surface) : Option Binary64 → Except Failure Surface
  | none => .ok image
  | some scale => do
    let w ← scaledSide image.width scale
    let h ← scaledSide image.height scale
    return .scaled image w h

/-- A canvas of the size of the screen with the background on it. -/
def backdrop (settings : Settings) (picture : Option Surface) : Surface :=
  let screen := settings.screen
  let canvas := (Surface.canvas screen.width screen.height).fill .black
  match picture with
  | some p => canvas.blit (.scaled p screen.width screen.height) 0 0
  | none => canvas

def drawSprite (canvas : Surface) (sprite : SpriteView) : Action Surface := do
  let image ← Session.loadImage sprite.path
  let image ← Session.attempt (scaleImage image sprite.scale)
  return canvas.blitCentred image sprite.x sprite.y

/-- Draws lines below each other and gives the place below the last one. -/
def drawLines (font : Font) (color : Color) (x : Int) (canvas : Surface) (y : Int) :
    List String → Surface
  | [] => canvas
  | line :: rest =>
    drawLines font color x (canvas.blit (font.render line color) x y) (y + font.lineHeight) rest

/-- Draws the box, the name and the text of a line of dialogue; also gives the number of lines. -/
def drawText (settings : Settings) (f : DialogueFrame) (canvas : Surface) :
    Except Failure (Surface × Nat) := do
  let box := settings.textBox
  let panel := (Surface.canvas box.width box.height).fill f.boxColor
  let canvas := canvas.blit panel box.x box.y
  let font : Font := ⟨settings.font.path, settings.font.size⟩
  let (canvas, y) ←
    if f.speaker = "" then pure (canvas, box.y)
    else do
      let below ← oneAndHalf font.lineHeight
      pure (canvas.blit (font.render f.speaker .white) box.x box.y, box.y + below)
  let (font, lines) ←
    Fit.fit settings.font.path f.text box.width (box.bottom - y) settings.font.size
  return (drawLines font f.textColor box.x canvas y lines, lines.length)

def drawDialogue (settings : Settings) (f : DialogueFrame) : Action Surface := do
  let canvas ← f.sprites.foldlM drawSprite (backdrop settings f.backdrop.picture)
  let (canvas, lines) ← Session.attempt (drawText settings f canvas)
  Session.note "renderer" .trace
    ("Drew dialogue for " ++ f.speaker ++ " (" ++ natText lines ++ " lines)")
  return canvas

def drawLabel (settings : Settings) (font : Font) (barHeight : Int) (canvas : Surface)
    (label : String) (middle : Int) : Surface :=
  let bar := (Surface.canvas settings.screen.width barHeight).fill .shade
  let canvas := canvas.blit bar 0 (middle - barHeight / 2)
  canvas.blitCentred (font.render label .white) (settings.screen.width / 2) middle

def drawChoice (settings : Settings) (f : ChoiceFrame) : Except Failure Surface := do
  let font : Font := ⟨settings.font.path, settings.font.size⟩
  let barHeight ← oneAndHalf font.lineHeight
  let first := settings.screen.height / 4
  let second := first + font.ascent * 5
  let canvas := backdrop settings f.backdrop.picture
  let canvas := drawLabel settings font barHeight canvas f.choices.first first
  return drawLabel settings font barHeight canvas f.choices.second second

def drawFrame (settings : Settings) : Frame → Action Surface
  | .dialogue f => drawDialogue settings f
  | .choice f => Session.attempt (drawChoice settings f)

end Scene

def Renderer.scene (settings : Settings) : Renderer where
  draw f := do return .drawing (← Scene.drawFrame settings f)

end VisualNovel
