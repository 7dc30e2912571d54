import VisualNovel.Proofs.Picture.Fit
import VisualNovel.Proofs.Picture.Portrait
import VisualNovel.Proofs.Picture.Wrap

/-!
# The composition of a picture

What is drawn for a line of dialogue, first to last and at which place: the background, the sprites,
the box, the name of the speaker and the lines of the text. The lines carry the text. They stand below
the name and, unless the font has shrunk to its least size, in the box.
-/
namespace VisualNovel

open VisualNovel.Text

theorem Font.pixels_le_lineHeight {f : Font} (notNegative : 0 ≤ f.pixels) :
    f.pixels ≤ f.lineHeight := by
  rw [lineHeight]
  omega

namespace Scene

open Surface (Operation operations)

variable {settings : Settings} {offer : Offer} {canvas canvas' : Surface} {d : DialogueFrame}
  {s t : Session} {top : Int} {font : Font} {lines : List String}

def nameFont (settings : Settings) : Font :=
  ⟨settings.font.path, settings.font.size⟩

theorem lineHeight_nameFont (positive : 0 < settings.font.size) :
    0 ≤ (nameFont settings).lineHeight :=
  have hsize : 0 ≤ (nameFont settings).pixels := Int.le_of_lt positive
  Int.le_trans hsize (Font.pixels_le_lineHeight hsize)

/-- The background on the whole screen, if there is one. -/
def landscape (settings : Settings) (d : DialogueFrame) : List Operation :=
  (d.backdrop.picture.map fun picture =>
    .blit (.scaled picture settings.screen.width settings.screen.height) 0 0).toList

/-- The operation draws the image of a sprite, in its scale and with its centre at its place. -/
def Portrays (offer : Offer) (v : SpriteView) (op : Operation) : Prop :=
  ∃ image picture, offer v.path = .ok image ∧ scaleImage image v.scale = .ok picture ∧
    op = .blit picture (v.x - picture.width / 2) (v.y - picture.height / 2)

def panel (settings : Settings) (d : DialogueFrame) : Operation :=
  let box := settings.textBox
  .blit ((Surface.canvas box.width box.height).fill d.boxColor) box.x box.y

/-- The name of the speaker at the top left of the box, if the speaker has one. -/
def label (settings : Settings) (d : DialogueFrame) : List Operation :=
  if d.speaker = "" then []
  else [.blit ((nameFont settings).render d.speaker .white) settings.textBox.x settings.textBox.y]

/-- Lines from a place on, each one line height of the font below the one before. -/
def rows (font : Font) (color : Color) (x top : Int) (lines : List String) : List Operation :=
  lines.mapIdx fun i line => .blit (font.render line color) x (top + i * font.lineHeight)

theorem rows_cons (font : Font) (color : Color) (x top : Int) (line : String) (lines : List String) :
    rows font color x top (line :: lines) =
      .blit (font.render line color) x top :: rows font color x (top + font.lineHeight) lines := by
  rw [rows, rows, List.mapIdx_cons]
  congr 1
  · rw [Int.natCast_zero, Int.zero_mul, Int.add_zero]
  · congr 1
    funext i line
    congr 1
    push_cast
    ring

theorem operations_backdrop (settings : Settings) (d : DialogueFrame) :
    operations (backdrop settings d.backdrop.picture) =
      .fill .black :: landscape settings d := by
  rw [landscape]
  cases d.backdrop.picture <;> rfl

theorem portraySprite_eq_ok_iff {v : SpriteView} :
    portraySprite offer canvas v = .ok canvas' ↔
      ∃ image picture, offer v.path = .ok image ∧ scaleImage image v.scale = .ok picture ∧
        canvas.blitCentred picture v.x v.y = canvas' := by
  constructor
  · intro h
    obtain ⟨image, himage, hscaled⟩ := exists_of_bind h
    obtain ⟨picture, hpicture, hblit⟩ := exists_of_bind hscaled
    exact ⟨image, picture, himage, hpicture, Except.ok.inj hblit⟩
  · rintro ⟨image, picture, himage, hpicture, rfl⟩
    rw [portraySprite, bind_of_ok himage, bind_of_ok hpicture]
    rfl

theorem operations_portraySprites {sprites : List SpriteView}
    (h : sprites.foldlM (portraySprite offer) canvas = .ok canvas') :
    ∃ portraits, List.Forall₂ (Portrays offer) sprites portraits ∧
      operations canvas' = operations canvas ++ portraits := by
  induction sprites generalizing canvas with
  | nil =>
    cases h
    exact ⟨[], .nil, (List.append_nil _).symm⟩
  | cons v rest ih =>
    rw [List.foldlM_cons] at h
    obtain ⟨drawn, hdrawn, hrest⟩ := exists_of_bind h
    obtain ⟨image, picture, himage, hpicture, rfl⟩ := portraySprite_eq_ok_iff.1 hdrawn
    obtain ⟨portraits, hportraits, hoperations⟩ := ih hrest
    refine ⟨_ :: portraits, .cons ⟨image, picture, himage, hpicture, rfl⟩ hportraits, ?_⟩
    rw [hoperations, Surface.blitCentred, operations, List.append_assoc, List.singleton_append]

theorem operations_drawLines (font : Font) (color : Color) (x : Int) (canvas : Surface) (top : Int)
    (lines : List String) :
    operations (drawLines font color x canvas top lines) =
      operations canvas ++ rows font color x top lines := by
  induction lines generalizing canvas top with
  | nil => exact (List.append_nil _).symm
  | cons line rest ih =>
    rw [drawLines, ih, operations, rows_cons, List.append_assoc, List.singleton_append]

/-- The place, the font and the lines in which the text of a frame is set: one and a half lines of the
name below the top of the box, or at the top if there is no name, and as it fits what is left of the
box. -/
structure Sets (settings : Settings) (d : DialogueFrame) (top : Int) (font : Font)
    (lines : List String) : Prop where
  unnamed : d.speaker = "" → top = settings.textBox.y
  named : d.speaker ≠ "" →
    oneAndHalf (nameFont settings).lineHeight = .ok (top - settings.textBox.y)
  fit : Fit.fit settings.font.path d.text settings.textBox.width (settings.textBox.bottom - top)
    settings.font.size = .ok (font, lines)

namespace Sets

theorem breaks (h : Sets settings d top font lines) :
    Wrap.Breaks font.width settings.textBox.width d.text lines := by
  obtain ⟨-, hlines, -⟩ := Fit.lines_of_fit h.fit
  rw [hlines]
  exact font.breaks_wrap d.text settings.textBox.width

theorem below_name (h : Sets settings d top font lines) (hname : d.speaker ≠ "")
    (positive : 0 < settings.font.size) :
    settings.textBox.y + (nameFont settings).lineHeight ≤ top := by
  have := le_of_oneAndHalf (lineHeight_nameFont positive) (h.named hname)
  omega

theorem top_of_small (h : Sets settings d top font lines) (hname : d.speaker ≠ "")
    (positive : 0 < settings.font.size) (small : 3 * (nameFont settings).lineHeight < 2 ^ 53) :
    top = settings.textBox.y + 3 * (nameFont settings).lineHeight / 2 := by
  have hheight := lineHeight_nameFont positive
  have hbelow := (h.named hname).symm.trans (oneAndHalf_of_small hheight small)
  have := Except.ok.inj hbelow
  omega

theorem bottom (h : Sets settings d top font lines) (large : Fit.least < font.pixels)
    {picture : Surface} {x y : Int}
    (row : .blit picture x y ∈ rows font d.textColor settings.textBox.x top lines) :
    y + picture.height ≤ settings.textBox.bottom := by
  -- all rows together are low enough, and a row is not higher than a line
  obtain ⟨i, hi, hrow⟩ := List.mem_mapIdx.1 row
  cases hrow
  obtain ⟨-, -, hlow⟩ := Fit.lines_of_fit h.fit
  have hheight := hlow large
  rw [Fit.least] at large
  have hpixels : font.pixels ≤ font.lineHeight := Font.pixels_le_lineHeight (by omega)
  have hrows : (i + 1 : Int) * font.lineHeight ≤ lines.length * font.lineHeight :=
    Int.mul_le_mul_of_nonneg_right (by omega) (by omega)
  rw [Int.add_mul, Int.one_mul] at hrows
  show top + i * font.lineHeight + font.pixels ≤ settings.textBox.bottom
  omega

theorem right (h : Sets settings d top font lines) {line : String} (hline : line ∈ lines)
    (several : 2 ≤ (words line).length) :
    settings.textBox.x + (font.render line d.textColor).width ≤ settings.textBox.right := by
  have hwidth : font.width line ≤ settings.textBox.width := by
    by_contra hwide
    obtain ⟨word, hword⟩ := h.breaks.alone line hline (Int.not_le.1 hwide)
    rw [hword, List.length_singleton] at several
    omega
  show settings.textBox.x + font.width line ≤ settings.textBox.right
  rw [Rectangle.right]
  omega

end Sets

theorem exists_fit_of_drawn {named : Surface} {count : Nat}
    (h : (do
      let (font, lines) ← Fit.fit settings.font.path d.text settings.textBox.width
        (settings.textBox.bottom - top) settings.font.size
      return (drawLines font d.textColor settings.textBox.x named top lines, lines.length)) =
        Except.ok (canvas', count)) :
    ∃ font lines, Fit.fit settings.font.path d.text settings.textBox.width
        (settings.textBox.bottom - top) settings.font.size = .ok (font, lines) ∧
      operations canvas' = operations named ++ rows font d.textColor settings.textBox.x top lines := by
  obtain ⟨⟨font, lines⟩, hfit, hdrawn⟩ := exists_of_bind h
  obtain ⟨rfl, -⟩ := Prod.mk.inj (Except.ok.inj hdrawn)
  exact ⟨font, lines, hfit, operations_drawLines _ _ _ _ _ _⟩

theorem exists_sets_of_drawText {count : Nat}
    (h : drawText settings d canvas = .ok (canvas', count)) :
    ∃ top font lines, Sets settings d top font lines ∧
      operations canvas' = operations canvas ++ panel settings d :: (label settings d ++
        rows font d.textColor settings.textBox.x top lines) := by
  rw [drawText] at h
  by_cases hspeaker : d.speaker = ""
  · rw [if_pos hspeaker] at h
    obtain ⟨⟨named, top⟩, hnamed, hrest⟩ := exists_of_bind h
    obtain ⟨rfl, rfl⟩ := Prod.mk.inj (Except.ok.inj hnamed)
    obtain ⟨font, lines, hfit, hrows⟩ := exists_fit_of_drawn hrest
    refine ⟨_, font, lines, ⟨fun _ => rfl, fun hname => absurd hspeaker hname, hfit⟩, ?_⟩
    rw [hrows, operations, label, if_pos hspeaker, List.append_assoc]
    rfl
  · rw [if_neg hspeaker] at h
    obtain ⟨below, hbelow, hafter⟩ := exists_of_bind h
    obtain ⟨⟨named, top⟩, hnamed, hrest⟩ := exists_of_bind hafter
    obtain ⟨rfl, rfl⟩ := Prod.mk.inj (Except.ok.inj hnamed)
    obtain ⟨font, lines, hfit, hrows⟩ := exists_fit_of_drawn hrest
    refine ⟨_, font, lines, ⟨fun hname => absurd hname hspeaker, fun _ => ?_, hfit⟩, ?_⟩
    · rw [add_sub_cancel_left]
      exact hbelow
    · rw [hrows, operations, operations, label, if_neg hspeaker, List.append_assoc,
        List.append_assoc]
      rfl

/-- The picture of a line of dialogue. The background, the sprites in their order, the box, the name
and the lines are drawn one upon the other. The lines carry the words of the text in order, each of
them once; they begin below the name, and they stay in the box unless the font has eight pixels or
less. Only a line of a single word can be too wide. -/
structure Composed (settings : Settings) (offer : Offer) (d : DialogueFrame) (canvas : Surface)
    (portraits : List Operation) (top : Int) (font : Font) (lines : List String) : Prop where
  ground_eq : canvas.ground = .canvas settings.screen.width settings.screen.height
  operations_eq : operations canvas = .fill .black :: (landscape settings d ++ portraits ++
    panel settings d :: (label settings d ++
      rows font d.textColor settings.textBox.x top lines))
  portrays : List.Forall₂ (Portrays offer) d.sprites portraits
  sets : Sets settings d top font lines
  words_eq : lines.flatMap words = words d.text
  joined_words : ∀ line ∈ lines, Wrap.joined (words line) = line
  below_name : d.speaker ≠ "" → 0 < settings.font.size →
    settings.textBox.y + (nameFont settings).lineHeight ≤ top ∧
      (3 * (nameFont settings).lineHeight < 2 ^ 53 →
        top = settings.textBox.y + 3 * (nameFont settings).lineHeight / 2)
  bottom : Fit.least < font.pixels → ∀ picture x y,
    .blit picture x y ∈ rows font d.textColor settings.textBox.x top lines →
      y + picture.height ≤ settings.textBox.bottom
  right : ∀ line ∈ lines, 2 ≤ (words line).length →
    settings.textBox.x + (font.render line d.textColor).width ≤ settings.textBox.right

theorem exists_composed_of_portray (h : portray settings offer d = .ok canvas) :
    ∃ portraits top font lines, Composed settings offer d canvas portraits top font lines := by
  obtain ⟨behind, hsprites, hrest⟩ := exists_of_bind h
  obtain ⟨⟨drawn, count⟩, htext, hcanvas⟩ := exists_of_bind hrest
  cases hcanvas
  obtain ⟨portraits, hportraits, hbehind⟩ := operations_portraySprites hsprites
  obtain ⟨top, font, lines, hsets, hdrawn⟩ := exists_sets_of_drawText htext
  refine ⟨portraits, top, font, lines, ?_⟩
  exact {
    ground_eq := by
      rw [ground_drawText htext, ground_portraySprites hsprites, ground_backdrop]
    operations_eq := by
      rw [hdrawn, hbehind, operations_backdrop, List.cons_append, List.cons_append]
    portrays := hportraits
    sets := hsets
    words_eq := hsets.breaks.words_eq
    joined_words := fun line hline => (hsets.breaks.joined_words line hline).2.2
    below_name := fun hname positive =>
      ⟨hsets.below_name hname positive, hsets.top_of_small hname positive⟩
    bottom := fun large _ _ _ row => hsets.bottom large row
    right := fun _ hline several => hsets.right hline several }

/-- Drawing a line of dialogue that succeeds composes its picture of the images that the session
has. -/
theorem drawDialogue_composed (run : (drawDialogue settings d).run s = .ok canvas t) :
    ∃ portraits top font lines, Composed settings s.offer d canvas portraits top font lines := by
  have hlooks := looks_drawDialogue settings d s
  rw [run] at hlooks
  exact exists_composed_of_portray hlooks.1

theorem exists_run_of_portray (h : portray settings s.offer d = .ok canvas) :
    ∃ t, (drawDialogue settings d).run s = .ok canvas t := by
  have hlooks := looks_drawDialogue settings d s
  rw [h] at hlooks
  obtain ⟨t, run, -⟩ := hlooks.exists_of_ok
  exact ⟨t, run⟩

theorem exists_run_of_operations {drawn : List Operation}
    (h : (portray settings s.offer d).map operations = .ok drawn) :
    ∃ canvas t, (drawDialogue settings d).run s = .ok canvas t ∧ operations canvas = drawn := by
  cases hportray : portray settings s.offer d with
  | error e =>
    rw [hportray] at h
    cases h
  | ok canvas =>
    rw [hportray] at h
    obtain ⟨t, run⟩ := exists_run_of_portray hportray
    exact ⟨canvas, t, run, Except.ok.inj h⟩

/-- A speaker in front of a background and next to a stretched sprite; the two lines are too high for
the box in 24 pixels and low enough in 20. -/
theorem drawDialogue_composed_shrunk :
    let settings : Settings := { textBox := ⟨20, 340, 150, 90⟩ }
    let s : Session := { images := { images := [("p.png", .image "p.png" 30 20)] } }
    let d : DialogueFrame := {
      backdrop := ⟨some "b.png", some (.image "b.png" 4 3)⟩
      sprites := [⟨"a", "p.png", 100, 200, some (.ofRatio false 3 2)⟩, ⟨"b", "p.png", 0, 0, none⟩]
      speaker := "Ann"
      text := "To be, or not to be" }
    let drawn : List Operation := [.fill .black, .blit (.scaled (.image "b.png" 4 3) 640 480) 0 0,
      .blit (.scaled (.image "p.png" 30 20) 45 30) 78 185,
      .blit (.image "p.png" 30 20) (-15) (-10),
      .blit ((Surface.canvas 150 90).fill .shade) 20 340,
      .blit (.text "Ann" none 24 .white 36 24) 20 340,
      .blit (.text "To be, or not" none 20 .white 130 20) 20 382,
      .blit (.text "to be" none 20 .white 50 20) 20 406]
    ∃ canvas t, (drawDialogue settings d).run s = .ok canvas t ∧ operations canvas = drawn ∧
      ∃ portraits top font lines, Composed settings s.offer d canvas portraits top font lines := by
  intro settings s d drawn
  have hportray : (portray settings s.offer d).map operations = .ok drawn := by
    decide +kernel
  obtain ⟨canvas, t, run, hoperations⟩ := exists_run_of_operations hportray
  exact ⟨canvas, t, run, hoperations, drawDialogue_composed run⟩

end Scene

end VisualNovel
