import VisualNovel.Proofs.Picture.Composition

/-!
# What can be drawn

A sprite can be drawn in a scale if the scale is finite and neither side of the image grows beyond
every number; it has at least one pixel then. With a font of an ordinary size a text can always be
drawn, so a line of dialogue can be drawn exactly if all of its sprites can.
-/
namespace VisualNovel.Scene

open VisualNovel.Number
open VisualNovel.Number.Binary64

variable {settings : Settings} {offer : Offer} {canvas : Surface} {d : DialogueFrame}
  {scale : Binary64} {side : Int} {image : Surface}

/-- A side can be stretched by a scale: both are finite, and so is the product. -/
def Stretches (scale : Binary64) (side : Int) : Prop :=
  scale.IsFinite ∧ ∃ x, ofInt? side = some x ∧
    x.units * scale.units < unitsPerOne * (firstBeyond * unitsPerOne)

theorem exists_scaledSide_iff :
    (∃ pixels, scaledSide side scale = .ok pixels) ↔ Stretches scale side := by
  rw [scaledSide, exists_map_wholeMultiple_iff, Stretches]
  constructor
  · rintro ⟨x, number, hproduct⟩
    obtain ⟨-, hx⟩ := eq_nearest_of_ofInt? number
    obtain ⟨hscale, hlt⟩ := (isFinite_mul_iff hx).1 hproduct
    exact ⟨hscale, x, number, hlt⟩
  · rintro ⟨hscale, x, number, hlt⟩
    obtain ⟨-, hx⟩ := eq_nearest_of_ofInt? number
    exact ⟨x, number, (isFinite_mul_iff hx).2 ⟨hscale, hlt⟩⟩

theorem one_le_of_scaledSide {pixels : Int} (h : scaledSide side scale = .ok pixels) :
    1 ≤ pixels := by
  rw [scaledSide] at h
  cases hpart : wholeMultiple side scale with
  | error e =>
    rw [hpart] at h
    cases h
  | ok part =>
    rw [hpart] at h
    have := Except.ok.inj h
    omega

theorem exists_scaleImage_iff :
    (∃ picture, scaleImage image (some scale) = .ok picture) ↔
      Stretches scale image.width ∧ Stretches scale image.height := by
  rw [← exists_scaledSide_iff, ← exists_scaledSide_iff]
  constructor
  · rintro ⟨picture, h⟩
    obtain ⟨width, hwidth, hrest⟩ := exists_of_bind h
    obtain ⟨height, hheight, -⟩ := exists_of_bind hrest
    exact ⟨⟨width, hwidth⟩, ⟨height, hheight⟩⟩
  · rintro ⟨⟨width, hwidth⟩, ⟨height, hheight⟩⟩
    refine ⟨.scaled image width height, ?_⟩
    rw [scaleImage, bind_of_ok hwidth, bind_of_ok hheight]
    rfl

theorem one_le_of_scaleImage {picture : Surface} (h : scaleImage image (some scale) = .ok picture) :
    1 ≤ picture.width ∧ 1 ≤ picture.height := by
  obtain ⟨width, hwidth, hrest⟩ := exists_of_bind h
  obtain ⟨height, hheight, hpicture⟩ := exists_of_bind hrest
  rw [← Except.ok.inj hpicture]
  exact ⟨one_le_of_scaledSide hwidth, one_le_of_scaledSide hheight⟩

/-- The sprite has an image that can be stretched as it is to be. -/
def Shows (offer : Offer) (v : SpriteView) : Prop :=
  ∃ image picture, offer v.path = .ok image ∧ scaleImage image v.scale = .ok picture

theorem exists_portraySprites_iff (canvas : Surface) {sprites : List SpriteView} :
    (∃ canvas', sprites.foldlM (portraySprite offer) canvas = .ok canvas') ↔
      ∀ v ∈ sprites, Shows offer v := by
  induction sprites generalizing canvas with
  | nil => exact iff_of_true ⟨canvas, rfl⟩ (by simp)
  | cons v rest ih =>
    rw [List.forall_mem_cons, List.foldlM_cons]
    constructor
    · rintro ⟨canvas', h⟩
      obtain ⟨drawn, hdrawn, hrest⟩ := exists_of_bind h
      obtain ⟨image, picture, himage, hpicture, -⟩ := portraySprite_eq_ok_iff.1 hdrawn
      exact ⟨⟨image, picture, himage, hpicture⟩, (ih drawn).1 ⟨canvas', hrest⟩⟩
    · rintro ⟨⟨image, picture, himage, hpicture⟩, hrest⟩
      rw [portraySprite_eq_ok_iff.2 ⟨image, picture, himage, hpicture, rfl⟩]
      exact (ih _).2 hrest

theorem exists_drawText (positive : 0 < settings.font.size)
    (ordinary : settings.font.size ≤ 2 ^ 31) (d : DialogueFrame) (canvas : Surface) :
    ∃ drawn, drawText settings d canvas = .ok drawn := by
  have hsmall : settings.font.size.natAbs < 2 ^ 53 := by omega
  obtain ⟨x, number, -⟩ := exists_ofInt?_of_small hsmall
  have hfit (boxHeight : Int) := Fit.exists_fit ⟨x, number⟩ settings.font.path d.text
    settings.textBox.width boxHeight
  rw [drawText]
  -- the distance below the name must stay folded here, so the steps are replaced one by one
  by_cases hspeaker : d.speaker = ""
  · obtain ⟨font, lines, hlines⟩ := hfit (settings.textBox.bottom - settings.textBox.y)
    rw [if_pos hspeaker, pure_bind]
    exact ⟨_, bind_of_ok hlines⟩
  · have hbelow : oneAndHalf (nameFont settings).lineHeight =
        .ok (3 * (nameFont settings).lineHeight / 2) := by
      apply oneAndHalf_of_small (lineHeight_nameFont positive)
      show 3 * (settings.font.size + settings.font.size / 5) < 2 ^ 53
      omega
    obtain ⟨font, lines, hlines⟩ := hfit
      (settings.textBox.bottom - (settings.textBox.y + 3 * (nameFont settings).lineHeight / 2))
    rw [nameFont] at hbelow hlines
    rw [if_neg hspeaker, bind_of_ok hbelow, pure_bind]
    exact ⟨_, bind_of_ok hlines⟩

/-- A line of dialogue can be drawn exactly if all of its sprites can. -/
theorem exists_portray_iff (positive : 0 < settings.font.size)
    (ordinary : settings.font.size ≤ 2 ^ 31) :
    (∃ canvas, portray settings offer d = .ok canvas) ↔ ∀ v ∈ d.sprites, Shows offer v := by
  rw [← exists_portraySprites_iff (backdrop settings d.backdrop.picture)]
  constructor
  · rintro ⟨canvas, h⟩
    obtain ⟨behind, hsprites, -⟩ := exists_of_bind h
    exact ⟨behind, hsprites⟩
  · rintro ⟨behind, hsprites⟩
    obtain ⟨⟨drawn, count⟩, htext⟩ := exists_drawText positive ordinary d behind
    refine ⟨drawn, ?_⟩
    rw [portray, bind_of_ok hsprites, bind_of_ok htext]
    rfl

/-- With a font of an ordinary size drawing succeeds exactly if every sprite has an image that can be
stretched as it is to be. -/
theorem exists_run_iff {s : Session} (positive : 0 < settings.font.size)
    (ordinary : settings.font.size ≤ 2 ^ 31) :
    (∃ canvas t, (drawDialogue settings d).run s = .ok canvas t) ↔
      ∀ v ∈ d.sprites, Shows s.offer v := by
  rw [← exists_portray_iff positive ordinary]
  constructor
  · rintro ⟨canvas, t, run⟩
    have hlooks := looks_drawDialogue settings d s
    rw [run] at hlooks
    exact ⟨canvas, hlooks.1⟩
  · rintro ⟨canvas, h⟩
    obtain ⟨t, run⟩ := exists_run_of_portray h
    exact ⟨canvas, t, run⟩

theorem exists_run_error_of_portray {s : Session} {e : Failure}
    (h : portray settings s.offer d = .error e) :
    ∃ t, (drawDialogue settings d).run s = .error e t := by
  have hlooks := looks_drawDialogue settings d s
  rw [h] at hlooks
  cases hrun : (drawDialogue settings d).run s with
  | ok canvas t =>
    rw [hrun] at hlooks
    cases hlooks.1
  | error e' t =>
    rw [hrun] at hlooks
    cases hlooks.1
    exact ⟨t, rfl⟩

end VisualNovel.Scene
