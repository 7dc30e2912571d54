import VisualNovel.Proofs.Picture.Drawable
import VisualNovel.Proofs.Stage.Failure
import VisualNovel.Proofs.Stage.Render

/-!
# Frames that can be drawn

The scale of a sprite is read when the frame is built, and every text that is a number is taken: also
one that says infinity or no number, and one so great that a side of the image grows beyond every
number. A frame is built for these, but it cannot be drawn. Every other frame can.
-/
namespace VisualNovel

open VisualNovel.Number

/-- What is said about the elements of one list and about those beside them in the other one. -/
theorem forall_mem_iff_of_forall₂ {α β : Type} {R : α → β → Prop} {P : α → Prop} {Q : β → Prop}
    {l : List α} {m : List β} (h : List.Forall₂ R l m) (hiff : ∀ a b, R a b → (P a ↔ Q b)) :
    (∀ a ∈ l, P a) ↔ ∀ b ∈ m, Q b := by
  induction h with
  | nil => simp
  | cons hab rest ih => rw [List.forall_mem_cons, List.forall_mem_cons, hiff _ _ hab, ih]

namespace Stage

open Scene (Shows Stretches)

variable {s : Stage} {d : DialogueFrame} {session : Session} {sprite : Sprite}
  {v : SpriteView}

/-- The sprite of a frame is drawn exactly if its image can be stretched by the scale that it has on
stage, if it has one. -/
theorem shows_iff {image : Surface} (hv : s.viewSprite sprite = .ok v)
    (himage : session.Gives sprite.path image) :
    Shows session.offer v ↔ ∀ scale, s.attributes.scaleOf sprite.name = .ok (some scale) →
      Stretches scale image.width ∧ Stretches scale image.height := by
  obtain ⟨scale, hscale, rfl⟩ := exists_of_viewSprite hv
  have hoffer : session.offer sprite.path = .ok image := Session.gives_iff.1 himage
  rw [hscale]
  cases scale with
  | none => exact iff_of_true ⟨image, image, hoffer, by rw [Scene.scaleImage]⟩ (by simp)
  | some scale =>
    have hshows : Shows session.offer ⟨sprite.name, sprite.path, sprite.x, sprite.y, some scale⟩ ↔
        ∃ picture, Scene.scaleImage image (some scale) = .ok picture := by
      simp only [Shows, hoffer, Except.ok.injEq, exists_and_left, exists_eq_left']
    rw [hshows, Scene.exists_scaleImage_iff]
    simp

/-- A frame whose images are to be had is drawn exactly if every sprite on stage that has a scale can
be stretched by it; it is at least one pixel wide and high then. -/
theorem frame_drawn_iff (settings : Settings) (hd : s.frame = .ok (some (.dialogue d)))
    (positive : 0 < settings.font.size) (ordinary : settings.font.size ≤ 2 ^ 31)
    (images : ∀ sprite ∈ s.cast, ∃ image, session.Gives sprite.path image) :
    ((∃ canvas t, (Scene.drawDialogue settings d).run session = .ok canvas t) ↔
      ∀ sprite ∈ s.cast, ∀ image scale, session.Gives sprite.path image →
        s.attributes.scaleOf sprite.name = .ok (some scale) →
          Stretches scale image.width ∧ Stretches scale image.height) ∧
      ∀ image scale picture, Scene.scaleImage image (some scale) = .ok picture →
        1 ≤ picture.width ∧ 1 ≤ picture.height := by
  refine ⟨?_, fun _ _ _ => Scene.one_le_of_scaleImage⟩
  rw [Scene.exists_run_iff positive ordinary]
  have hsprites := (List.forall₂_and_left _ _).2 ⟨images, (depicts_of_frame hd).sprites⟩
  refine (forall_mem_iff_of_forall₂ hsprites ?_).symm
  rintro sprite v ⟨⟨image, himage⟩, hv⟩
  rw [shows_iff hv himage]
  constructor
  · intro h scale hscale
    exact h image scale himage hscale
  · intro h other scale hother hscale
    rw [hother.eq himage]
    exact h scale hscale

/-- A negative scale leaves one pixel. -/
theorem frame_drawn_iff_negative_scale :
    ∃ event₁ event₂ p₁ p₂ d canvas t,
      (advance false).run ⟨{ files := { entries := [(["p.png"], .file (Content.ofText "IMG 4 2"))] } },
        opening {} ⟨"s.txt", [.directive (.attribute "sprite.a" "scale" "-0.5"),
          .directive (.show "a" ⟨"p.png", 9, 9⟩), .dialogue "A" ["hi"]]⟩⟩ = .ok event₁ p₁ ∧
      (advance false).run p₁ = .ok event₂ p₂ ∧
      p₂.stage.frame = .ok (some (.dialogue d)) ∧
      (Scene.drawDialogue {} d).run p₂.session = .ok canvas t ∧
      Scene.scaleImage (.image "p.png" 4 2) (some (.ofRatio true 1 2)) =
        .ok (.scaled (.image "p.png" 4 2) 1 1) := by
  let d : DialogueFrame :=
    { sprites := [⟨"a", "p.png", 9, 9, some (.ofRatio true 1 2)⟩], speaker := "A", text := "hi" }
  obtain ⟨event₁, event₂, p₁, p₂, hfirst, hsecond, hframe, hcast, himage, hscale⟩ :
      ∃ event₁ event₂ p₁ p₂,
        (advance false).run ⟨{ files :=
            { entries := [(["p.png"], .file (Content.ofText "IMG 4 2"))] } },
          opening {} ⟨"s.txt", [.directive (.attribute "sprite.a" "scale" "-0.5"),
            .directive (.show "a" ⟨"p.png", 9, 9⟩), .dialogue "A" ["hi"]]⟩⟩ = .ok event₁ p₁ ∧
        (advance false).run p₁ = .ok event₂ p₂ ∧
        p₂.stage.frame = .ok (some (.dialogue d)) ∧
        p₂.stage.cast = [⟨"a", "p.png", 9, 9⟩] ∧
        p₂.session.offer "p.png" = .ok (.image "p.png" 4 2) ∧
        p₂.stage.attributes.scaleOf "a" = .ok (some (.ofRatio true 1 2)) :=
    ⟨_, _, _, _, rfl, rfl, by decide +kernel, by decide +kernel, by decide +kernel,
      by decide +kernel⟩
  have hgives : p₂.session.Gives "p.png" (.image "p.png" 4 2) := Session.gives_iff.2 himage
  have hscaled : Scene.scaleImage (.image "p.png" 4 2) (some (.ofRatio true 1 2)) =
      .ok (.scaled (.image "p.png" 4 2) 1 1) := by
    decide +kernel
  have images : ∀ sprite ∈ p₂.stage.cast, ∃ image, p₂.session.Gives sprite.path image := by
    rw [hcast, List.forall_mem_singleton]
    exact ⟨_, hgives⟩
  obtain ⟨canvas, t, hrun⟩ :=
    (frame_drawn_iff {} hframe (by decide) (by decide) images).1.2 (by
      rw [hcast, List.forall_mem_singleton]
      intro image scale himage' hscale'
      rw [himage'.eq hgives,
        ← Option.some.inj (Except.ok.inj (hscale.symm.trans hscale'))]
      exact Scene.exists_scaleImage_iff.1 ⟨_, hscaled⟩)
  exact ⟨event₁, event₂, p₁, p₂, d, canvas, t, hfirst, hsecond, hframe, hrun, hscaled⟩

/-- A scale that is no number is taken when the frame is built, and then its image is there and cannot
be drawn. -/
theorem exists_frame_not_drawn :
    ∃ script event₁ event₂ p₁ p₂ d,
      Script.parse ("@attr(sprite.a.scale, nan)\n" ++ "@sprite(a, p.png, 0, 0, show)\n" ++
        "[A]\nhi\n") "s.txt" = .ok script ∧
      (advance false).run ⟨{ files := { entries := [(["p.png"], .file (Content.ofText "IMG 2 2"))] } },
        opening {} script⟩ = .ok event₁ p₁ ∧
      (advance false).run p₁ = .ok event₂ p₂ ∧
      p₂.stage.frame = .ok (some (.dialogue d)) ∧
      p₂.session.Gives "p.png" (.image "p.png" 2 2) ∧
      ∃ t, (Scene.drawDialogue {} d).run p₂.session = .error (.noInteger .notANumber) t :=
  ⟨⟨"s.txt", [.directive (.attribute "sprite.a" "scale" "nan"),
      .directive (.show "a" ⟨"p.png", 0, 0⟩), .dialogue "A" ["hi"]]⟩, _, _, _, _,
    { sprites := [⟨"a", "p.png", 0, 0, some (.nan false)⟩], speaker := "A", text := "hi" },
    rfl, rfl, rfl, by decide +kernel, Session.gives_iff.2 (by decide +kernel),
    Scene.exists_run_error_of_portray (by decide +kernel)⟩

end Stage

end VisualNovel
