import VisualNovel.Picture.Scene
import VisualNovel.Proofs.Session.Twins

/-!
# Drawing side by side and drawing again

A frame is drawn alike in two sessions side by side if the images that are read for it avoid the
reserved places. Once it has been drawn its images are in the store, so it is drawn again as it was
whatever has become of the files.
-/
namespace VisualNovel

open FileTree (Agree Avoids)

namespace Scene

variable {reserved : Location → Prop} {t u : FileTree} {store : ImageStore} {p q s s' : Session}
  {settings : Settings} {canvas canvas' : Surface} {d : DialogueFrame}

/-- The image of a sprite of a dialogue frame is read from a file when the frame is drawn in a
session. -/
inductive ReadsImage (settings : Settings) (d : DialogueFrame) (s : Session) : Path → Prop where
  | sprite {before after : List SpriteView} {v : SpriteView} {canvas : Surface} {s' : Session}
      (split : d.sprites = before ++ v :: after)
      (drawn : (before.foldlM drawSprite (backdrop settings d.backdrop.picture)).run s =
        .ok canvas s')
      (missing : s'.images.get? v.path = none) :
      ReadsImage settings d s (s'.images.resolve v.path)

theorem twins_drawSprite (h : Twins t u store p q) (agree : Agree reserved t u)
    (canvas : Surface) {v : SpriteView}
    (avoids : q.images.get? v.path = none →
      Avoids reserved u.home (q.images.resolve v.path).text) :
    Twins.Both t u store ((drawSprite canvas v).run p) ((drawSprite canvas v).run q) := by
  apply (h.loadImage agree avoids).bind
  rintro image _ p q ⟨rfl, h⟩
  apply (h.attempt _).bind
  rintro image _ p q ⟨rfl, h⟩
  exact h.pure _

theorem twins_drawSprites (h : Twins t u store p q) (agree : Agree reserved t u)
    (canvas : Surface) {sprites : List SpriteView}
    (avoids : ∀ before v after canvas' s, sprites = before ++ v :: after →
      (before.foldlM drawSprite canvas).run q = .ok canvas' s → s.images.get? v.path = none →
        Avoids reserved u.home (s.images.resolve v.path).text) :
    Twins.Both t u store ((sprites.foldlM drawSprite canvas).run p)
      ((sprites.foldlM drawSprite canvas).run q) := by
  induction sprites generalizing canvas p q with
  | nil => exact h.pure canvas
  | cons v rest ih =>
    rw [List.foldlM_cons]
    apply (twins_drawSprite h agree canvas (avoids [] v rest canvas q rfl rfl)).bind_of_run
    rintro canvas' _ p' q' - hq ⟨rfl, h'⟩
    apply ih h' canvas'
    intro before w after canvas'' s hsplit hrun
    apply avoids (v :: before) w after canvas'' s
    · rw [hsplit]
      rfl
    · rw [List.foldlM_cons, EStateM.run_bind, hq]
      exact hrun

theorem twins_drawFrame (h : Twins t u store p q) (agree : Agree reserved t u) {f : Frame}
    (avoids : ∀ d, f = .dialogue d → ∀ file, ReadsImage settings d q file →
      Avoids reserved u.home file.text) :
    Twins.Both t u store ((drawFrame settings f).run p) ((drawFrame settings f).run q) := by
  cases f with
  | choice g => exact h.attempt _
  | dialogue d =>
    have hsprites : Twins.Both t u store
        ((d.sprites.foldlM drawSprite (backdrop settings d.backdrop.picture)).run p)
        ((d.sprites.foldlM drawSprite (backdrop settings d.backdrop.picture)).run q) := by
      apply twins_drawSprites h agree
      intro before v after canvas' s hsplit hrun hmissing
      exact avoids d rfl _ (.sprite hsplit hrun hmissing)
    apply hsprites.bind
    rintro canvas _ p q ⟨rfl, h⟩
    apply (h.attempt _).bind
    rintro ⟨canvas, lines⟩ _ p q ⟨rfl, h⟩
    apply (h.note _ _ _).bind
    rintro _ _ p q ⟨-, h⟩
    exact h.pure canvas

/-- A load that succeeds loses no image and leaves its own in the store. -/
theorem within_loadImage {path : String} {image : Surface}
    (h : (Session.loadImage path).run s = .ok image s') :
    s.images.Within s'.images ∧ s'.images.get? path = some image := by
  cases hkept : s.images.get? path with
  | some found =>
    rw [Session.run_loadImage_of_kept hkept] at h
    cases h
    exact ⟨.refl _, hkept⟩
  | none =>
    cases hread : ImageStore.readImage s.files (s.images.resolve path) path with
    | error e =>
      rw [Session.run_loadImage_of_error hkept hread] at h
      cases h
    | ok found =>
      obtain ⟨journal, hrun⟩ := Session.run_loadImage_of_read hkept hread
      rw [hrun] at h
      cases h
      exact ⟨.add hkept image, by rw [ImageStore.get?_add, if_pos rfl]⟩

/-- A sprite that was drawn is drawn again where its image has been kept. -/
theorem drawSprite_again {v : SpriteView} (h : (drawSprite canvas v).run s = .ok canvas' s') :
    s.images.Within s'.images ∧
      ∀ r : Session, s'.images.Within r.images → (drawSprite canvas v).run r = .ok canvas' r := by
  obtain ⟨image, s₁, hload, hrest⟩ := exists_of_run_bind h
  obtain ⟨scaled, s₂, hscaled, hdrawn⟩ := exists_of_run_bind hrest
  obtain ⟨hscale, rfl⟩ := Session.eq_of_run_attempt hscaled
  cases hdrawn
  obtain ⟨hwithin, himage⟩ := within_loadImage hload
  refine ⟨hwithin, fun r hr => ?_⟩
  have hkept := hr v.path image himage
  simp only [drawSprite, EStateM.run_bind, Session.run_loadImage_of_kept hkept,
    Session.run_attempt, hscale]
  rfl

theorem drawSprites_again {sprites : List SpriteView}
    (h : (sprites.foldlM drawSprite canvas).run s = .ok canvas' s') :
    s.images.Within s'.images ∧ ∀ r : Session, s'.images.Within r.images →
      (sprites.foldlM drawSprite canvas).run r = .ok canvas' r := by
  induction sprites generalizing canvas s with
  | nil =>
    cases h
    exact ⟨.refl _, fun _ _ => rfl⟩
  | cons v rest ih =>
    rw [List.foldlM_cons] at h
    obtain ⟨canvas₁, s₁, hdraw, hrun⟩ := exists_of_run_bind h
    obtain ⟨hfirst, hagain⟩ := drawSprite_again hdraw
    obtain ⟨hrest, hrestAgain⟩ := ih hrun
    refine ⟨hfirst.trans hrest, fun r hr => ?_⟩
    rw [List.foldlM_cons, EStateM.run_bind, hagain r (hrest.trans hr)]
    exact hrestAgain r hr

/-- A line of dialogue that was drawn is drawn again where its images have been kept. -/
theorem drawDialogue_again (h : (drawDialogue settings d).run s = .ok canvas s') :
    s.images.Within s'.images ∧ ∀ r : Session, s'.images.Within r.images →
      ∃ journal, (drawDialogue settings d).run r = .ok canvas { r with journal } := by
  obtain ⟨canvas₁, s₁, hsprites, hrest⟩ := exists_of_run_bind h
  obtain ⟨drawing, s₂, hdrawing, hdrawn⟩ := exists_of_run_bind hrest
  obtain ⟨htext, rfl⟩ := Session.eq_of_run_attempt hdrawing
  cases hdrawn
  obtain ⟨hwithin, hagain⟩ := drawSprites_again hsprites
  refine ⟨hwithin, fun r hr => ?_⟩
  simp only [drawDialogue, EStateM.run_bind, hagain r hr, Session.run_attempt, htext,
    Session.run_note]
  exact ⟨_, rfl⟩

end Scene

end VisualNovel
