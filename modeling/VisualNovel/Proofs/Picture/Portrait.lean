import VisualNovel.Picture.Scene
import VisualNovel.Proofs.Picture.Load

/-!
# What a picture is made of

The picture of a line of dialogue is a function of the frame, of the images that are to be had and of
the layout. Drawing comes to this picture and changes nothing but the journal and the store of images,
so that afterwards the same images are to be had.
-/
namespace VisualNovel

/-- The images that are to be had, by their path texts. -/
abbrev Offer := String → Except Failure Surface

/-- Every image of the first offer is in the second. -/
def Offer.Within (offer offer' : Offer) : Prop :=
  ∀ path image, offer path = .ok image → offer' path = .ok image

/-- The content is a picture that was painted on a canvas. -/
def Content.Painted (c : Content) : Prop :=
  ∃ picture width height, c = .drawing picture ∧ picture.ground = .canvas width height

namespace Session

variable {α β : Type} {s t u : Session}

def offer (s : Session) : Offer :=
  s.images.find s.files

/-- The second session comes from the first one by loading images. -/
structure Loads (s t : Session) : Prop where
  same : t = { s with journal := t.journal, images := t.images }
  offer_eq : t.offer = s.offer

theorem Loads.refl (s : Session) : Loads s s :=
  ⟨rfl, rfl⟩

theorem Loads.trans (h : Loads s t) (k : Loads t u) : Loads s u where
  same := by
    rw [k.same, h.same]
  offer_eq := k.offer_eq.trans h.offer_eq

/-- How an operation ends that comes to an outcome and loads images at most. -/
def Looks (s : Session) (outcome : Except Failure α) : EStateM.Result Failure Session α → Prop
  | .ok x t => outcome = .ok x ∧ Loads s t
  | .error e t => outcome = .error e ∧ Loads s t

namespace Looks

variable {a : Action α} {f : α → Action β} {outcome : Except Failure α}
  {next : α → Except Failure β}

theorem bind (h : Looks s outcome (a.run s))
    (hf : ∀ x t, Loads s t → Looks t (next x) ((f x).run t)) :
    Looks s (outcome >>= next) ((a >>= f).run s) := by
  rw [EStateM.run_bind]
  cases ha : a.run s with
  | error e t =>
    rw [ha] at h
    obtain ⟨rfl, hloads⟩ := h
    exact ⟨rfl, hloads⟩
  | ok x t =>
    rw [ha] at h
    obtain ⟨rfl, hloads⟩ := h
    have hnext := hf x t hloads
    change Looks s (next x) ((f x).run t)
    cases hfx : (f x).run t with
    | error e u =>
      rw [hfx] at hnext
      exact ⟨hnext.1, hloads.trans hnext.2⟩
    | ok y u =>
      rw [hfx] at hnext
      exact ⟨hnext.1, hloads.trans hnext.2⟩

theorem exists_of_ok {x : α} {r : EStateM.Result Failure Session α} (h : Looks s (.ok x) r) :
    ∃ t, r = .ok x t ∧ s.Loads t := by
  cases r with
  | ok y t =>
    obtain ⟨hy, hloads⟩ := h
    cases hy
    exact ⟨t, rfl, hloads⟩
  | error e t => cases h.1

theorem pure (s : Session) (x : α) : Looks s (.ok x) ((Pure.pure x : Action α).run s) :=
  ⟨rfl, .refl s⟩

theorem attempt (s : Session) (outcome : Except Failure α) :
    Looks s outcome ((Session.attempt outcome).run s) := by
  cases outcome with
  | ok x => exact pure s x
  | error e => exact ⟨rfl, .refl s⟩

theorem note (s : Session) (module : String) (level : Journal.Level) (message : String) :
    Looks s (.ok ()) ((Session.note module level message).run s) :=
  ⟨rfl, rfl, rfl⟩

theorem loadImage (s : Session) (path : String) :
    Looks s (s.offer path) ((Session.loadImage path).run s) := by
  obtain ⟨image, journal, images, hfind, -, hrun⟩ | ⟨e, hfind, hrun⟩ := loadImage_cases path s
  · have hoffer := funext (find_loadImage hrun)
    rw [hrun]
    exact ⟨hfind, rfl, hoffer⟩
  · rw [hrun]
    exact ⟨hfind, .refl s⟩

end Looks

end Session

namespace Scene

open Session (Looks)

variable {settings settings' : Settings} {offer offer' : Offer} {canvas canvas' : Surface}
  {d : DialogueFrame}

/-- A sprite drawn with the image that is offered for it. -/
def portraySprite (offer : Offer) (canvas : Surface) (v : SpriteView) : Except Failure Surface := do
  let image ← offer v.path
  let image ← scaleImage image v.scale
  return canvas.blitCentred image v.x v.y

def portray (settings : Settings) (offer : Offer) (d : DialogueFrame) : Except Failure Surface := do
  let canvas ← d.sprites.foldlM (portraySprite offer) (backdrop settings d.backdrop.picture)
  let (canvas, _) ← drawText settings d canvas
  return canvas

theorem portray_congr (screen : settings.screen = settings'.screen)
    (box : settings.textBox = settings'.textBox) (font : settings.font = settings'.font) :
    portray settings offer d = portray settings' offer d := by
  simp only [portray, backdrop, drawText, screen, box, font]

theorem portraySprites_of_within (within : offer.Within offer') {sprites : List SpriteView}
    (h : sprites.foldlM (portraySprite offer) canvas = .ok canvas') :
    sprites.foldlM (portraySprite offer') canvas = .ok canvas' := by
  induction sprites generalizing canvas with
  | nil => exact h
  | cons v rest ih =>
    rw [List.foldlM_cons] at h ⊢
    obtain ⟨drawn, hdrawn, hrest⟩ := exists_of_bind h
    obtain ⟨image, himage, hblit⟩ := exists_of_bind hdrawn
    have hsprite : portraySprite offer' canvas v = .ok drawn := by
      rw [portraySprite, within v.path image himage]
      exact hblit
    rw [hsprite]
    exact ih hrest

theorem portray_of_within (within : offer.Within offer') (h : portray settings offer d = .ok canvas) :
    portray settings offer' d = .ok canvas := by
  obtain ⟨behind, hsprites, hrest⟩ := exists_of_bind h
  rw [portray, portraySprites_of_within within hsprites]
  exact hrest

theorem looks_drawSprite (s : Session) (canvas : Surface) (v : SpriteView) :
    Looks s (portraySprite s.offer canvas v) ((drawSprite canvas v).run s) := by
  apply (Looks.loadImage s v.path).bind
  intro image t _
  apply (Looks.attempt t _).bind
  intro scaled t _
  exact .pure t _

theorem looks_drawSprites (s : Session) (canvas : Surface) (sprites : List SpriteView) :
    Looks s (sprites.foldlM (portraySprite s.offer) canvas)
      ((sprites.foldlM drawSprite canvas).run s) := by
  induction sprites generalizing canvas s with
  | nil => exact .pure s canvas
  | cons v rest ih =>
    rw [List.foldlM_cons, List.foldlM_cons]
    apply (looks_drawSprite s canvas v).bind
    intro canvas t hloads
    rw [← hloads.offer_eq]
    exact ih t canvas

/-- A line of dialogue is drawn as it is portrayed. -/
theorem looks_drawDialogue (settings : Settings) (d : DialogueFrame) (s : Session) :
    Looks s (portray settings s.offer d) ((drawDialogue settings d).run s) := by
  apply (looks_drawSprites s _ d.sprites).bind
  intro canvas t _
  apply (Looks.attempt t _).bind
  rintro ⟨canvas, lines⟩ t _
  exact (Looks.note t _ _ _).bind fun _ t _ => .pure t canvas

def portrayFrame (settings : Settings) (offer : Offer) : Frame → Except Failure Surface
  | .dialogue d => portray settings offer d
  | .choice g => drawChoice settings g

theorem portrayFrame_of_within {f : Frame} (within : offer.Within offer')
    (h : portrayFrame settings offer f = .ok canvas) : portrayFrame settings offer' f = .ok canvas := by
  cases f with
  | dialogue d => exact portray_of_within within h
  | choice g => exact h

theorem looks_drawFrame (settings : Settings) (f : Frame) (s : Session) :
    Looks s (portrayFrame settings s.offer f) ((drawFrame settings f).run s) := by
  cases f with
  | dialogue d => exact looks_drawDialogue settings d s
  | choice g => exact .attempt s _

theorem ground_drawLines (font : Font) (color : Color) (x : Int) (canvas : Surface) (y : Int)
    (lines : List String) : (drawLines font color x canvas y lines).ground = canvas.ground := by
  induction lines generalizing canvas y with
  | nil => rfl
  | cons line rest ih => exact ih _ _

theorem ground_drawText {lines : Nat} (h : drawText settings d canvas = .ok (canvas', lines)) :
    canvas'.ground = canvas.ground := by
  rw [drawText] at h
  by_cases hspeaker : d.speaker = ""
  · rw [if_pos hspeaker] at h
    obtain ⟨⟨named, y⟩, hnamed, hrest⟩ := exists_of_bind h
    obtain ⟨⟨font, rows⟩, -, hdrawn⟩ := exists_of_bind hrest
    obtain ⟨rfl, -⟩ := Prod.mk.inj (Except.ok.inj hnamed)
    obtain ⟨hcanvas, -⟩ := Prod.mk.inj (Except.ok.inj hdrawn)
    rw [← hcanvas, ground_drawLines]
    rfl
  · rw [if_neg hspeaker] at h
    obtain ⟨below, -, hafter⟩ := exists_of_bind h
    obtain ⟨⟨named, y⟩, hnamed, hrest⟩ := exists_of_bind hafter
    obtain ⟨⟨font, rows⟩, -, hdrawn⟩ := exists_of_bind hrest
    obtain ⟨rfl, -⟩ := Prod.mk.inj (Except.ok.inj hnamed)
    obtain ⟨hcanvas, -⟩ := Prod.mk.inj (Except.ok.inj hdrawn)
    rw [← hcanvas, ground_drawLines]
    rfl

theorem ground_portraySprites {sprites : List SpriteView}
    (h : sprites.foldlM (portraySprite offer) canvas = .ok canvas') :
    canvas'.ground = canvas.ground := by
  induction sprites generalizing canvas with
  | nil =>
    cases h
    rfl
  | cons v rest ih =>
    rw [List.foldlM_cons] at h
    obtain ⟨drawn, hdrawn, hrest⟩ := exists_of_bind h
    obtain ⟨image, -, hscaled⟩ := exists_of_bind hdrawn
    obtain ⟨scaled, -, hblit⟩ := exists_of_bind hscaled
    rw [ih hrest, ← Except.ok.inj hblit]
    rfl

theorem ground_backdrop (settings : Settings) (picture : Option Surface) :
    (backdrop settings picture).ground = .canvas settings.screen.width settings.screen.height := by
  cases picture <;> rfl

theorem painted_portray (h : portray settings offer d = .ok canvas) :
    (Content.drawing canvas).Painted := by
  obtain ⟨behind, hsprites, hrest⟩ := exists_of_bind h
  obtain ⟨⟨drawn, lines⟩, htext, hcanvas⟩ := exists_of_bind hrest
  refine ⟨canvas, settings.screen.width, settings.screen.height, rfl, ?_⟩
  rw [← Except.ok.inj hcanvas, ground_drawText htext, ground_portraySprites hsprites,
    ground_backdrop]

theorem painted_portrayFrame {f : Frame} (h : portrayFrame settings offer f = .ok canvas) :
    (Content.drawing canvas).Painted := by
  cases f with
  | dialogue d => exact painted_portray h
  | choice g =>
    obtain ⟨barHeight, -, hcanvas⟩ := exists_of_bind h
    refine ⟨canvas, settings.screen.width, settings.screen.height, rfl, ?_⟩
    rw [← Except.ok.inj hcanvas]
    exact ground_backdrop settings g.backdrop.picture

end Scene

/-- The account of a picture that was painted on a canvas begins with the word for it. -/
theorem Surface.head?_account {s : Surface} {width height : Int}
    (ground : s.ground = .canvas width height) : s.account.toList.head? = some 'c' := by
  induction s with
  | image name w h => cases ground
  | canvas w h =>
    rw [account, String.toList_append]
    rfl
  | fill base color ih =>
    rw [account, String.toList_append, String.toList_append, List.append_assoc, List.head?_append,
      ih ground]
    rfl
  | blit base source x y ih =>
    simp only [account, String.toList_append, List.append_assoc]
    rw [List.head?_append, ih ground]
    rfl
  | scaled source w h => cases ground
  | text line font pixels color w h => cases ground

theorem ImageStore.not_painted_of_readImage {files : FileTree} {file : Path} {path : String}
    {image : Surface} (h : readImage files file path = .ok image) :
    ∃ c, files.read file.text = .ok c ∧ ¬c.Painted := by
  obtain ⟨c, hread, hdecoded⟩ := readImage_eq_ok_iff.1 h
  refine ⟨c, hread, ?_⟩
  rintro ⟨picture, width, height, rfl, -⟩
  cases hdecoded

end VisualNovel
