import Mathlib.Data.List.Forall2
import VisualNovel.Proofs.Frame.Encoding
import VisualNovel.Proofs.Stage.Attributes
import VisualNovel.Proofs.Stage.Bounded
import VisualNovel.Stage.Render

/-!
# The frames of a stage

The backdrop of a frame is what the stage has loaded for its path, so paths decide backdrops. Sprites
stand where scripts can show them, so a frame can be encoded unless its texts cannot: one that holds an
unpaired surrogate, or is beyond all measure.
-/
namespace VisualNovel

open VisualNovel.Number

namespace Fingerprint

/-- The texts and the number of sprites of a frame can be encoded. -/
structure TextsEncodable (d : DialogueFrame) : Prop where
  backdrop : ∀ path ∈ d.backdrop.id, textEncodable path = true
  count : fits d.sprites.length = true
  sprites : ∀ v ∈ d.sprites, textEncodable v.name = true ∧ textEncodable v.path = true
  speaker : textEncodable d.speaker = true
  text : textEncodable d.text = true

end Fingerprint

namespace Stage

variable {s t : Stage} {b b' : Backdrop} {d : DialogueFrame}

/-- The picture of a backdrop is the one that the stage has loaded for its path. -/
structure Backs (s : Stage) (b : Backdrop) : Prop where
  loaded : ∀ path ∈ b.id, ∃ image, b.picture = some image ∧ s.backdrops.lookup path = some image
  bare : b.id = none → b.picture = none

theorem Backs.of_grows (h : s.Backs b) (grows : Grows s t) : t.Backs b := by
  refine ⟨fun path hpath => ?_, h.bare⟩
  obtain ⟨image, hpicture, hlookup⟩ := h.loaded path hpath
  exact ⟨image, hpicture, grows path image hlookup⟩

theorem Backs.eq (h : s.Backs b) (h' : s.Backs b') (hid : b.id = b'.id) : b = b' := by
  have hpicture : b.picture = b'.picture := by
    cases hb : b.id with
    | none => rw [h.bare hb, h'.bare (hid.symm.trans hb)]
    | some path =>
      obtain ⟨image, hpicture, hlookup⟩ := h.loaded path hb
      obtain ⟨image', hpicture', hlookup'⟩ := h'.loaded path (hid.symm.trans hb)
      rw [hpicture, hpicture', ← hlookup, ← hlookup']
  cases b
  cases b'
  cases hid
  cases hpicture
  rfl

theorem frame_eq_of_bare {e : DialogueFrame} (hbackdrop : e.backdrop = d.backdrop)
    (hbare : e.bare = d.bare) : e = d := by
  obtain ⟨-, hsprites, hspeaker, htext, htextColor, hboxColor⟩ :=
    DialogueFrame.bare_eq_bare_iff.1 hbare
  cases e
  cases d
  cases hbackdrop
  cases hsprites
  cases hspeaker
  cases htext
  cases htextColor
  cases hboxColor
  rfl

/-- Frames on backdrops of a stage are told apart without their pictures. -/
theorem Backs.frame_eq {e : DialogueFrame} (he : s.Backs e.backdrop) (hd : s.Backs d.backdrop)
    (hbare : e.bare = d.bare) : e = d :=
  frame_eq_of_bare (he.eq hd (DialogueFrame.bare_eq_bare_iff.1 hbare).1) hbare

theorem Bounded.backs (h : s.Bounded) : s.Backs ⟨s.background, s.backdrop⟩ where
  loaded := by
    intro path hpath
    obtain ⟨image, himage⟩ := h.loaded path hpath
    refine ⟨image, ?_, himage⟩
    change s.background.bind _ = _
    rw [show s.background = some path from hpath]
    exact himage
  bare := by
    intro hid
    change s.background.bind _ = _
    rw [show s.background = none from hid]
    rfl

/-- A list that is made element by element stands beside the one that it is made from. -/
theorem forall₂_of_mapM {α β ε : Type} {f : α → Except ε β} {l : List α} {m : List β}
    (h : l.mapM f = .ok m) : List.Forall₂ (fun a b => f a = .ok b) l m := by
  induction l generalizing m with
  | nil =>
    cases h
    exact .nil
  | cons a rest ih =>
    rw [List.mapM_cons] at h
    obtain ⟨b, hb, hrest⟩ := exists_of_bind h
    obtain ⟨bs, hbs, hm⟩ := exists_of_bind hrest
    cases hm
    exact .cons hb (ih hbs)

theorem exists_of_viewSprite {sprite : Sprite} {v : SpriteView} (h : s.viewSprite sprite = .ok v) :
    ∃ scale, s.attributes.scaleOf sprite.name = .ok scale ∧
      v = ⟨sprite.name, sprite.path, sprite.x, sprite.y, scale⟩ := by
  obtain ⟨scale, hscale, hv⟩ := exists_of_bind h
  cases hv
  exact ⟨scale, hscale, rfl⟩

/-- What the frame of a line of dialogue takes from the stage. -/
structure Depicts (s : Stage) (d : DialogueFrame) : Prop where
  backdrop : d.backdrop = ⟨s.background, s.backdrop⟩
  sprites : List.Forall₂ (fun sprite v => s.viewSprite sprite = .ok v) s.cast d.sprites
  textColor : s.textColor d.speaker = .ok d.textColor
  boxColor : s.boxColor d.speaker = .ok d.boxColor

theorem depicts_of_frame (h : s.frame = .ok (some (.dialogue d))) : s.Depicts d := by
  rw [frame] at h
  split at h
  · obtain ⟨sprites, hsprites, hrest⟩ := exists_of_bind h
    obtain ⟨textColor, htext, hrest⟩ := exists_of_bind hrest
    obtain ⟨boxColor, hbox, hframe⟩ := exists_of_bind hrest
    cases hframe
    exact ⟨rfl, forall₂_of_mapM hsprites, htext, hbox⟩
  · cases h
  · cases h

theorem Depicts.exists_of_mem {v : SpriteView} (h : s.Depicts d) (hv : v ∈ d.sprites) :
    ∃ sprite ∈ s.cast, ∃ scale, v = ⟨sprite.name, sprite.path, sprite.x, sprite.y, scale⟩ := by
  obtain ⟨i, rfl⟩ := List.mem_iff_get.1 hv
  have hi : i < s.cast.length := by
    rw [h.sprites.length_eq]
    exact i.2
  obtain ⟨scale, -, hview⟩ := exists_of_viewSprite (h.sprites.get hi i.2)
  exact ⟨_, List.get_mem s.cast ⟨i, hi⟩, scale, hview⟩

/-- On an empty stage a line of dialogue has the colors of the settings. -/
theorem frame_of_empty {speaker : String} {lines : List String}
    (current : s.current = some (.dialogue speaker lines)) (cast : s.cast = [])
    (background : s.background = none) (attributes : s.attributes = .empty) :
    s.frame = .ok (some (.dialogue {
      speaker, text := Event.dialogueText lines, textColor := s.settings.textColor,
      boxColor := s.settings.boxColor })) := by
  have hcolor (name : String) : s.attributes.colorOf name = .ok none := by
    rw [AttributeTree.colorOf, AttributeTree.readAs, attributes, AttributeTree.valueOf?_empty]
  have htext : s.textColor speaker = .ok s.settings.textColor := by
    rw [textColor, hcolor]
    rfl
  have hbox : s.boxColor speaker = .ok s.settings.boxColor := by
    rw [boxColor, hcolor, hcolor]
    simp only [bind, Except.bind]
    split <;> rfl
  have hbackdrop : s.backdrop = none := by
    rw [backdrop, background]
    rfl
  rw [frame, current, cast, hbackdrop, background]
  simp only [List.mapM_nil, htext, hbox]
  rfl

theorem fits_of_le {i : Int} (h : 0 ≤ i) (h' : i ≤ ArgumentProblem.maxCoordinate) :
    Fingerprint.fits i = true := by
  simp only [ArgumentProblem.maxCoordinate] at h'
  simp only [Fingerprint.fits, Bool.and_eq_true, decide_eq_true_eq]
  omega

theorem Bounded.encodable (h : s.Bounded) (hd : s.frame = .ok (some (.dialogue d)))
    (texts : Fingerprint.TextsEncodable d) : Fingerprint.encodable d = true := by
  have hsprites : d.sprites.all Fingerprint.spriteEncodable = true := by
    rw [List.all_eq_true]
    intro v hv
    obtain ⟨hname, hpath⟩ := texts.sprites v hv
    obtain ⟨sprite, hsprite, scale, rfl⟩ := (depicts_of_frame hd).exists_of_mem hv
    obtain ⟨hx₀, hx₁, hy₀, hy₁⟩ := h.cast sprite hsprite
    rw [Fingerprint.spriteEncodable, hname, hpath, fits_of_le hx₀ hx₁, fits_of_le hy₀ hy₁]
    rfl
  have hbackdrop : d.backdrop.id.all Fingerprint.textEncodable = true := by
    rw [Option.all_eq_true]
    exact texts.backdrop
  rw [Fingerprint.encodable, hbackdrop, texts.count, hsprites, texts.speaker, texts.text]
  rfl

variable {r : Renderer} {out : String} {p q : Play} {c : RenderCache}

theorem run_renderCached_of_none (h : p.stage.cache = none) :
    (renderCached r out).run p =
      match p.stage.frame with
      | .error e => .error (.attribute e) p
      | .ok none => .ok false p
      | .ok (some f) =>
        match (r.render f out).run p.session with
        | .error e session => .error e { p with session }
        | .ok _ session => .ok true { p with session } := by
  rw [renderCached, EStateM.run_bind, Play.run_stage?]
  simp only [h]
  rw [render, EStateM.run_bind, frameNow, EStateM.run_bind, Play.run_stage?]
  simp only
  cases p.stage.frame with
  | error e => rfl
  | ok f =>
    cases f with
    | none => rfl
    | some f =>
      simp only [EStateM.run_pure, EStateM.run_bind, Play.run_lift]
      cases (r.render f out).run p.session <;> rfl

/-- With a cache the frame is rendered through it, and the stage has the cache that results. -/
theorem run_renderCached_of_some (h : p.stage.cache = some c) :
    (renderCached r out).run p =
      match p.stage.frame with
      | .error e => .error (.attribute e) p
      | .ok none => .ok false p
      | .ok (some f) =>
        match (c.render r f out).run p.session with
        | .error e session => .error e { p with session }
        | .ok x session => .ok true ⟨session, { p.stage with cache := some x.1 }⟩ := by
  rw [renderCached, EStateM.run_bind, Play.run_stage?]
  simp only [h]
  rw [EStateM.run_bind, frameNow, EStateM.run_bind, Play.run_stage?]
  simp only
  cases p.stage.frame with
  | error e => rfl
  | ok f =>
    cases f with
    | none => rfl
    | some f =>
      simp only [EStateM.run_pure, EStateM.run_bind, Play.run_lift]
      cases (c.render r f out).run p.session <;> rfl

/-- What rendering the current frame has done when it succeeds: there was nothing to be seen, or the
frame was rendered, either directly or through the cache. -/
inductive Renders (r : Renderer) (out : String) (p : Play) : Bool → Play → Prop where
  | nothing (frame : p.stage.frame = .ok none) : Renders r out p false p
  | directly {f : Frame} {session : Session} (frame : p.stage.frame = .ok (some f))
      (cache : p.stage.cache = none) (render : (r.render f out).run p.session = .ok () session) :
      Renders r out p true { p with session }
  | through {f : Frame} {c : RenderCache} {y : RenderCache × Bool} {session : Session}
      (frame : p.stage.frame = .ok (some f)) (cache : p.stage.cache = some c)
      (render : (c.render r f out).run p.session = .ok y session) :
      Renders r out p true ⟨session, { p.stage with cache := some y.1 }⟩

theorem renders_of_run {hit : Bool} (run : (renderCached r out).run p = .ok hit q) :
    Renders r out p hit q := by
  cases hcache : p.stage.cache with
  | none =>
    rw [run_renderCached_of_none hcache] at run
    split at run
    · cases run
    · rename_i hframe
      cases run
      exact .nothing hframe
    · rename_i f hframe
      split at run
      · cases run
      · rename_i session hrender
        cases run
        exact .directly hframe hcache hrender
  | some c =>
    rw [run_renderCached_of_some hcache] at run
    split at run
    · cases run
    · rename_i hframe
      cases run
      exact .nothing hframe
    · rename_i f hframe
      split at run
      · cases run
      · rename_i y session hrender
        cases run
        exact .through hframe hcache hrender

/-- Rendering changes nothing on the stage but a cache that is there. -/
theorem exists_cache_of_renderCached {hit : Bool} (run : (renderCached r out).run p = .ok hit q) :
    ∃ cache, q.stage = { p.stage with cache } ∧ (p.stage.cache = none → cache = none) := by
  cases renders_of_run run with
  | nothing | directly => exact ⟨p.stage.cache, rfl, id⟩
  | @through f c y session _ hcache =>
    refine ⟨some y.1, rfl, fun hnone => ?_⟩
    cases hnone.symm.trans hcache

theorem Moved.cache_eq (h : Moved s t) : t.cache = s.cache := by
  cases h <;> rfl

theorem Moved.settings_eq (h : Moved s t) : t.settings = s.settings := by
  cases h <;> rfl

theorem Stopped.current_eq (h : Stopped s t) : t.current = s.current := by
  cases h <;> rfl

end Stage

end VisualNovel
