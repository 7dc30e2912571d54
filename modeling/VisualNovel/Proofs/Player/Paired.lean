import VisualNovel.Proofs.Cache.Mirror
import VisualNovel.Proofs.Picture.Draw
import VisualNovel.Proofs.Player.Course
import VisualNovel.Proofs.Player.Gallery
import VisualNovel.Proofs.Stage.Beside
import VisualNovel.Proofs.Stage.Render

/-!
# Turns with and without a cache

Two plays, the first with a cache and the second without. They take a turn alike wherever what the
second one reads avoids the reserved places.
-/
namespace VisualNovel.Play

open FileTree (Agree Avoids)
open RenderCache (HasRoom Mirrors place)

variable {settings : Settings} {home : Location} {directory : Path} {reserved : Location → Prop}
  {shown : DialogueFrame → Prop} {out : Path} {choose : Option Bool} {drawn : Nat} {p q : Play}
  {event : Event}

/-- Two plays that have stopped at the same event, on trees that agree where nothing is reserved. -/
structure Stopped (home : Location) (reserved : Location → Prop) (p q : Play) : Prop where
  current : p.stage.current = q.stage.current
  matched : Matched home reserved p.session q.session

/-- Two plays whose stages are the same but for the cache of the first, which keeps frames that the
second one has shown. -/
structure Paired (settings : Settings) (home : Location) (directory : Path)
    (reserved : Location → Prop) (shown : DialogueFrame → Prop) (p q : Play) : Prop where
  cached : ∃ c, p.stage = { q.stage with cache := some c } ∧
    Mirrors (.scene settings) home directory reserved
      (fun e => shown e ∧ q.stage.Backs e.backdrop) c p.session q.session
  plain : q.stage.cache = none
  bounded : q.stage.Bounded

/-- The frames of a play can be kept apart and stored. -/
structure Storable (directory : Path) (shown : DialogueFrame → Prop) : Prop where
  distinct : ∀ d e, shown d → shown e → ∀ n, d.fingerprint? = some n → e.fingerprint? = some n →
    Fingerprint.encode d = Fingerprint.encode e
  encodable : ∀ d, shown d → Fingerprint.TextsEncodable d
  room : ∀ d, shown d → ∀ n, d.fingerprint? = some n → HasRoom directory n

theorem Paired.current_eq (h : Paired settings home directory reserved shown p q) :
    p.stage.current = q.stage.current := by
  obtain ⟨c, hstage, -⟩ := h.cached
  rw [hstage]
  rfl

theorem Paired.frame_eq (h : Paired settings home directory reserved shown p q) :
    p.stage.frame = q.stage.frame := by
  obtain ⟨c, hstage, -⟩ := h.cached
  rw [hstage]
  rfl

theorem Paired.matched (h : Paired settings home directory reserved shown p q) :
    Matched home reserved p.session q.session := by
  obtain ⟨c, -, hmirrors⟩ := h.cached
  exact hmirrors.matched

theorem Paired.stopped (h : Paired settings home directory reserved shown p q) :
    Stopped home reserved p q :=
  ⟨h.current_eq, h.matched⟩

/-- A drawing that was made is made again from the images that it left in the store. -/
theorem redrawn_scene {d : DialogueFrame} {content : Content} {s s' : Session}
    (h : ((Renderer.scene settings).draw (.dialogue d)).run s = .ok content s') :
    RenderCache.Redrawn (.scene settings) s'.images d content := by
  change (Scene.drawDialogue settings d >>= fun canvas => pure (.drawing canvas) :
    Action Content).run s = _ at h
  obtain ⟨canvas, s₁, hdraw, hcontent⟩ := exists_of_run_bind h
  cases hcontent
  intro t ht
  obtain ⟨journal, hagain⟩ := (Scene.drawDialogue_again hdraw).2 t ht
  refine ⟨journal, ?_⟩
  change (Scene.drawDialogue settings d >>= fun canvas => pure (.drawing canvas) :
    Action Content).run t = _
  rw [EStateM.run_bind, hagain]
  rfl

theorem twins_draw {t u : FileTree} {images : ImageStore} {s s' : Session} {f : Frame}
    (h : Twins t u images s s') (agree : Agree reserved t u)
    (avoids : ∀ d, f = .dialogue d → ∀ file, Scene.ReadsImage settings d s' file →
      Avoids reserved u.home file.text) :
    Twins.Both t u images (((Renderer.scene settings).draw f).run s)
      (((Renderer.scene settings).draw f).run s') := by
  apply (Scene.twins_drawFrame h agree avoids).bind
  rintro canvas _ s s' ⟨rfl, h⟩
  exact h.pure _

section

variable (proper : directory.Proper)
  (below : ∀ l, place home directory <+: l → l ≠ place home directory → reserved l)
  (storable : Storable directory shown) {file : String}
  (hslash : FileTree.endsInSlash file = false) (avoids : Avoids reserved home file)
  (hshown : ∀ d, q.stage.frame = .ok (some (.dialogue d)) → shown d)
  (images : ∀ d, q.stage.frame = .ok (some (.dialogue d)) → ∀ image,
    Scene.ReadsImage settings d q.session image → Avoids reserved home image.text)

include proper below storable hslash avoids hshown images

/-- The current frame is rendered alike by the cache in one session and directly in the other. -/
theorem Paired.alike_render (h : Paired settings home directory reserved shown p q) {c : RenderCache}
    (hmirrors : Mirrors (.scene settings) home directory reserved
      (fun e => shown e ∧ q.stage.Backs e.backdrop) c p.session q.session) {f : Frame}
    (hframe : q.stage.frame = .ok (some f)) :
    Alike (Matched home reserved)
      (fun x _ s s' => Mirrors (.scene settings) home directory reserved
        (fun e => shown e ∧ q.stage.Backs e.backdrop) x.1 s s')
      ((c.render (.scene settings) f file).run p.session)
      (((Renderer.scene settings).render f file).run q.session) := by
  have hmatched := hmirrors.matched
  have hhome : q.session.files.home = home := hmatched.agree.home.trans hmirrors.home_eq
  cases f with
  | choice g =>
    apply hmirrors.render_choice proper below avoids
    apply twins_draw hmatched.twins hmatched.agree
    intro d hd
    cases hd
  | dialogue d =>
    have hd := hshown d hframe
    have hbacks : q.stage.Backs d.backdrop := by
      rw [(Stage.depicts_of_frame hframe).backdrop]
      exact h.bounded.backs
    obtain ⟨n, hn⟩ : ∃ n, d.fingerprint? = some n := by
      rw [DialogueFrame.fingerprint?_eq, if_pos (h.bounded.encodable hframe (storable.encodable d hd))]
      simp
    have hsame : ∀ e, (shown e ∧ q.stage.Backs e.backdrop) → e.fingerprint? = some n → e = d := by
      rintro e ⟨he, hebacks⟩ hen
      have hbare := Fingerprint.bare_eq_of_encode_eq (RenderCache.encodable_of_fingerprint? hen)
        (RenderCache.encodable_of_fingerprint? hn) (storable.distinct e d he hd n hen hn)
      exact hebacks.frame_eq hbacks hbare
    have halike := hmirrors.render_dialogue proper below avoids hslash hn (storable.room d hd n hn)
      hsame (fun p' htwins => twins_draw htwins hmatched.agree ?_) (fun _ _ => redrawn_scene)
    · apply halike.imp (fun _ _ hstopped => hstopped)
      intro x _ s s' hkept
      apply hkept.imp
      rintro e (he | rfl)
      · exact he
      · exact ⟨hd, hbacks⟩
    · rintro e he image hread
      cases he
      rw [hhome]
      exact images d hframe image hread

theorem Paired.renderCached (h : Paired settings home directory reserved shown p q) :
    Alike (Stopped home reserved)
      (fun x y p' q' => x = y ∧ Paired settings home directory reserved shown p' q')
      ((Stage.renderCached (.scene settings) file).run p)
      ((Stage.renderCached (.scene settings) file).run q) := by
  obtain ⟨c, hstage, hmirrors⟩ := h.cached
  have hcache : p.stage.cache = some c := by rw [hstage]
  rw [Stage.run_renderCached_of_some hcache, Stage.run_renderCached_of_none h.plain, h.frame_eq]
  cases hframe : q.stage.frame with
  | error e => exact ⟨rfl, h.stopped⟩
  | ok f =>
    cases f with
    | none => exact ⟨rfl, h⟩
    | some f =>
      have halike := h.alike_render proper below storable hslash avoids hshown images hmirrors hframe
      obtain ⟨x, s, _, s', hp, hq, hkept⟩ | ⟨e, s, s', hp, hq, hmatched⟩ := halike.cases
      · simp only [hp, hq]
        refine ⟨rfl, ⟨x.1, ?_, hkept⟩, h.plain, h.bounded⟩
        rw [hstage]
      · simp only [hp, hq]
        exact ⟨rfl, h.current_eq, hmatched⟩

end

theorem Paired.of_beside (h : Paired settings home directory reserved shown p q) {c : RenderCache}
    (hmirrors : Mirrors (.scene settings) home directory reserved
      (fun e => shown e ∧ q.stage.Backs e.backdrop) c p.session q.session) {p' q' : Play}
    (beside : Stage.Beside (some c) p.session.files q.session.files q.session.images p' q')
    (plain : q'.stage.cache = none) (bounded : q'.stage.Bounded)
    (grows : Stage.Grows q.stage q'.stage) :
    Paired settings home directory reserved shown p' q' := by
  refine ⟨⟨c, beside.stage, beside.session.matched h.matched, ?_⟩, plain, bounded⟩
  obtain ⟨picture, stored, hstock⟩ := hmirrors.stock
  refine ⟨picture, stored, ?_⟩
  rw [beside.session.left]
  have hwithin : q.session.images.Within q'.session.images := by
    rw [← beside.session.images]
    exact beside.session.kept
  apply (hstock.within hwithin).imp
  rintro e ⟨he, hbacks⟩
  exact ⟨he, hbacks.of_grows grows⟩

theorem Paired.of_twins {p' q' : Play} (h : Paired settings home directory reserved shown p q)
    (twins : Twins p.session.files q.session.files q.session.images p'.session q'.session)
    (left : p'.stage = p.stage) (right : q'.stage = q.stage) :
    Paired settings home directory reserved shown p' q' := by
  obtain ⟨c, hstage, hmirrors⟩ := h.cached
  have hstages : p'.stage = { q'.stage with cache := some c } := by rw [left, right, hstage]
  refine h.of_beside hmirrors ⟨twins, hstages⟩ ?_ ?_ ?_
  · rw [right]
    exact h.plain
  · rw [right]
    exact h.bounded
  · rw [right]
    exact fun _ _ himage => himage

theorem Paired.stopped_of_twins {p' q' : Play} (h : Paired settings home directory reserved shown p q)
    (twins : Twins p.session.files q.session.files q.session.images p'.session q'.session)
    (left : p'.stage = p.stage) (right : q'.stage = q.stage) : Stopped home reserved p' q' := by
  refine ⟨?_, twins.matched h.matched⟩
  rw [left, right]
  exact h.current_eq

theorem Paired.note (h : Paired settings home directory reserved shown p q) (module : String)
    (level : Journal.Level) (message : String) :
    Alike (Stopped home reserved)
      (fun x y p' q' => x = y ∧ Paired settings home directory reserved shown p' q')
      ((liftM (Session.note module level message) : Act Unit).run p)
      ((liftM (Session.note module level message) : Act Unit).run q) := by
  apply (h.matched.twins.note module level message).lift.imp
  · rintro p' q' ⟨htwins, hp, hq⟩
    exact h.stopped_of_twins htwins hp hq
  · rintro x y p' q' ⟨⟨hvalue, htwins⟩, hp, hq⟩
    exact ⟨hvalue, h.of_twins htwins hp hq⟩

theorem Paired.choiceAt (h : Paired settings home directory reserved shown p q)
    (choose : Option Bool) (event : Event) :
    Alike (Stopped home reserved)
      (fun x y p' q' => x = y ∧ Paired settings home directory reserved shown p' q')
      ((choiceAt choose event).run p) ((Play.choiceAt choose event).run q) := by
  apply (alike_choiceAt (Twins.converses _ _ _) h.matched.twins choose event).imp
  · rintro p' q' ⟨htwins, hp, hq⟩
    exact h.stopped_of_twins htwins hp hq
  · rintro x y p' q' ⟨⟨hvalue, htwins⟩, hp, hq⟩
    exact ⟨hvalue, h.of_twins htwins hp hq⟩

theorem Paired.advance (h : Paired settings home directory reserved shown p q) (choice : Bool)
    (reads : ∀ file, Stage.ReadsFile choice q file → Avoids reserved home file.text) :
    Alike (Stopped home reserved)
      (fun _ _ p' q' => Paired settings home directory reserved shown p' q')
      ((Stage.advance choice).run p) ((Stage.advance choice).run q) := by
  obtain ⟨c, hstage, hmirrors⟩ := h.cached
  have hbeside : Stage.Beside (some c) p.session.files q.session.files q.session.images p q :=
    ⟨h.matched.twins, hstage⟩
  have hhome : q.session.files.home = home := h.matched.agree.home.trans hmirrors.home_eq
  have halike := hbeside.advance h.matched.agree choice (hhome ▸ reads)
  obtain ⟨next, p', next', q', hp, hq, hbeside'⟩ | ⟨e, p', q', hp, hq, htwins⟩ := halike.cases
  · obtain ⟨hbounded, hgrows⟩ := Stage.bounded_advance h.bounded hq
    have hplain := (Stage.moved_of_run hq).cache_eq.trans h.plain
    rw [hp, hq]
    exact h.of_beside hmirrors hbeside' hplain hbounded hgrows
  · rw [hp, hq]
    refine ⟨rfl, ?_, htwins.matched h.matched⟩
    rw [(Stage.stopped_of_run hp).current_eq, (Stage.stopped_of_run hq).current_eq]
    exact h.current_eq

section

variable (proper : directory.Proper)
  (below : ∀ l, place home directory <+: l → l ≠ place home directory → reserved l)
  (storable : Storable directory shown)
  (outside : ∀ n, Avoids reserved home (out.child (drawingName n)).text)
  (hshown : ∀ d, q.stage.frame = .ok (some (.dialogue d)) → shown d)
  (images : ∀ d, q.stage.frame = .ok (some (.dialogue d)) → ∀ image,
    Scene.ReadsImage settings d q.session image → Avoids reserved home image.text)

include proper below storable outside hshown images

theorem Paired.present (h : Paired settings home directory reserved shown p q)
    (choose : Option Bool) (drawn : Nat) (event : Event) :
    Alike (Stopped home reserved)
      (fun x y p' q' => x = y ∧ Paired settings home directory reserved shown p' q')
      ((present (.scene settings) out choose drawn event).run p)
      ((Play.present (.scene settings) out choose drawn event).run q) := by
  by_cases hrenderable : event.isRenderable = true
  · rw [present_of_isRenderable hrenderable]
    apply (h.renderCached proper below storable
      (Path.endsInSlash_text_child out (isName_drawingName _).toIsPart) (outside _) hshown images).bind
    rintro _ _ p' q' ⟨-, h'⟩
    exact h'.choiceAt choose event
  · cases event with
    | dialogue speaker lines => exact absurd rfl hrenderable
    | directive d =>
      cases d with
      | custom name arguments =>
        apply (h.note _ _ _).bind
        rintro _ _ p' q' ⟨-, h'⟩
        exact ⟨rfl, h'⟩
      | jump | «show» | hide | background | «attribute» =>
        simp only [Play.present, hrenderable, Bool.false_eq_true, if_false]
        exact ⟨rfl, h⟩

theorem Paired.turn (h : Paired settings home directory reserved shown p q)
    (choose : Option Bool) (drawn : Nat) (event : Event)
    (reads : ∀ choice q', (Play.present (.scene settings) out choose drawn event).run q = .ok choice q' →
      ∀ file, Stage.ReadsFile choice q' file → Avoids reserved home file.text) :
    Alike (Stopped home reserved)
      (fun m n p' q' => m = n ∧ Paired settings home directory reserved shown p' q')
      ((turn (.scene settings) out choose drawn event).run p)
      ((Play.turn (.scene settings) out choose drawn event).run q) := by
  have hpresent := h.present proper below storable outside hshown images choose drawn event
  apply hpresent.bind_of_run
  rintro choice _ p' q' - hq ⟨rfl, h'⟩
  apply (h'.advance choice (reads choice q' hq)).bind
  rintro _ _ p'' q'' h''
  exact ⟨rfl, h''⟩

end

end VisualNovel.Play
