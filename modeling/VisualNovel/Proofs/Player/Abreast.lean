import VisualNovel.Proofs.Player.Course
import VisualNovel.Proofs.Player.Venue
import VisualNovel.Proofs.Stage.Flatten
import VisualNovel.Proofs.Stage.Library

/-!
# Plays abreast

A play that may have a cache and a play without one, which have come from the same start. Whatever the
first one does the second can do as well: what the cache serves is the picture that would be drawn.
-/
namespace VisualNovel

open RenderCache (Finds)

theorem Renderer.run_render_scene (settings : Settings) (f : Frame) (out : String) (s : Session) :
    ((Renderer.scene settings).render f out).run s =
      match (Scene.drawFrame settings f).run s with
      | .error e t => .error e t
      | .ok canvas t =>
        match t.files.write out (.drawing canvas) with
        | .ok files => .ok () { t with files }
        | .error e => .error (.file e) t := by
  have hdraw : ((Renderer.scene settings).draw f).run s =
      match (Scene.drawFrame settings f).run s with
      | .error e t => .error e t
      | .ok canvas t => .ok (.drawing canvas) t := by
    change (Scene.drawFrame settings f >>= fun canvas => pure (.drawing canvas) :
      Action Content).run s = _
    rw [EStateM.run_bind]
    cases (Scene.drawFrame settings f).run s <;> rfl
  rw [run_render, hdraw]
  cases (Scene.drawFrame settings f).run s <;> rfl

namespace Venue

namespace Trails

variable {x : Venue} {p q p' q' : Session} {c : RenderCache} {f : Frame} {d : DialogueFrame}
  {canvas : Surface} {k n : Nat} {t : FileTree} {y : RenderCache × Bool}

/-- What the first session has written by whatever means is drawn by the second. -/
theorem draw (h : x.Trails p q)
    (portrayed : Scene.portrayFrame x.settings x.start.offer f = .ok canvas)
    (hwrite : p.files.write (x.out.child (Play.drawingName k)).text (.drawing canvas) = .ok t) :
    ∃ q', ((Renderer.scene x.settings).render f (x.out.child (Play.drawingName k)).text).run q =
      .ok () q' ∧ x.Trails { p with files := t } q' := by
  have hlooks := Scene.looks_drawFrame x.settings f q
  rw [Scene.portrayFrame_of_within h.right.within portrayed] at hlooks
  obtain ⟨q', hdraw, hloads⟩ := hlooks.exists_of_ok
  obtain ⟨u, hu, htrails⟩ :=
    (h.of_loads (.refl p) hloads).display hwrite (Scene.painted_portrayFrame portrayed)
  refine ⟨{ q' with files := u }, ?_, htrails⟩
  rw [Renderer.run_render_scene, hdraw]
  simp only [hu]

theorem render (h : x.Trails p q)
    (run : ((Renderer.scene x.settings).render f (x.out.child (Play.drawingName k)).text).run p =
      .ok () p') :
    ∃ canvas q', Scene.portrayFrame x.settings x.start.offer f = .ok canvas ∧
      p'.files.read (x.out.child (Play.drawingName k)).text = .ok (.drawing canvas) ∧
      ((Renderer.scene x.settings).render f (x.out.child (Play.drawingName k)).text).run q =
        .ok () q' ∧ x.Trails p' q' := by
  have hlooks := Scene.looks_drawFrame x.settings f p
  rw [Renderer.run_render_scene] at run
  cases hdraw : (Scene.drawFrame x.settings f).run p with
  | error e s =>
    rw [hdraw] at run
    cases run
  | ok canvas s =>
    rw [hdraw] at run hlooks
    obtain ⟨hportray, hloads⟩ := hlooks
    simp only at run
    cases hwrite : s.files.write (x.out.child (Play.drawingName k)).text (.drawing canvas) with
    | error e =>
      rw [hwrite] at run
      cases run
    | ok u =>
      rw [hwrite] at run
      cases run
      have hportrayed := Scene.portrayFrame_of_within h.left.within_start hportray
      obtain ⟨q', hq, htrails⟩ := (h.of_loads hloads (.refl q)).draw hportrayed hwrite
      exact ⟨canvas, q', hportrayed, FileTree.read_of_write hwrite, hq, htrails⟩

/-- A frame that the cache has served is drawn by the second session. -/
theorem render_of_kept (h : x.Trails p q) (finds : Finds x.directory c) (hd : x.known d)
    (pictured : Pictured x.start.offer d.backdrop) (hn : d.fingerprint? = some n) {file : Path}
    (hfile : c.lookup n = some file)
    (run : (c.render (.scene x.settings) (.dialogue d) (x.out.child (Play.drawingName k)).text).run p =
      .ok y p') :
    ∃ q', ((Renderer.scene x.settings).render (.dialogue d)
        (x.out.child (Play.drawingName k)).text).run q = .ok () q' ∧ x.Trails p' q' ∧
      Finds x.directory y.1 := by
  obtain ⟨hsame, journal, u, content, hread, hwrite, rfl⟩ :=
    RenderCache.exists_of_run_render_of_kept hn hfile run
  have hgenuine : x.genuine n content :=
    finds.served (h.left_home ▸ h.truthful) x.directory_proper hfile hread
  obtain ⟨canvas, hportray, rfl⟩ := portray_of_genuine hd hn pictured hgenuine
  have hnoted : x.Trails { p with journal } q := h.of_loads ⟨rfl, rfl⟩ (.refl q)
  obtain ⟨q', hq, htrails⟩ := hnoted.draw (f := .dialogue d) hportray hwrite
  refine ⟨q', hq, htrails, ?_⟩
  rw [hsame]
  exact finds

/-- A frame that the cache has not served is drawn by both sessions, and the first one keeps the
picture. -/
theorem render_of_missing (h : x.Trails p q) (finds : Finds x.directory c) (hd : x.known d)
    (pictured : Pictured x.start.offer d.backdrop) (hn : d.fingerprint? = some n)
    (hmissing : c.lookup n = none)
    (run : (c.render (.scene x.settings) (.dialogue d) (x.out.child (Play.drawingName k)).text).run p =
      .ok y p') :
    ∃ q', ((Renderer.scene x.settings).render (.dialogue d)
        (x.out.child (Play.drawingName k)).text).run q = .ok () q' ∧ x.Trails p' q' ∧
      Finds x.directory y.1 := by
  obtain ⟨hkept, journal, s, u, content, hrender, hcontent, hwrite, rfl⟩ :=
    RenderCache.exists_of_run_render_of_missing hn hmissing run
  rw [finds.directory_eq] at hwrite
  have hnoted : x.Trails { p with journal } q := h.of_loads ⟨rfl, rfl⟩ (.refl q)
  obtain ⟨canvas, q', hportray, hread, hq, htrails⟩ := hnoted.render hrender
  cases hread.symm.trans hcontent
  have hgenuine : x.genuine n (.drawing canvas) := ⟨d, canvas, hd, hn, pictured, hportray, rfl⟩
  refine ⟨q', hq, htrails.keep hwrite hgenuine, ?_⟩
  rw [hkept]
  exact finds.keep n

/-- A frame that the first session has rendered through its cache is drawn by the second. -/
theorem render_cached (h : x.Trails p q) (finds : Finds x.directory c)
    (known : ∀ d, f = .dialogue d → x.known d ∧ Pictured x.start.offer d.backdrop)
    (run : (c.render (.scene x.settings) f (x.out.child (Play.drawingName k)).text).run p =
      .ok y p') :
    ∃ q', ((Renderer.scene x.settings).render f (x.out.child (Play.drawingName k)).text).run q =
      .ok () q' ∧ x.Trails p' q' ∧ Finds x.directory y.1 := by
  cases f with
  | choice g =>
    rw [RenderCache.run_render_choice] at run
    cases hrender : ((Renderer.scene x.settings).render (.choice g)
        (x.out.child (Play.drawingName k)).text).run p with
    | error e s =>
      rw [hrender] at run
      cases run
    | ok _ s =>
      rw [hrender] at run
      cases run
      obtain ⟨-, q', -, -, hq, htrails⟩ := h.render hrender
      exact ⟨q', hq, htrails, finds⟩
  | dialogue d =>
    obtain ⟨hd, pictured⟩ := known d rfl
    cases hn : d.fingerprint? with
    | none =>
      obtain ⟨e, he⟩ := DialogueFrame.fingerprint?_eq_none_iff.1 hn
      rw [RenderCache.run_render_of_fault he] at run
      cases run
    | some n =>
      cases hfile : c.lookup n with
      | some file => exact h.render_of_kept finds hd pictured hn hfile run
      | none => exact h.render_of_missing finds hd pictured hn hfile run

end Trails

end Venue

namespace Play

open Venue (Trails)

/-- Two plays in sessions that have come from the same start, on stages that are the same but for the
cache of the first. Every picture on stage was had at the start. -/
structure Abreast (x : Venue) (p q : Play) : Prop where
  session : x.Trails p.session q.session
  stage : p.stage = { q.stage with cache := p.stage.cache }
  finds : ∀ c, p.stage.cache = some c → Finds x.directory c
  plain : q.stage.cache = none
  bounded : q.stage.Bounded
  pictured : ∀ path image, q.stage.backdrops.lookup path = some image →
    x.start.offer path = .ok image

namespace Abreast

variable {x : Venue} {p q p' q' : Play} {choose : Option Bool} {drawn : Nat} {event : Event}
  {choice : Bool} {next : Option Event}

theorem current_eq (h : Abreast x p q) : p.stage.current = q.stage.current := by
  rw [h.stage]
  rfl

theorem frame_eq (h : Abreast x p q) : p.stage.frame = q.stage.frame := by
  rw [h.stage]
  rfl

theorem of_trails (h : Abreast x p q) (session : x.Trails p'.session q'.session)
    (left : p'.stage = p.stage) (right : q'.stage = q.stage) : Abreast x p' q' where
  session := session
  stage := by
    rw [left, right]
    exact h.stage
  finds := by
    rw [left]
    exact h.finds
  plain := by
    rw [right]
    exact h.plain
  bounded := by
    rw [right]
    exact h.bounded
  pictured := by
    rw [right]
    exact h.pictured

theorem pictured_frame (h : Abreast x p q) {d : DialogueFrame}
    (frame : q.stage.frame = .ok (some (.dialogue d))) : Pictured x.start.offer d.backdrop := by
  obtain ⟨hloaded, hbare⟩ := h.bounded.backs
  rw [(Stage.depicts_of_frame frame).backdrop]
  refine ⟨fun path hpath => ?_, hbare⟩
  obtain ⟨image, hpicture, hlookup⟩ := hloaded path hpath
  exact ⟨image, hpicture, h.pictured path image hlookup⟩

theorem renderCached (h : Abreast x p q)
    (known : ∀ d, p.stage.frame = .ok (some (.dialogue d)) → x.known d) (k : Nat) :
    Covers (fun m n p' q' => m = n ∧ Abreast x p' q')
      ((Stage.renderCached (.scene x.settings) (x.out.child (drawingName k)).text).run p)
      ((Stage.renderCached (.scene x.settings) (x.out.child (drawingName k)).text).run q) := by
  intro hit p' hrun
  rw [Stage.run_renderCached_of_none h.plain, ← h.frame_eq]
  cases Stage.renders_of_run hrun with
  | nothing frame =>
    rw [frame]
    exact ⟨_, q, rfl, rfl, h⟩
  | directly frame cache render =>
    obtain ⟨-, s, -, -, hq, htrails⟩ := h.session.render render
    rw [frame]
    simp only [hq]
    exact ⟨_, _, rfl, rfl, h.of_trails htrails rfl rfl⟩
  | @through f c y session frame cache render =>
    have hknown : ∀ d, f = .dialogue d → x.known d ∧ Pictured x.start.offer d.backdrop := by
      rintro d rfl
      exact ⟨known d frame, h.pictured_frame (h.frame_eq ▸ frame)⟩
    obtain ⟨s, hq, htrails, hfinds⟩ := h.session.render_cached (h.finds c cache) hknown render
    rw [frame]
    simp only [hq]
    refine ⟨_, _, rfl, rfl, htrails, ?_, ?_, h.plain, h.bounded, h.pictured⟩
    · rw [h.stage]
    · rintro _ ⟨⟩
      exact hfinds

theorem note (h : Abreast x p q) (module : String) (level : Journal.Level) (message : String) :
    Covers (fun m n p' q' => m = n ∧ Abreast x p' q')
      ((liftM (Session.note module level message) : Act Unit).run p)
      ((liftM (Session.note module level message) : Act Unit).run q) := by
  apply (x.converses_trails.note h.session module level message).lift.covers.imp
  rintro m n p' q' ⟨⟨hvalue, htrails⟩, hp, hq⟩
  exact ⟨hvalue, h.of_trails htrails hp hq⟩

theorem choiceAt (h : Abreast x p q) (choose : Option Bool) (event : Event) :
    Covers (fun m n p' q' => m = n ∧ Abreast x p' q')
      ((choiceAt choose event).run p) ((Play.choiceAt choose event).run q) := by
  apply (alike_choiceAt x.converses_trails h.session choose event).covers.imp
  rintro m n p' q' ⟨⟨hvalue, htrails⟩, hp, hq⟩
  exact ⟨hvalue, h.of_trails htrails hp hq⟩

/-- Where both plays have stepped on, to stages that are the same but for the cache, they are abreast
again. -/
theorem of_advance (h : Abreast x p q) (run : (Stage.advance choice).run q = .ok next q')
    (session : x.Trails p'.session q'.session)
    (stage : p'.stage = { q'.stage with cache := p.stage.cache }) : Abreast x p' q' where
  session := session
  stage := by rw [stage]
  finds := by
    rw [stage]
    exact h.finds
  plain := (Stage.moved_of_run run).cache_eq.trans h.plain
  bounded := (Stage.bounded_advance h.bounded run).1
  pictured := by
    intro path image hlookup
    rcases Stage.gives_of_advance run hlookup with hbefore | ⟨-, hgives⟩
    · exact h.pictured path image hbefore
    · exact (h.session.right.offer path image).1 (Session.gives_iff.1 hgives)

theorem advance_of_jump (h : Abreast x p q) {target : String} {choices : Option Choices}
    (current : p.stage.current = some (.directive (.jump target choices)))
    (run : (Stage.advance choice).run p = .ok next p') :
    ∃ next' q', (Stage.advance choice).run q = .ok next' q' ∧ Abreast x p' q' := by
  have hstage := h.stage
  have hcurrent := h.current_eq.symm.trans current
  by_cases htakes : p.stage.Takes choice target
  · have hqtakes : q.stage.Takes choice target := by
      obtain ⟨choices', hjump, htaken⟩ := htakes
      exact ⟨choices', h.current_eq.symm.trans hjump, htaken⟩
    have hheld : p.stage.held? target = q.stage.held? target := by
      rw [hstage]
      rfl
    have hq := Stage.run_advance_of_takes hqtakes
    rw [Stage.run_advance_of_takes htakes, hheld] at run
    cases hscript : q.stage.held? target with
    | some script =>
      rw [hscript] at run hq
      cases run
      refine ⟨_, _, hq, h.of_advance hq (h.session.of_loads ⟨rfl, rfl⟩ ⟨rfl, rfl⟩) ?_⟩
      rw [hstage]
      rfl
    | none =>
      have hfile : p.stage.fileOf target = q.stage.fileOf target := by
        rw [hstage]
        rfl
      rw [hscript] at run hq
      simp only [hfile] at run
      cases hload : (Session.loadScript (q.stage.fileOf target) (some target)).run p.session with
      | error e s =>
        rw [hload] at run
        cases run
      | ok script s =>
        rw [hload] at run
        obtain ⟨s', hqload, htrails⟩ := h.session.loadScript hload
        simp only [hqload] at hq
        cases run
        refine ⟨_, _, hq, h.of_advance hq (htrails.of_loads ⟨rfl, rfl⟩ ⟨rfl, rfl⟩) ?_⟩
        rw [hstage]
        rfl
  · have hqdeclined : ¬q.stage.Takes choice target := by
      rintro ⟨choices', hjump, htaken⟩
      exact htakes ⟨choices', h.current_eq.trans hjump, htaken⟩
    obtain ⟨journal, hp⟩ := Stage.run_advance_of_declined current htakes
    obtain ⟨journal', hq⟩ := Stage.run_advance_of_declined hcurrent hqdeclined
    rw [hp] at run
    cases run
    refine ⟨_, _, hq, h.of_advance hq (h.session.of_loads ⟨rfl, rfl⟩ ⟨rfl, rfl⟩) ?_⟩
    rw [hstage]
    rfl

theorem advance_of_plain (h : Abreast x p q) {e : Event} (current : p.stage.current = some e)
    (plain : e.isJump = false) (run : (Stage.advance choice).run p = .ok next p') :
    ∃ next' q', (Stage.advance choice).run q = .ok next' q' ∧ Abreast x p' q' := by
  have hstage := h.stage
  have hshared : Stage.Shared x.Trails p.stage q.stage p q := by
    refine ⟨h.session, q.stage.scene, ?_, rfl⟩
    rw [hstage]
    rfl
  -- What the event asks for has been loaded in the first play, so it is loaded in the second.
  have hload : ∀ path, e = .directive (.background path) → p.stage.backdrops.lookup path = none →
      Alike x.Trails (fun x' y p q => x' = y ∧ x.Trails p q)
        ((Session.loadImage path).run p.session) ((Session.loadImage path).run q.session) := by
    rintro path rfl hfresh
    change (Stage.advance choice).run ⟨p.session, p.stage⟩ = .ok next p' at run
    obtain ⟨image, ⟨s, hs⟩, -⟩ := Stage.exists_gives_of_run run current hfresh
    obtain ⟨s', hs', htrails⟩ := h.session.loadImage hs
    rw [hs, hs']
    exact ⟨rfl, htrails⟩
  have hquiet : Stage.IgnoresJournal x.Trails :=
    fun _ _ journal journal' htrails => x.converses_trails.journal journal journal' htrails
  have hstep := hshared.advance hquiet current (h.current_eq.symm.trans current) plain hload choice
    choice
  obtain ⟨next', q', hq, hsession, y, hp', hq'⟩ := hstep.exists_of_ok run
  refine ⟨next', q', hq, h.of_advance hq hsession ?_⟩
  rw [hp', hq', hstage]
  rfl

/-- A step that the first play has taken is taken by the second. -/
theorem advance (h : Abreast x p q) (choice : Bool) :
    Covers (fun _ _ p' q' => Abreast x p' q') ((Stage.advance choice).run p)
      ((Stage.advance choice).run q) := by
  intro next p' hrun
  cases hcurrent : p.stage.current with
  | none =>
    have hq : (Stage.advance choice).run q = .ok none q := by
      rw [Stage.advance, EStateM.run_bind, run_stage?]
      simp only [← h.current_eq, hcurrent]
      rfl
    have hp : (Stage.advance choice).run p = .ok none p := by
      rw [Stage.advance, EStateM.run_bind, run_stage?]
      simp only [hcurrent]
      rfl
    rw [hp] at hrun
    cases hrun
    exact ⟨none, q, hq, h⟩
  | some e =>
    cases hjump : e.isJump with
    | false => exact h.advance_of_plain hcurrent hjump hrun
    | true =>
      obtain ⟨target, choices, rfl⟩ := Event.exists_of_isJump hjump
      exact h.advance_of_jump hcurrent hrun

/-- What the first play does at an event before the step is done by the second. -/
theorem present (h : Abreast x p q)
    (known : ∀ d, p.stage.frame = .ok (some (.dialogue d)) → x.known d) (choose : Option Bool)
    (drawn : Nat) (event : Event) :
    Covers (fun m n p' q' => m = n ∧ Abreast x p' q')
      ((present (.scene x.settings) x.out choose drawn event).run p)
      ((Play.present (.scene x.settings) x.out choose drawn event).run q) := by
  by_cases hrenderable : event.isRenderable = true
  · rw [present_of_isRenderable hrenderable]
    apply (h.renderCached known (drawn + 1)).bind
    rintro _ _ p' q' ⟨-, h'⟩
    exact h'.choiceAt choose event
  · cases event with
    | dialogue speaker lines => exact absurd rfl hrenderable
    | directive d =>
      cases d with
      | custom name arguments =>
        apply (h.note _ _ _).bind
        rintro _ _ p' q' ⟨-, h'⟩
        exact .of_ok ⟨rfl, h'⟩
      | jump | «show» | hide | background | «attribute» =>
        simp only [Play.present, hrenderable, Bool.false_eq_true, if_false]
        exact .of_ok ⟨rfl, h⟩

/-- A turn that the first play has taken is taken by the second. -/
theorem turn (h : Abreast x p q)
    (known : ∀ d, p.stage.frame = .ok (some (.dialogue d)) → x.known d) (choose : Option Bool)
    (drawn : Nat) (event : Event) :
    Covers (fun m n p' q' => m = n ∧ Abreast x p' q')
      ((turn (.scene x.settings) x.out choose drawn event).run p)
      ((Play.turn (.scene x.settings) x.out choose drawn event).run q) := by
  apply (h.present known choose drawn event).bind
  rintro choice _ p' q' ⟨rfl, h'⟩
  apply (h'.advance choice).bind
  rintro _ _ p'' q'' h''
  exact .of_ok ⟨rfl, h''⟩

end Abreast

end Play

end VisualNovel
