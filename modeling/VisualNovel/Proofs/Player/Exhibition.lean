import VisualNovel.Proofs.Cache.Run
import VisualNovel.Proofs.Picture.Portrait
import VisualNovel.Proofs.Player.Gallery
import VisualNovel.Proofs.Player.Route
import VisualNovel.Proofs.Session.Reply
import VisualNovel.Proofs.Stage.Lazy

/-!
# The drawings that a play leaves

Each event that is drawn adds the next number to the directory of the drawings. Nothing else that a play
does puts anything there under the name of a drawing, and a drawing that has been put up stays as it is.
-/
namespace VisualNovel

open FileTree (destination)
open RenderCache (fileOf)

/-- The files behind a drawing: it has been written, and a copy may have been kept in some directory. -/
inductive FileTree.PutUp (out : String) (t : FileTree) : FileTree → Prop where
  | drawn {c : Content} {u : FileTree} (write : t.write out c = .ok u) : PutUp out t u
  | kept {c c' : Content} {directory : Path} {n : Nat} {u v : FileTree}
      (write : t.write out c = .ok v) (proper : directory.Proper)
      (keep : v.write (fileOf directory n).text c' = .ok u) : PutUp out t u

/-- The renderer leaves the files as they are. -/
def Renderer.LeavesFiles (r : Renderer) : Prop :=
  ∀ {f s c s'}, (r.draw f).run s = .ok c s' → s'.files = s.files

theorem Renderer.leavesFiles_scene (settings : Settings) : (Renderer.scene settings).LeavesFiles := by
  intro f s c s' h
  obtain ⟨canvas, t, hdraw, hsame⟩ := exists_of_run_bind h
  cases hsame
  have hlooks := Scene.looks_drawFrame settings f s
  rw [hdraw] at hlooks
  rw [hlooks.2.same]

variable {r : Renderer} {s s' : Session} {f : Frame} {out : String}

theorem Renderer.LeavesFiles.exists_write (hr : r.LeavesFiles)
    (run : (r.render f out).run s = .ok () s') : ∃ c, s.files.write out c = .ok s'.files := by
  obtain ⟨c, t, hdraw, hwrite⟩ := exists_of_run_bind run
  rw [Session.run_alter, hr hdraw] at hwrite
  cases hfiles : s.files.write out c with
  | error e =>
    rw [hfiles] at hwrite
    cases hwrite
  | ok files =>
    rw [hfiles] at hwrite
    cases hwrite
    exact ⟨c, hfiles⟩

namespace RenderCache

variable {c : RenderCache} {y : RenderCache × Bool}

/-- A frame that is rendered through a cache is put up, and the cache keeps its directory. -/
theorem putUp_of_render (hr : r.LeavesFiles) (proper : c.directory.Proper)
    (run : (c.render r f out).run s = .ok y s') :
    FileTree.PutUp out s.files s'.files ∧ y.1.directory = c.directory := by
  cases f with
  | choice g =>
    obtain ⟨_, t, hrender, hsame⟩ := exists_of_run_bind run
    cases hsame
    obtain ⟨content, hwrite⟩ := hr.exists_write hrender
    exact ⟨.drawn hwrite, rfl⟩
  | dialogue d =>
    cases hn : d.fingerprint? with
    | none =>
      obtain ⟨e, he⟩ := DialogueFrame.fingerprint?_eq_none_iff.1 hn
      rw [run_render_of_fault he] at run
      cases run
    | some n =>
      cases hfile : c.lookup n with
      | some file =>
        obtain ⟨hsame, journal, files, content, -, hwrite, rfl⟩ :=
          exists_of_run_render_of_kept hn hfile run
        rw [hsame]
        exact ⟨.drawn hwrite, rfl⟩
      | none =>
        obtain ⟨hkept, journal, t, files, content, hrender, -, hkeep, rfl⟩ :=
          exists_of_run_render_of_missing hn hfile run
        obtain ⟨drawing, hwrite⟩ := hr.exists_write hrender
        rw [hkept]
        exact ⟨.kept hwrite proper hkeep, rfl⟩

end RenderCache

namespace Stage

variable {p q : Play} {hit : Bool} {e : Event}

/-- The cache of a stage, if it has one, is in a proper directory. -/
def CachesProperly (s : Stage) : Prop :=
  ∀ c, s.cache = some c → c.directory.Proper

theorem frame_ne_nothing {s : Stage} (current : s.current = some e)
    (renderable : e.isRenderable = true) : s.frame ≠ .ok none := by
  intro frame
  rw [Stage.frame, current] at frame
  cases e with
  | dialogue speaker lines =>
    obtain ⟨sprites, -, hframe⟩ := exists_of_bind frame
    obtain ⟨text, -, hframe⟩ := exists_of_bind hframe
    obtain ⟨box, -, hframe⟩ := exists_of_bind hframe
    cases hframe
  | directive d =>
    cases d with
    | jump target choices =>
      cases choices with
      | none => cases renderable
      | some choices => cases frame
    | «show» | hide | background | «attribute» | custom => cases renderable

theorem putUp_of_renderCached (hr : r.LeavesFiles) (proper : p.stage.CachesProperly)
    (current : p.stage.current = some e) (renderable : e.isRenderable = true)
    (run : (renderCached r out).run p = .ok hit q) :
    hit = true ∧ (∃ f, p.stage.frame = .ok (some f)) ∧
      FileTree.PutUp out p.session.files q.session.files ∧ q.stage.CachesProperly := by
  cases renders_of_run run with
  | nothing frame => exact absurd frame (frame_ne_nothing current renderable)
  | @directly f session frame cache render =>
    obtain ⟨content, hwrite⟩ := hr.exists_write render
    exact ⟨rfl, ⟨f, frame⟩, .drawn hwrite, proper⟩
  | @through f c y session frame cache render =>
    obtain ⟨hput, hdirectory⟩ := RenderCache.putUp_of_render hr (proper c cache) render
    refine ⟨rfl, ⟨f, frame⟩, hput, ?_⟩
    rintro _ ⟨⟩
    rw [hdirectory]
    exact proper c cache

end Stage

namespace Play

variable {out : Path} {t u : FileTree} {k n : Nat} {c : Content}

/-- What stands in the directory under names of drawings are the drawings up to a number. -/
structure Hung (out : Path) (n : Nat) (t : FileTree) : Prop where
  directory : t.isDirectory out.text = true
  names : ∀ name, Path.IsName name → isDrawing name = true →
    (t.get? (destination t.home out.text ++ [name]) ≠ none ↔
      ∃ k, 0 < k ∧ k ≤ n ∧ name = drawingName k)

theorem hung_of_cleared (proper : out.Proper) (h : cleared out t = .ok u) : Hung out 0 u where
  directory := (of_cleared h).2.2
  names := by
    intro name hname hdrawing
    rw [get?_of_cleared proper h hname hdrawing]
    simp only [ne_eq, not_true_eq_false, false_iff, not_exists, not_and]
    intro k hpos hle
    omega

theorem Hung.list (h : Hung out n t) :
    ∃ names, t.list out.text = .ok names ∧ ∀ name, Path.IsName name → isDrawing name = true →
      (name ∈ names ↔ ∃ k, 0 < k ∧ k ≤ n ∧ name = drawingName k) := by
  obtain ⟨l, hlocate, hl⟩ := FileTree.isDirectory_iff.1 h.directory
  obtain ⟨names, hnames, hmem⟩ := FileTree.list_of_isDirectory hlocate hl
  refine ⟨names, hnames, fun name hname hdrawing => ?_⟩
  rw [hmem, FileTree.eq_destination_of_locate hlocate]
  exact h.names name hname hdrawing

theorem Hung.not_read (h : Hung out n t) (proper : out.Proper) (hk : n < k) :
    t.read (out.child (drawingName k)).text ≠ .ok c := by
  intro hread
  obtain ⟨l, hlocate, hfile, -⟩ := FileTree.read_eq_ok_iff.1 hread
  have hname := isName_drawingName k
  rw [FileTree.eq_destination_of_locate hlocate, Path.destination_child proper hname] at hfile
  obtain ⟨m, -, hm, hsame⟩ :=
    (h.names _ hname (isDrawing_drawingName k)).1 (by simp [hfile])
  rw [drawingName_inj hsame] at hk
  omega

theorem Hung.draw (h : Hung out n t) (proper : out.Proper)
    (write : t.write (out.child (drawingName (n + 1))).text c = .ok u) : Hung out (n + 1) u where
  directory := (FileTree.keeps_write write).isDirectory h.directory
  names := by
    intro name hname hdrawing
    have hplace := Path.destination_child proper (isName_drawingName (n + 1)) t.home
    have hself := FileTree.get?_of_write_self write
    rw [(FileTree.keeps_write write).home]
    rw [hplace] at hself
    by_cases hnext : name = drawingName (n + 1)
    · rw [hnext, hself]
      simp only [ne_eq, reduceCtorEq, not_false_eq_true, true_iff]
      exact ⟨n + 1, by omega, by omega, rfl⟩
    · rw [FileTree.get?_of_write write, h.names name hname hdrawing]
      · constructor
        · rintro ⟨k, hpos, hle, hk⟩
          exact ⟨k, hpos, by omega, hk⟩
        · rintro ⟨k, hpos, hle, rfl⟩
          have hne : k ≠ n + 1 := fun hk => hnext (by rw [hk])
          exact ⟨k, hpos, by omega, rfl⟩
      · rw [← Path.destination_child proper hname]
        intro hsame
        exact hnext (Path.eq_of_destination_child proper proper hname (isName_drawingName _) hsame)

theorem Hung.keep (h : Hung out n t) (proper : out.Proper) {directory : Path}
    (proper' : directory.Proper)
    (write : t.write (fileOf directory k).text c = .ok u) : Hung out n u where
  directory := (FileTree.keeps_write write).isDirectory h.directory
  names := by
    intro name hname hdrawing
    rw [(FileTree.keeps_write write).home, FileTree.get?_of_write write]
    · exact h.names name hname hdrawing
    · rw [← Path.destination_child proper hname, RenderCache.fileOf_eq]
      intro hsame
      rw [Path.eq_of_destination_child proper proper' hname (RenderCache.isName_drawingName k) hsame,
        isDrawing_kept] at hdrawing
      cases hdrawing

theorem Hung.putUp (h : Hung out n t) (proper : out.Proper)
    (put : FileTree.PutUp (out.child (drawingName (n + 1))).text t u) : Hung out (n + 1) u := by
  cases put with
  | drawn write => exact h.draw proper write
  | kept write proper' keep => exact (h.draw proper write).keep proper proper' keep

theorem read_of_keep (proper : out.Proper) {directory : Path} (proper' : directory.Proper)
    (write : t.write (fileOf directory k).text c = .ok u) {m : Nat} {c' : Content}
    (hread : t.read (out.child (drawingName m)).text = .ok c') :
    u.read (out.child (drawingName m)).text = .ok c' := by
  apply FileTree.read_of_write_of_ne write hread
  rw [RenderCache.fileOf_eq]
  intro hsame
  exact drawingName_ne m k (Path.eq_of_destination_child proper proper' (isName_drawingName m)
    (RenderCache.isName_drawingName k) hsame)

theorem exists_read_of_putUp (proper : out.Proper)
    (put : FileTree.PutUp (out.child (drawingName n)).text t u) :
    ∃ c, u.read (out.child (drawingName n)).text = .ok c := by
  cases put with
  | drawn write => exact ⟨_, FileTree.read_of_write write⟩
  | kept write proper' keep =>
    exact ⟨_, read_of_keep proper proper' keep (FileTree.read_of_write write)⟩

theorem read_of_putUp (proper : out.Proper)
    (put : FileTree.PutUp (out.child (drawingName n)).text t u) (hne : k ≠ n)
    (hread : t.read (out.child (drawingName k)).text = .ok c) :
    u.read (out.child (drawingName k)).text = .ok c := by
  have hdraw : ∀ {c' : Content} {v : FileTree},
      t.write (out.child (drawingName n)).text c' = .ok v →
        v.read (out.child (drawingName k)).text = .ok c := by
    intro c' v write
    apply FileTree.read_of_write_of_ne write hread
    intro hsame
    exact hne (drawingName_inj (Path.eq_of_destination_child proper proper (isName_drawingName k)
      (isName_drawingName n) hsame))
  cases put with
  | drawn write => exact hdraw write
  | kept write proper' keep => exact read_of_keep proper proper' keep (hdraw write)

variable {choose : Option Bool} {start p q : Play} {event : Event} {choice : Bool} {drawn : Nat}
  {path : List (Event × Bool)}

theorem files_of_choiceAt (run : (choiceAt choose event).run p = .ok choice q) :
    q.session.files = p.session.files := by
  cases event with
  | dialogue speaker lines =>
    cases run
    rfl
  | directive d =>
    cases d with
    | jump target choices =>
      cases choices with
      | none =>
        cases run
        rfl
      | some choices =>
        cases choose with
        | some first =>
          cases run
          rfl
        | none =>
          obtain ⟨_, p', hnote, hask⟩ := exists_of_run_bind run
          cases hnote
          obtain ⟨session, hasked, rfl⟩ := exists_of_run_lift hask
          rw [(Prompt.of_run_ask hasked).2.1]
    | «show» | hide | background | «attribute» | custom =>
      cases run
      rfl

/-- At an event that is drawn the next drawing is put up before the step. -/
theorem putUp_of_present (hr : r.LeavesFiles) (proper : p.stage.CachesProperly)
    (current : p.stage.current = some event) (renderable : event.isRenderable = true)
    (run : (present r out choose drawn event).run p = .ok choice q) :
    ∃ f p', p.stage.frame = .ok (some f) ∧
      (Stage.renderCached r (out.child (drawingName (drawn + 1))).text).run p = .ok true p' ∧
      FileTree.PutUp (out.child (drawingName (drawn + 1))).text p.session.files p'.session.files ∧
      q.session.files = p'.session.files ∧ q.stage.CachesProperly := by
  rw [present_of_isRenderable renderable] at run
  obtain ⟨hit, p', hrender, hchoice⟩ := exists_of_run_bind run
  obtain ⟨rfl, ⟨f, hframe⟩, hput, hproper⟩ :=
    Stage.putUp_of_renderCached hr proper current renderable hrender
  refine ⟨f, p', hframe, hrender, hput, files_of_choiceAt hchoice, ?_⟩
  rw [stage_of_choiceAt hchoice]
  exact hproper

/-- A frame is drawn: rendering what is to be seen puts it up under the next number, where nothing could
be read before. -/
structure Draws (r : Renderer) (out : Path) (n : Nat) (p : Play) (f : Frame) (c : Content) : Prop where
  frame : p.stage.frame = .ok (some f)
  fresh : ∀ c, p.session.files.read (out.child (drawingName n)).text ≠ .ok c
  writes : ∃ q, (Stage.renderCached r (out.child (drawingName n)).text).run p = .ok true q ∧
    q.session.files.read (out.child (drawingName n)).text = .ok c

section

variable (hr : r.LeavesFiles) (proper : out.Proper)

include hr proper

/-- At an event that is drawn the next drawing is put up, and a step later it is still there. -/
theorem exists_draws_of_turn {next : Option Event} {u : Play}
    (hung : Hung out drawn p.session.files) (caches : p.stage.CachesProperly)
    (current : p.stage.current = some event) (renderable : event.isRenderable = true)
    (present : (present r out choose drawn event).run p = .ok choice q)
    (step : (Stage.advance choice).run q = .ok next u) :
    ∃ f c, Draws r out (drawn + 1) p f c ∧
      u.session.files.read (out.child (drawingName (drawn + 1))).text = .ok c := by
  obtain ⟨f, p', hframe, hrun, hput, hfiles, -⟩ :=
    putUp_of_present hr caches current renderable present
  obtain ⟨c, hread⟩ := exists_read_of_putUp proper hput
  refine ⟨f, c, ⟨hframe, fun _ => hung.not_read proper (Nat.lt_succ_self drawn), p', hrun, hread⟩, ?_⟩
  rw [Stage.files_of_advance step, hfiles]
  exact hread

/-- A turn leaves the drawings as they are that have been put up before. -/
theorem read_of_turn {next : Option Event} {u : Play} (caches : p.stage.CachesProperly)
    (current : p.stage.current = some event)
    (present : (present r out choose drawn event).run p = .ok choice q)
    (step : (Stage.advance choice).run q = .ok next u) (hk : k ≤ drawn)
    (hread : p.session.files.read (out.child (drawingName k)).text = .ok c) :
    u.session.files.read (out.child (drawingName k)).text = .ok c := by
  rw [Stage.files_of_advance step]
  cases hrenderable : event.isRenderable with
  | false =>
    rw [eq_of_present hrenderable present]
    exact hread
  | true =>
    obtain ⟨f, p', -, -, hput, hfiles, -⟩ := putUp_of_present hr caches current hrenderable present
    rw [hfiles]
    exact read_of_putUp proper hput (by omega) hread

namespace Course

/-- On a course so many drawings are put up as there are events to be drawn. -/
theorem hung (h : Course r out choose start path p) (clear : Hung out 0 start.session.files)
    (caches : start.stage.CachesProperly) :
    Hung out (frames path) p.session.files ∧ p.stage.CachesProperly := by
  induction h with
  | start => exact ⟨clear, caches⟩
  | @turn path p q u event choice next _ current present step ih =>
    obtain ⟨hhung, hproper⟩ := ih
    have hmoved : Stage.Moved q.stage u.stage := Stage.moved_of_run step
    have hcache := hmoved.cache_eq
    rw [frames_concat, Stage.files_of_advance step, Stage.CachesProperly, hcache]
    cases hrenderable : event.isRenderable with
    | false =>
      rw [countAt, hrenderable, if_neg Bool.false_ne_true, eq_of_present hrenderable present]
      exact ⟨hhung, hproper⟩
    | true =>
      obtain ⟨f, p', -, -, hput, hfiles, hproper'⟩ :=
        putUp_of_present hr hproper current hrenderable present
      rw [countAt, hrenderable, if_pos rfl, hfiles]
      exact ⟨hhung.putUp proper hput, hproper'⟩

/-- At the end of a course there is for each event that was to be drawn what was drawn there. -/
theorem exists_draws {before after : List (Event × Bool)} (h : Course r out choose start path p)
    (clear : Hung out 0 start.session.files) (caches : start.stage.CachesProperly)
    (split : path = before ++ (event, choice) :: after) (renderable : event.isRenderable = true) :
    ∃ p' q f c, Visit r out choose start before event choice p' q ∧
      Draws r out (frames before + 1) p' f c ∧
      p.session.files.read (out.child (drawingName (frames before + 1))).text = .ok c := by
  induction h generalizing after with
  | start => simp at split
  | @turn path p q u event' choice' next hbefore current present step ih =>
    obtain ⟨hhung, hproper⟩ := hbefore.hung hr proper clear caches
    rcases List.eq_nil_or_concat' after with rfl | ⟨rest, last, rfl⟩
    · obtain ⟨rfl, hlast⟩ := List.append_singleton_inj.1 split
      cases hlast
      obtain ⟨f, c, hdraws, hread⟩ :=
        exists_draws_of_turn hr proper hhung hproper current renderable present step
      exact ⟨p, q, f, c, ⟨hbefore, current, present⟩, hdraws, hread⟩
    · rw [← List.cons_append, ← List.append_assoc] at split
      obtain ⟨rfl, -⟩ := List.append_singleton_inj.1 split
      obtain ⟨p', q', f, c, hvisit, hdraws, hread⟩ := ih rfl
      refine ⟨p', q', f, c, hvisit, hdraws, ?_⟩
      apply read_of_turn hr proper hproper current present step _ hread
      simp [frames, renderable]

end Course

end

end Play

end VisualNovel
