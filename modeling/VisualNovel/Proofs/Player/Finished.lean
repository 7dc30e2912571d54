import VisualNovel.Proofs.Player.Call
import VisualNovel.Proofs.Player.Exhibition
import VisualNovel.Proofs.Player.Transcript

/-!
# Finished plays

A call that ends with the code zero has taken its way through the scripts to the end of one of them. The
events on that way and the choices that were made there tell all that the call leaves: the drawings in
their directory, the lines in the journal about directives that were passed over, and what is left of
the input.
-/
namespace VisualNovel.Program

namespace Call

variable {call : Call} {script : Script} {path before : List (Event × Bool)} {event : Event}
  {choice : Bool} {p : Play}

/-- The events and choices are what the play of the call has come by when it is at the play. -/
abbrev Course (call : Call) : List (Event × Bool) → Play → Prop :=
  Play.Course (.scene call.settings) call.out call.options.chooseFirst call.start

/-- The play of the call has visited the event behind others. -/
abbrev Visits (call : Call) : List (Event × Bool) → Event → Bool → Play → Play → Prop :=
  Play.Visit (.scene call.settings) call.out call.options.chooseFirst call.start

def fileOf (call : Call) (target : String) : Path :=
  (Path.ofText call.settings.baseDir).join (Path.ofText target)

/-- The script was loaded for a target when an event on the path first led there. -/
def Loads (call : Call) (path : List (Event × Bool)) (target : String) (script : Script) : Prop :=
  ∃ before event choice after p q, path = before ++ (event, choice) :: after ∧
    call.Visits before event choice p q ∧ event.followed? choice = some target ∧ ∃ content,
      q.session.files.read (call.fileOf target).text = .ok content ∧
        Script.Holds content target script

/-- The picture of a background was loaded when an event on the path set the background. -/
def Pictures (call : Call) (path : List (Event × Bool)) (background : String) (image : Surface) :
    Prop :=
  ∃ before choice after p q,
    path = before ++ (.directive (.background background), choice) :: after ∧
      call.Visits before (.directive (.background background)) choice p q ∧
        q.session.Gives background image

/-- The drawing for an event that the play of the call is at. Its frame shows the event in the scenery
that the events before have made, on the picture that was loaded for the background, and it has been
rendered to the file in which the call leaves the content. -/
structure Exhibits (call : Call) (before : List (Event × Bool)) (event : Event) (p : Play) (f : Frame)
    (c : Content) : Prop where
  course : call.Course before p
  current : p.stage.current = some event
  settings : p.stage.settings = call.settings
  scenery : Scenery.applyAll {} (before.map Prod.fst) = .ok p.stage.scenery
  backdrop : ∀ background, p.stage.background = some background →
    ∃ image, p.stage.backdrop = some image ∧ call.Pictures before background image
  draws : Play.Draws (.scene call.settings) call.out (Play.frames before + 1) p f c
  left : call.after.files.read (call.drawing (Play.frames before + 1)) = .ok c

/-- All that a call leaves is told by its path through the scripts. -/
structure Finished (call : Call) (script : Script) (scripts : String → Option Script)
    (path : List (Event × Bool)) : Prop where
  held : ∃ content, call.before.files.read (entry call.options call.settings).text = .ok content ∧
    Script.Holds content (entry call.options call.settings).text script
  loads : ∀ target found, scripts target = some found → call.Loads path target found
  /-- The path begins with the first event of the script and leads to the end of a script. -/
  route : ∃ last index, Route scripts script path last index ∧ last.events[index]? = none
  /-- The directory holds the drawings up to the last one and no other ones. -/
  listed : ∃ names, call.after.files.list call.out.text = .ok names ∧
    ∀ name, Path.IsName name → Play.isDrawing name = true →
      (name ∈ names ↔ ∃ k, 0 < k ∧ k ≤ Play.frames path ∧ name = Play.drawingName k)
  drawn : ∀ before event choice after, path = before ++ (event, choice) :: after →
    event.isRenderable = true → ∃ p f c, call.Exhibits before event p f c
  /-- Each directive that means nothing to the player is passed over once. -/
  passed : ∃ level, call.options.logLevel = .text level ∧
    call.after.journal.passages = call.before.journal.passages ++
      if (call.before.journal.thresholds.configure level []).enabled "vn_play" .info then
        Play.passed path
      else []
  answered : Prompt.Answered call.options.chooseFirst call.before.console (Play.prompts path)
    call.after.console

/-- The play of a call takes its course to the end of a script. -/
theorem exists_course (call : Call) :
    ∃ path p, call.Course path p ∧ p.stage.current = none ∧
      call.after = { p.session with
        journal := p.session.journal.record "vn_play" .info
          ("Rendered " ++ Text.natText (Play.frames path) ++ " frames to " ++ call.out.text) } := by
  obtain ⟨n, p, hplay, hafter⟩ := call.exists_play
  have hstart : call.Course [] call.start := .start
  obtain ⟨path, hcourse, hend, rfl⟩ := hstart.of_run_playFrom hplay
  exact ⟨path, p, hcourse, hend, hafter⟩

namespace Opening

variable {s t : Session} (h : call.Opening script s t)

include h

theorem stage_eq :
    call.start.stage = { Stage.opening call.settings script with cache := call.start.stage.cache } :=
  (of_furnish h.furnishes).2.2.2

theorem hung : Play.Hung call.out 0 call.start.session.files :=
  Play.hung_of_cleared call.proper_out h.clears

/-- The cache is in the directory that the settings name, if there is one. -/
theorem cachesProperly : call.start.stage.CachesProperly := by
  intro c hc
  cases hcaches : caches call.options call.settings with
  | false =>
    have hfurnished := h.furnishes
    rw [furnish_of_not_caches hcaches] at hfurnished
    rw [← (EStateM.Result.ok.inj hfurnished).1] at hc
    cases hc
  | true =>
    obtain ⟨files, names, -, -, hstage, -⟩ := exists_of_run_furnish h.furnishes hcaches
    rw [hstage] at hc
    cases hc
    exact Path.proper_ofText _

theorem bounded_stage : call.start.stage.Bounded := by
  rw [h.stage_eq]
  have hbounded := Stage.bounded_opening call.settings h.bounded
  exact ⟨hbounded.script, hbounded.library, hbounded.resolved, hbounded.cast, hbounded.loaded⟩

theorem settings_eq (course : call.Course path p) : p.stage.settings = call.settings := by
  rw [course.settings_eq, h.stage_eq]
  rfl

theorem loads (course : call.Course path p) {target : String} {found : Script}
    (kept : p.stage.kept target = some found) : call.Loads path target found := by
  rcases course.exists_loaded kept with hstart |
    ⟨before, event, choice, after, p', q, hpath, hvisit, hfollowed, content, hread, hholds⟩
  · rw [h.stage_eq] at hstart
    cases hstart
  · refine ⟨before, event, choice, after, p', q, hpath, hvisit, hfollowed, content, ?_, hholds⟩
    obtain ⟨cache, hstage, -⟩ := Play.exists_cache_of_present hvisit.present
    have hsettings : q.stage.settings = call.settings := by
      rw [hstage]
      exact h.settings_eq hvisit.course
    rw [Stage.fileOf, hsettings] at hread
    exact hread

theorem backdrop (course : call.Course path p) {background : String}
    (set : p.stage.background = some background) :
    ∃ image, p.stage.backdrop = some image ∧ call.Pictures path background image := by
  obtain ⟨image, himage⟩ := (course.bounded h.bounded_stage).loaded background set
  refine ⟨image, ?_, ?_⟩
  · rw [Stage.backdrop, set]
    exact himage
  · rcases course.exists_pictured himage with hstart | hpictured
    · rw [h.stage_eq] at hstart
      cases hstart
    · exact hpictured

theorem scenery_eq (course : call.Course path p) :
    Scenery.applyAll {} (path.map Prod.fst) = .ok p.stage.scenery := by
  have happlied := course.applyAll_scenery
  rw [h.stage_eq] at happlied
  exact happlied

theorem exhibits {after : List (Event × Bool)} (course : call.Course path p)
    (files : call.after.files = p.session.files) (split : path = before ++ (event, choice) :: after)
    (renderable : event.isRenderable = true) : ∃ p f c, call.Exhibits before event p f c := by
  obtain ⟨p', q, f, c, hvisit, hdraws, hread⟩ := course.exists_draws
    (Renderer.leavesFiles_scene call.settings) call.proper_out h.hung h.cachesProperly split renderable
  refine ⟨p', f, c, hvisit.course, hvisit.current, h.settings_eq hvisit.course,
    h.scenery_eq hvisit.course, fun background => h.backdrop hvisit.course, hdraws, ?_⟩
  rw [files]
  exact hread

end Opening

theorem told_of_course (course : call.Course path p) {message : String}
    (other : message.toList.head? ≠ some 'I')
    (after : call.after = { p.session with
      journal := p.session.journal.record "vn_play" .info message }) :
    ∃ level, call.options.logLevel = .text level ∧
      Play.Told call.options.chooseFirst (configured level call.before) path call.after := by
  obtain ⟨level, hlevel, hquiet⟩ := quiet_of_begin call.begins
  have htold := course.told (Renderer.quiet_scene call.settings)
  refine ⟨level, hlevel, ?_⟩
  rw [after]
  apply Play.Told.note _ (Journal.tellsPassage_of_message other)
  refine ⟨htold.thresholds.trans hquiet.thresholds, ?_, ?_⟩
  · rw [htold.passages, hquiet.passages, hquiet.thresholds]
  · rw [← hquiet.console]
    exact htold.answered

theorem exists_finished (call : Call) : ∃ script scripts path, call.Finished script scripts path := by
  obtain ⟨script, s, t, opening⟩ := call.exists_opening
  obtain ⟨path, p, hcourse, hend, hafter⟩ := call.exists_course
  have hfiles : call.after.files = p.session.files := by rw [hafter]
  have hroute := (hcourse.coherent_route opening.stage_eq).2
  have hhung := (hcourse.hung (Renderer.leavesFiles_scene call.settings) call.proper_out opening.hung
    opening.cachesProperly).1
  obtain ⟨level, hlevel, htold⟩ := told_of_course hcourse
    (by simp [String.toList_append]) hafter
  refine ⟨script, p.stage.kept, path, ?_⟩
  constructor
  case held => exact opening.held
  case loads => exact fun target found => opening.loads hcourse
  case route => exact ⟨p.stage.cursor.script, p.stage.cursor.index, hroute, hend⟩
  case listed =>
    rw [hfiles]
    exact hhung.list
  case drawn =>
    intro before event choice after hsplit hrenderable
    exact opening.exhibits hcourse hfiles hsplit hrenderable
  case passed =>
    have hpassages := htold.passages
    rw [thresholds_configured, passages_configured] at hpassages
    exact ⟨level, hlevel, hpassages⟩
  case answered =>
    have hanswered := htold.answered
    rw [console_configured] at hanswered
    exact hanswered

/-- As many drawings are listed as were made. -/
theorem Finished.frames_eq {scripts : String → Option Script} {names : List String} {n : Nat}
    (h : call.Finished script scripts path) (list : call.after.files.list call.out.text = .ok names)
    (last : Play.drawingName n ∈ names) (beyond : Play.drawingName (n + 1) ∉ names) :
    Play.frames path = n := by
  obtain ⟨_, hlist, hmem⟩ := h.listed
  cases list.symm.trans hlist
  have hlisted := fun k => hmem (Play.drawingName k) (Play.isName_drawingName k)
    (Play.isDrawing_drawingName k)
  obtain ⟨k, -, hle, hk⟩ := (hlisted n).1 last
  cases Play.drawingName_inj hk
  by_contra hne
  exact beyond ((hlisted (n + 1)).2 ⟨n + 1, by omega, by omega, rfl⟩)

end Call

/-- A call that returns the code zero has taken one path through the scripts, and the path tells what it
leaves. Its directory holds as many drawings as events on the path are drawn, and no others, whatever
was there before. Each of them was rendered at its event, in the scenery that the directives before that
event have made. The journal has a line for each custom directive on the path, if lines like that are
written. One prompt was answered for each jump with choices, in their order, and if the choices were made
beforehand nothing was read. -/
theorem finished_by_path {arguments : List String} {environment : List (String × String)}
    {budget : Nat} {s t : Session} (h : (run arguments environment budget).run s = .ok (.code 0) t) :
    ∃ (call : Call) (script : Script) (scripts : String → Option Script)
      (path : List (Event × Bool)), call.arguments = arguments ∧ call.environment = environment ∧
      call.budget = budget ∧ call.before = s ∧ call.after = t ∧
      call.Finished script scripts path := by
  obtain ⟨call, harguments, henvironment, hbudget, hbefore, hafter⟩ := Call.exists_of_run h
  obtain ⟨script, scripts, path, hfinished⟩ := call.exists_finished
  exact ⟨call, script, scripts, path, harguments, henvironment, hbudget, hbefore, hafter, hfinished⟩

/-- A working directory with a choice between two scripts, a drawing from before and answers to
prompts. -/
def crossroads : Session where
  files := { entries := [
    (["s.txt"], .file (.ofText "[A]\nhi\n@custom(sfx, boom)\n@jump(Left, Right, t.txt)\n[B]\nno\n")),
    (["t.txt"], .file (.ofText "@sprite(a, hide)\n[C]\nyes\n")),
    (["out"], .directory),
    (["out", "render_7.png"], .file (.ofText "old"))] }
  console := { input := "3\n1\nx".toList }

/-- At the crossroads the first choice is taken after a line that decides nothing. Three drawings are
left of the one that was there, and one directive has been passed over. -/
theorem finished_by_path_crossroads :
    ∃ (t : Session) (call : Call) (script : Script) (scripts : String → Option Script)
      (path : List (Event × Bool)),
      (run ["--script", "s.txt", "--out-dir", "out", "--no-cache"] [] 9).run crossroads =
        .ok (.code 0) t ∧
      call.before = crossroads ∧ call.after = t ∧ call.Finished script scripts path ∧
      Play.frames path = 3 ∧ t.console.input = ['x'] ∧
      t.journal.passages = ["[vn_play] INFO: Ignoring custom directive sfx(boom)"] := by
  have hcomputed : (finished? ((run ["--script", "s.txt", "--out-dir", "out", "--no-cache"]
      [] 9).run crossroads)).any (fun t => decide (t.console.input = ['x'] ∧
        t.journal.passages = ["[vn_play] INFO: Ignoring custom directive sfx(boom)"] ∧
        (t.files.list "out").toOption =
          some ["render_1.png", "render_2.png", "render_3.png"])) = true := by
    decide +kernel
  obtain ⟨t, ht, hleft⟩ := (Option.any_eq_true _ _).1 hcomputed
  obtain ⟨hinput, hpassages, hnames⟩ := of_decide_eq_true hleft
  obtain ⟨call, script, scripts, path, harguments, -, -, hbefore, hafter, hfinished⟩ :=
    finished_by_path (eq_ok_of_finished? ht)
  refine ⟨t, call, script, scripts, path, eq_ok_of_finished? ht, hbefore, hafter, hfinished, ?_,
    hinput, hpassages⟩
  have hout : call.out.text = "out" := by
    have hread : CommandLine.read ["--script", "s.txt", "--out-dir", "out", "--no-cache"] =
        .ok { script := some "s.txt", outDir := some "out", noCache := true } :=
      eq_ok_of_toOption (by decide +kernel)
    have hoptions := call.read
    rw [harguments, hread] at hoptions
    have hgiven : orElse (some "out") call.settings.renderDir = "out" := by simp [orElse]
    rw [Call.out, gallery, ← Except.ok.inj hoptions, hgiven]
    decide +kernel
  have hlist : call.after.files.list call.out.text =
      .ok ["render_1.png", "render_2.png", "render_3.png"] := by
    rw [hafter, hout]
    exact eq_ok_of_toOption hnames
  exact hfinished.frames_eq hlist (by decide +kernel) (by decide +kernel)

end VisualNovel.Program
