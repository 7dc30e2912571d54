import Mathlib.Data.Option.Basic
import VisualNovel.Proofs.Player.Abreast
import VisualNovel.Proofs.Player.Call
import VisualNovel.Proofs.Player.Transparency

/-!
# Successive calls

A call of the program serves what the call before it has left in the directory of the cache. A kept
drawing is found again by the frame alone, although the settings have a part in the picture as well. So
successive calls that lay pictures out alike and have the same images get the drawings that they would
make without the cache, while a call with another layout gets drawings that are out of date.
-/
namespace VisualNovel

open RenderCache (Truthful place)

namespace Play

/-- A play without a cache goes along with the play whose frames are known. -/
theorem escorts_abreast (x : Venue) {choose : Option Bool} {start : Play}
    (known : ∀ d, Shows (.scene x.settings) x.out choose start d → x.known d) :
    Escorts (.scene x.settings) x.out choose fun drawn p q =>
      Reaches (.scene x.settings) x.out choose start drawn p ∧ Abreast x p q where
  current := fun h => h.2.current_eq
  turn := by
    rintro drawn p q event ⟨hreaches, habreast⟩ hcurrent m p' hrun
    obtain ⟨n, q', hq, rfl, habreast'⟩ := habreast.turn (fun d hd => known d ⟨drawn, p, hreaches, hd⟩)
      choose drawn event m p' hrun
    exact ⟨_, q', hq, rfl, hreaches.turn hcurrent hrun, habreast'⟩

end Play

namespace Program

open CommandLine (Options)

namespace Call

variable {call first second : Call} {known : DialogueFrame → Prop}

/-- The play of the call shows a line of dialogue. -/
def Shows (call : Call) : DialogueFrame → Prop :=
  Play.Shows (.scene call.settings) call.out call.options.chooseFirst call.start

/-- The same call with the argument that turns the cache off leaves a session. -/
def LeavesUncached (call : Call) (s : Session) : Prop :=
  (run ("--no-cache" :: call.arguments) call.environment call.budget).run call.before =
    .ok (.code 0) s

/-- The second call has the directory of the cache as the first one has left it, which has found it
empty. All images of the first one are to be had, and no two frames that are shown and that differ have
one fingerprint. -/
structure Follows (second first : Call) : Prop where
  vacant : RenderCache.Run.Vacant first.settings.cacheDir first.before
  place : place second.before.files.home second.directory =
    place first.after.files.home first.directory
  directory : second.before.files.isDirectory second.directory.text = true
  files : ∀ name,
    second.before.files.get? (RenderCache.place second.before.files.home second.directory ++ [name]) =
      first.after.files.get? (RenderCache.place first.after.files.home first.directory ++ [name])
  images : ∀ path image, first.start.session.Gives path image →
    second.start.session.Gives path image
  distinct : ∀ d e n, first.Shows d ∨ second.Shows d → first.Shows e ∨ second.Shows e →
    d.fingerprint? = some n → e.fingerprint? = some n →
      Fingerprint.encode d = Fingerprint.encode e

/-- Where the script of a call has nothing but dialogue, the play shows its lines in the colors of the
settings. -/
theorem exists_of_shows {d : DialogueFrame} (h : call.Shows d)
    (dialogues : ∀ e ∈ call.start.stage.cursor.script.events,
      ∃ speaker lines, e = .dialogue speaker lines) :
    ∃ speaker lines, .dialogue speaker lines ∈ call.start.stage.cursor.script.events ∧
      d = { speaker, text := Event.dialogueText lines, textColor := call.settings.textColor,
            boxColor := call.settings.boxColor } := by
  obtain ⟨script, s, t, opening⟩ := call.exists_opening
  obtain ⟨-, -, -, hstage⟩ := of_furnish opening.furnishes
  have hstart : call.start = ⟨call.start.session,
      { Stage.opening call.settings script with cache := call.start.stage.cache }⟩ := by
    rw [← hstage]
  obtain ⟨drawn, q, hreaches, hframe⟩ := h
  rw [hstage] at dialogues ⊢
  rw [hstart] at hreaches
  exact Play.exists_of_frame_of_dialogues dialogues hreaches hframe

theorem not_gives {path : String} {image : Surface}
    (plain : ∀ l c, call.before.files.get? l = some (.file c) → ∀ name, decodeImage? name c = none) :
    ¬call.start.session.Gives path image := by
  obtain ⟨script, s, t, opening⟩ := call.exists_opening
  obtain ⟨hadds, ht, -, -⟩ := of_furnish opening.furnishes
  obtain ⟨-, hget, -⟩ := Play.of_cleared opening.clears
  rw [Session.gives_iff]
  intro h
  have himages : call.start.session.images = { root := some (Path.ofText call.settings.baseDir) } := by
    rw [opening.start, ht]
    exact opening.images
  rw [himages, ImageStore.find] at h
  obtain ⟨content, hread, hdecoded⟩ := ImageStore.readImage_eq_ok_iff.1 h
  obtain ⟨l, -, hfile, -⟩ := FileTree.read_eq_ok_iff.1 hread
  rcases hget l _ hfile with hbefore | ⟨hdirectory, -⟩
  · rcases hadds.get? l with hsame | ⟨-, hnew, -⟩
    · rw [hsame, opening.files] at hbefore
      rw [plain l content hbefore] at hdecoded
      cases hdecoded
    · cases hbefore.symm.trans hnew
  · cases hdirectory

/-- Where the play of the call begins and where its drawings go. -/
def venue (call : Call) (known : DialogueFrame → Prop)
    (distinct : ∀ {d e n}, known d → known e → d.fingerprint? = some n → e.fingerprint? = some n →
      Fingerprint.encode d = Fingerprint.encode e) : Venue where
  start := call.start.session
  settings := call.settings
  out := call.out
  directory := call.directory
  known := known
  out_proper := Path.proper_ofText _
  directory_proper := Path.proper_ofText _
  distinct := distinct

section

variable {distinct : ∀ {d e n}, known d → known e → d.fingerprint? = some n →
    e.fingerprint? = some n → Fingerprint.encode d = Fingerprint.encode e}
  (truthful : Truthful (call.venue known distinct).genuine
    (place call.before.files.home call.directory) call.before.files)

include truthful

/-- The play of a call whose cache holds nothing but genuine drawings begins abreast of a play without
a cache. If the directory of the cache has been there before, this is the play that the call has without
the cache. -/
theorem exists_abreast :
    ∃ opened : Stage,
      (∀ journal, Play.Abreast (call.venue known distinct) call.start
        ⟨{ call.start.session with journal }, opened⟩) ∧
      (call.before.files.isDirectory call.directory.text = true → ∃ journal,
        (begin call.options.uncached call.environment).run call.before =
          .ok (call.settings, opened) { call.start.session with journal }) := by
  obtain ⟨script, s, t, opening⟩ := call.exists_opening
  rw [← opening.files] at truthful
  obtain ⟨hadds, ht, hkept, hstage⟩ := of_furnish opening.furnishes
  obtain ⟨hhome, hget, -⟩ := Play.of_cleared opening.clears
  -- Neither the directories that are made nor the drawings that are removed matter to the cache.
  have hstart := (truthful.addsDirectories hadds).of_directories hget
  rw [← hadds.home, ← hhome] at hstart
  have hclear : ∀ n c, call.start.session.files.get? (FileTree.destination
      call.start.session.files.home call.out.text ++ [Play.drawingName n]) ≠ some (.file c) := by
    intro n c
    rw [Play.get?_of_cleared call.proper_out opening.clears (Play.isName_drawingName n)
      (Play.isDrawing_drawingName n)]
    simp
  refine ⟨.opening call.settings script, fun journal => ?_, fun hthere => ?_⟩
  · exact ⟨Venue.trails_start (call.venue known distinct) hclear hstart journal, hstage,
      fun c hc => finds_of_furnish opening.furnishes rfl truthful hc, rfl,
      Stage.bounded_opening call.settings opening.bounded, nofun⟩
  · rw [← opening.files] at hthere
    have hclears := opening.clears
    rw [hkept hthere] at hclears
    obtain ⟨journal, hbegin⟩ := exists_run_begin_uncached opening.prepares hclears
    refine ⟨journal, hbegin.trans ?_⟩
    rw [opening.start, ht]

variable (shown : ∀ d, call.Shows d → known d)

include shown

/-- A play without a cache that begins abreast of the play of a call ends abreast of it. -/
theorem exists_ends_abreast :
    ∃ opened : Stage,
      (∀ journal, ∃ n p q,
        (Play.play (.scene call.settings) call.out call.options.chooseFirst call.budget).run
          ⟨{ call.start.session with journal }, opened⟩ = .ok n q ∧
        call.after.files = p.session.files ∧ Play.Abreast (call.venue known distinct) p q) ∧
      (call.before.files.isDirectory call.directory.text = true → ∃ journal,
        (begin call.options.uncached call.environment).run call.before =
          .ok (call.settings, opened) { call.start.session with journal }) := by
  obtain ⟨opened, habreast, hbegins⟩ := exists_abreast truthful
  obtain ⟨n, p, hplay, hafter⟩ := call.exists_play
  have hfiles : call.after.files = p.session.files := by rw [hafter]
  refine ⟨opened, fun journal => ?_, hbegins⟩
  have hescorts := Play.escorts_abreast (call.venue known distinct) shown
  obtain ⟨_, q, hq, rfl, -, hend⟩ :=
    hescorts.playFrom call.budget ⟨.start, habreast journal⟩ n p hplay
  exact ⟨_, p, q, hq, hfiles, hend⟩

/-- A call leaves nothing but genuine drawings. -/
theorem truthful_after : Truthful (call.venue known distinct).genuine
    (place call.after.files.home call.directory) call.after.files := by
  obtain ⟨opened, hends, -⟩ := exists_ends_abreast truthful shown
  obtain ⟨n, p, q, -, hafter, habreast⟩ := hends {}
  rw [hafter, habreast.session.left_home]
  exact habreast.session.truthful

/-- Where the directory of the cache has been there before, the call makes the numbered drawings that
it makes without the cache. -/
theorem exists_leavesUncached (there : call.before.files.isDirectory call.directory.text = true) :
    ∃ s, call.LeavesUncached s ∧
      ∀ n c, call.after.files.read (call.drawing n) = .ok c ↔ s.files.read (call.drawing n) = .ok c := by
  obtain ⟨opened, hends, hbegins⟩ := exists_ends_abreast truthful shown
  obtain ⟨journal, hbegin⟩ := hbegins there
  obtain ⟨m, p, q, hq, hafter, habreast⟩ := hends journal
  obtain ⟨journal', hplayWith⟩ := exists_run_playWith hbegin hq
  refine ⟨_, run_of_run_playWith (CommandLine.read_no_cache call.read) hplayWith, fun n c => ?_⟩
  rw [hafter]
  exact habreast.session.read_iff n c

end

end Call

/-- Where the second of two successive calls lays pictures out like the first one, it leaves the
numbered drawings that it would leave without the cache. -/
theorem successive_drawings {first second : Call} (follows : second.Follows first)
    (screen : second.settings.screen = first.settings.screen)
    (box : second.settings.textBox = first.settings.textBox)
    (font : second.settings.font = first.settings.font) :
    ∃ s, second.LeavesUncached s ∧
      ∀ n c, second.after.files.read (second.drawing n) = .ok c ↔
        s.files.read (second.drawing n) = .ok c := by
  let known : DialogueFrame → Prop := fun d => first.Shows d ∨ second.Shows d
  have hdistinct : ∀ {d e n}, known d → known e → d.fingerprint? = some n →
      e.fingerprint? = some n → Fingerprint.encode d = Fingerprint.encode e :=
    fun hd he => follows.distinct _ _ _ hd he
  have hempty : Truthful (first.venue known hdistinct).genuine
      (place first.before.files.home first.directory) first.before.files :=
    RenderCache.truthful_of_vacant fun s => follows.vacant _ s List.prefix_rfl
  have hleft := Call.truthful_after hempty fun d hd => Or.inl hd
  have hwithin : first.start.session.offer.Within second.start.session.offer :=
    fun path image himage =>
      Session.gives_iff.1 (follows.images path image (Session.gives_iff.2 himage))
  -- What the first call has kept is genuine for its layout and its images, so for those of the second.
  have hinherited : Truthful (second.venue known hdistinct).genuine
      (place second.before.files.home second.directory) second.before.files := by
    rw [follows.place]
    apply Truthful.of_get? (t := first.after.files)
    · exact hleft.imp fun n c hgenuine => hgenuine.of_within hwithin screen.symm box.symm font.symm
    · intro name e he
      rw [← follows.place, follows.files] at he
      exact Or.inl he
  exact Call.exists_leavesUncached hinherited (fun d hd => Or.inr hd) follows.directory

/-- A working directory with a letter, and with settings that ask for a small screen. -/
def letter : Session where
  files := { entries := [(["s.txt"], .file (.ofText "[A]\nhi\n")),
    (["c.yaml"], .file (.ofText "screen:\n  width: 320\n  height: 200\n"))] }

/-- The settings of a call, the directory of its drawings and the events of its script. -/
def opens? (arguments : List String) (s : Session) : Option (Settings × Path × List Event) :=
  match CommandLine.read arguments with
  | .error _ => none
  | .ok o =>
    match (begin o []).run s with
    | .error _ _ => none
    | .ok (settings, stage) _ =>
      some (settings, gallery o settings, stage.cursor.script.events)

theorem Call.opens?_eq (call : Call) (environment : call.environment = []) :
    opens? call.arguments call.before =
      some (call.settings, call.out, call.start.stage.cursor.script.events) := by
  have hbegins := call.begins
  rw [environment] at hbegins
  simp only [opens?, call.read, hbegins]
  rfl

/-- The drawings of a call that follows the one that shows the letter, with the cache and without it. -/
def pictures? (arguments : List String) (settings : Settings) : Option (Content × Content) := do
  let place := Path.ofText "resources/render"
  guard (opens? ["--script", "s.txt"] letter = some ({}, place, [.dialogue "A" ["hi"]]))
  let s ← finished? ((run ["--script", "s.txt"] [] 2).run letter)
  guard (s.files.isDirectory "resources/render/.cache" = true)
  guard (opens? arguments s = some (settings, place, [.dialogue "A" ["hi"]]))
  let t ← finished? ((run arguments [] 2).run s)
  let u ← finished? ((run ("--no-cache" :: arguments) [] 2).run s)
  return (← (t.files.read "resources/render/render_1.png").toOption,
    ← (u.files.read "resources/render/render_1.png").toOption)

theorem vacant_letter : RenderCache.Run.Vacant "resources/render/.cache" letter := by
  have hplace : place letter.files.home (Path.ofText "resources/render/.cache") =
      ["resources", "render", ".cache"] := by decide +kernel
  intro l name hl
  rw [hplace] at hl
  obtain ⟨below, rfl⟩ := hl
  rfl

theorem decodeImage?_letter {l : Location} {c : Content} (h : letter.files.get? l = some (.file c))
    (name : String) : decodeImage? name c = none := by
  have hmem := FileTree.exists_mem_of_get?_file h
  simp only [letter, List.mem_cons, Prod.mk.injEq, Entry.file.injEq, List.not_mem_nil, or_false] at hmem
  rw [← Option.isNone_iff_eq_none, ← Option.not_isSome, isSome_decodeImage? name ""]
  rcases hmem with ⟨-, rfl⟩ | ⟨-, rfl⟩
  · decide +kernel
  · decide +kernel

namespace Call

variable {first second : Call}

theorem eq_greeting (call : Call) {d : DialogueFrame}
    (events : call.start.stage.cursor.script.events = [.dialogue "A" ["hi"]])
    (textColor : call.settings.textColor = .white) (boxColor : call.settings.boxColor = .shade)
    (h : call.Shows d) : d = Play.greeting := by
  obtain ⟨speaker, lines, hmem, rfl⟩ := call.exists_of_shows h (by simp [events])
  obtain ⟨rfl, rfl⟩ : speaker = "A" ∧ lines = ["hi"] := by simpa [events] using hmem
  rw [textColor, boxColor]
  rfl

theorem follows_of_greeting (letter : first.before = letter) (behind : second.before = first.after)
    (vacant : first.settings.cacheDir = "resources/render/.cache")
    (shared : second.settings.cacheDir = "resources/render/.cache")
    (directory : first.after.files.isDirectory "resources/render/.cache" = true)
    (greeting : ∀ d, first.Shows d ∨ second.Shows d → d = Play.greeting) : second.Follows first := by
  have hdirectory : second.directory = first.directory := by
    rw [Call.directory, Call.directory, shared, vacant]
  refine ⟨?_, ?_, ?_, fun name => ?_, fun path image hgives => ?_, fun d e n hd he _ _ => ?_⟩
  · rw [vacant, letter]
    exact vacant_letter
  · rw [behind, hdirectory]
  · rw [behind, Call.directory, shared]
    exact directory
  · rw [behind, hdirectory]
  · refine absurd hgives (first.not_gives fun l c hfile => decodeImage?_letter (l := l) ?_)
    rw [← letter]
    exact hfile
  · rw [greeting d hd, greeting e he]

end Call

/-- What has been computed are the drawings of a call that follows the first one. -/
theorem exists_follows {arguments : List String} {settings : Settings} {c d : Content}
    (h : pictures? arguments settings = some (c, d))
    (cacheDir : settings.cacheDir = "resources/render/.cache") (textColor : settings.textColor = .white)
    (boxColor : settings.boxColor = .shade) :
    ∃ (first second : Call) (u : Session), first.arguments = ["--script", "s.txt"] ∧
      first.before = letter ∧ second.arguments = arguments ∧ second.before = first.after ∧
      first.settings = {} ∧ second.settings = settings ∧ second.Follows first ∧
      second.LeavesUncached u ∧ second.after.files.read (second.drawing 1) = .ok c ∧
      u.files.read (second.drawing 1) = .ok d := by
  simp only [pictures?, Option.bind_eq_bind, Option.bind_eq_some_iff, Option.guard_eq_some',
    Option.pure_def, Option.some.injEq, Prod.mk.injEq] at h
  obtain ⟨-, hopens, s, hs, -, hdirectory, -, hopens', t, ht, u, hu, c', hc, d', hd, rfl, rfl⟩ := h
  obtain ⟨first, hfirst, hnone, -, hletter, hafter⟩ := Call.exists_of_run (eq_ok_of_finished? hs)
  obtain ⟨second, hsecond, hnone', hbudget, hbefore, hafter'⟩ :=
    Call.exists_of_run (eq_ok_of_finished? ht)
  have hopening := first.opens?_eq hnone
  have hopening' := second.opens?_eq hnone'
  rw [hfirst, hletter, hopens] at hopening
  rw [hsecond, hbefore, hopens'] at hopening'
  simp only [Option.some.injEq, Prod.mk.injEq] at hopening hopening'
  obtain ⟨hsettings, -, hevents⟩ := hopening
  obtain ⟨hsettings', hout, hevents'⟩ := hopening'
  have hgreeting : ∀ d, first.Shows d ∨ second.Shows d → d = Play.greeting := by
    rintro d (hd | hd)
    · exact first.eq_greeting hevents.symm (by rw [← hsettings]) (by rw [← hsettings]) hd
    · exact second.eq_greeting hevents'.symm (by rw [← hsettings', textColor])
        (by rw [← hsettings', boxColor]) hd
  have hfollows : second.Follows first := Call.follows_of_greeting hletter (hbefore.trans hafter.symm)
    (by rw [← hsettings]) (by rw [← hsettings', cacheDir]) (by rw [hafter, hdirectory]) hgreeting
  have hdrawing : second.drawing 1 = "resources/render/render_1.png" := by
    rw [Call.drawing, ← hout]
    decide +kernel
  have huncached : second.LeavesUncached u := by
    rw [Call.LeavesUncached, hsecond, hnone', hbudget, hbefore]
    exact eq_ok_of_finished? hu
  refine ⟨first, second, u, hfirst, hletter, hsecond, hbefore.trans hafter.symm, hsettings.symm,
    hsettings'.symm, hfollows, huncached, ?_, ?_⟩
  · rw [hdrawing, hafter']
    exact eq_ok_of_toOption hc
  · rw [hdrawing]
    exact eq_ok_of_toOption hd

/-- The letter is shown again as it is shown without the cache. -/
theorem successive_drawings_letter :
    ∃ (first second : Call) (s : Session) (c : Content), second.Follows first ∧
      second.settings.screen = first.settings.screen ∧
      second.settings.textBox = first.settings.textBox ∧
      second.settings.font = first.settings.font ∧ second.LeavesUncached s ∧
      second.after.files.read (second.drawing 1) = .ok c ∧
      s.files.read (second.drawing 1) = .ok c := by
  obtain ⟨⟨c, d⟩, hpictures⟩ : ∃ pair, pictures? ["--script", "s.txt"] {} = some pair :=
    Option.isSome_iff_exists.1 (by decide +kernel)
  obtain ⟨first, second, -, -, -, -, -, hsettings, hsettings', hfollows, -, hc, -⟩ :=
    exists_follows hpictures rfl rfl rfl
  have hsame : second.settings = first.settings := hsettings'.trans hsettings.symm
  obtain ⟨s, hs, hdrawings⟩ := successive_drawings hfollows (congrArg Settings.screen hsame)
    (congrArg Settings.textBox hsame) (congrArg Settings.font hsame)
  exact ⟨first, second, s, c, hfollows, congrArg Settings.screen hsame,
    congrArg Settings.textBox hsame, congrArg Settings.font hsame, hs, hc, (hdrawings 1 c).1 hc⟩

/-- A call that asks for another screen gets the drawing that the call before it has kept, not the one
that it would make. -/
theorem exists_stale_drawing :
    ∃ (first second : Call) (s : Session) (c : Content), first.before = letter ∧
      first.arguments = ["--script", "s.txt"] ∧ second.before = first.after ∧
      second.arguments = ["--script", "s.txt", "--config", "c.yaml"] ∧ second.Follows first ∧
      second.LeavesUncached s ∧ second.after.files.read (second.drawing 1) = .ok c ∧
      s.files.read (second.drawing 1) ≠ .ok c := by
  have hcomputed : (pictures? ["--script", "s.txt", "--config", "c.yaml"]
      { screen := ⟨320, 200⟩ }).any (fun pair => decide (pair.1 ≠ pair.2)) = true := by
    decide +kernel
  obtain ⟨⟨c, d⟩, hpictures, hne⟩ := (Option.any_eq_true _ _).1 hcomputed
  obtain ⟨first, second, s, hfirst, hletter, hsecond, hbehind, -, -, hfollows, hs, hc, hd⟩ :=
    exists_follows hpictures rfl rfl rfl
  refine ⟨first, second, s, c, hletter, hfirst, hbehind, hsecond, hfollows, hs, hc, ?_⟩
  rw [hd]
  intro h
  exact of_decide_eq_true hne (Except.ok.inj h).symm

end Program

end VisualNovel
