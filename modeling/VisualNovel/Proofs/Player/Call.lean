import VisualNovel.Proofs.Player.Program
import VisualNovel.Proofs.Session.Quiet

/-!
# Calls

A call of the program that ends with the code zero: what it has been given, how its play begins, and
that the play comes to its end.
-/
namespace VisualNovel.Program

open CommandLine (Options)
open Session (IsQuiet Quiet)

/-- The session with the level that a call has been given. -/
def configured (level : String) (s : Session) : Session :=
  { s with journal := { s.journal with thresholds := s.journal.thresholds.configure level [] } }

theorem console_configured (level : String) (s : Session) : (configured level s).console = s.console := by
  simp only [configured]

theorem thresholds_configured (level : String) (s : Session) :
    (configured level s).journal.thresholds = s.journal.thresholds.configure level [] :=
  rfl

theorem passages_configured (level : String) (s : Session) :
    (configured level s).journal.passages = s.journal.passages := by
  simp only [configured, Journal.passages]

variable {settings : Settings} {stage : Stage} {s t : Session}

theorem quiet_given (lost : Failure) (operand : CommandLine.Operand) :
    IsQuiet (given lost operand) := by
  cases operand with
  | text s => exact .pure s
  | nothing => exact .throw lost

theorem quiet_loadSettings (o : Options) (environment : List (String × String)) :
    IsQuiet (loadSettings o environment) := by
  have hpath : IsQuiet (o.config.mapM (given .lostPath)) := by
    cases o.config with
    | none => exact .pure none
    | some operand => exact (quiet_given .lostPath operand).bind fun path => .pure (some path)
  exact hpath.bind fun path => Session.quiet_loadSettings environment path

theorem quiet_openStage (settings : Settings) (path : String) : IsQuiet (openStage settings path) := by
  apply (Session.quiet_loadScript _ _).bind
  intro script
  have himages : IsQuiet (modify fun s =>
      { s with images := { root := some (Path.ofText settings.baseDir) } }) :=
    fun _ => ⟨rfl, rfl, rfl⟩
  exact himages.bind fun _ => .pure _

theorem quiet_furnish (o : Options) (settings : Settings) (stage : Stage) :
    IsQuiet (furnish o settings stage) := by
  rw [furnish]
  cases caches o settings with
  | true => exact (RenderCache.quiet_enable _).bind fun _ => .pure _
  | false => exact .pure stage

theorem quiet_clearDrawings (out : Path) : IsQuiet (Play.clearDrawings out) := by
  apply (Session.quiet_alter _).bind
  intro _
  apply (Session.quiet_consult _).bind
  intro names
  have hround : ∀ name, IsQuiet (do
      Session.note "vn_play" .debug ("Removing file " ++ name)
      Session.alter fun files => files.remove (out.child name).text) := fun name =>
    (Session.quiet_note (Journal.tellsPassage_of_level (by decide))).bind fun _ =>
      Session.quiet_alter _
  have hloop := Quietly.forIn hround (names.filter Play.isDrawing)
  simp only [bind_assoc] at hloop
  exact hloop.bind fun _ => .pure ()

/-- What a call does before it plays is quiet, but for the level that it has been given. -/
theorem quiet_of_begin {o : Options} {environment : List (String × String)}
    (h : (begin o environment).run s = .ok (settings, stage) t) :
    ∃ level, o.logLevel = .text level ∧ Quiet (configured level s) t := by
  obtain ⟨⟨_, opened⟩, s₁, hprepare, h⟩ := exists_of_run_bind h
  obtain ⟨furnished, s₂, hfurnish, h⟩ := exists_of_run_bind h
  obtain ⟨_, s₃, hclear, h⟩ := exists_of_run_bind h
  cases h
  obtain ⟨level, s₄, hlevel, hprepare⟩ := exists_of_run_bind hprepare
  obtain ⟨_, s₅, hconfigure, hprepare⟩ := exists_of_run_bind hprepare
  obtain ⟨hgiven, rfl⟩ := eq_of_run_given hlevel
  cases hconfigure
  have hrest : IsQuiet (do
      note .info "vnscript player"
      let settings ← loadSettings o environment
      let path := orElse o.script settings.scriptPath
      note .debug ("Engine initializing, searching for " ++ path)
      return (settings, ← openStage settings path)) := by
    apply (Session.quiet_note (Journal.tellsPassage_of_message (by decide))).bind
    intro _
    apply (quiet_loadSettings o environment).bind
    intro settings
    apply (Session.quiet_note (Journal.tellsPassage_of_level (by decide))).bind
    intro _
    exact (quiet_openStage settings _).bind fun _ => .pure _
  have hopened := hrest.of_ok hprepare
  have hfurnished := (quiet_furnish o settings opened).of_ok hfurnish
  have hcleared := (quiet_clearDrawings _).of_ok hclear
  exact ⟨level, hgiven, hopened.trans (hfurnished.trans hcleared)⟩

/-- The session behind a run that ends with the code zero. -/
def finished? : EStateM.Result Failure Session Ending → Option Session
  | .ok (.code 0) s => some s
  | _ => none

theorem eq_ok_of_finished? {result : EStateM.Result Failure Session Ending} {s : Session}
    (h : finished? result = some s) : result = .ok (.code 0) s := by
  unfold finished? at h
  split at h
  · cases h
    rfl
  · cases h

theorem eq_ok_of_toOption {ε α : Type} {result : Except ε α} {a : α} (h : result.toOption = some a) :
    result = .ok a := by
  cases result with
  | error e => cases h
  | ok b =>
    cases h
    rfl

/-- A call of the program that ends with the code zero. -/
structure Call where
  arguments : List String
  environment : List (String × String)
  budget : Nat
  before : Session
  after : Session
  options : Options
  settings : Settings
  /-- The play before its first turn. -/
  start : Play
  read : CommandLine.read arguments = .ok options
  begins : (begin options environment).run before = .ok (settings, start.stage) start.session
  ends : (run arguments environment budget).run before = .ok (.code 0) after

namespace Call

def out (call : Call) : Path :=
  gallery call.options call.settings

def directory (call : Call) : Path :=
  Path.ofText call.settings.cacheDir

def drawing (call : Call) (n : Nat) : String :=
  (call.out.child (Play.drawingName n)).text

theorem proper_out (call : Call) : call.out.Proper :=
  Path.proper_ofText _

theorem exists_of_run {arguments : List String} {environment : List (String × String)} {budget : Nat}
    {s t : Session} (h : (run arguments environment budget).run s = .ok (.code 0) t) :
    ∃ call : Call, call.arguments = arguments ∧ call.environment = environment ∧
      call.budget = budget ∧ call.before = s ∧ call.after = t := by
  obtain ⟨options, read, hplay⟩ := Program.exists_of_run h
  obtain ⟨settings, stage, session, _, _, begins, -⟩ := exists_of_run_playWith hplay
  exact ⟨{ arguments, environment, budget, before := s, after := t, options, settings,
           start := ⟨session, stage⟩, read, begins, ends := h }, rfl, rfl, rfl, rfl, rfl⟩

theorem exists_play (call : Call) :
    ∃ n p, (Play.play (.scene call.settings) call.out call.options.chooseFirst call.budget).run
        call.start = .ok n p ∧
      call.after = { p.session with
        journal := p.session.journal.record "vn_play" .info
          ("Rendered " ++ Text.natText n ++ " frames to " ++ call.out.text) } := by
  obtain ⟨o, hread, hplay⟩ := Program.exists_of_run call.ends
  cases call.read.symm.trans hread
  obtain ⟨settings, stage, s, n, p, hbegins, hp, hafter⟩ := exists_of_run_playWith hplay
  obtain ⟨hresult, hs⟩ := EStateM.Result.ok.inj (call.begins.symm.trans hbegins)
  obtain ⟨hsettings, hstage⟩ := Prod.mk.inj hresult
  have hstart : call.start = ⟨s, stage⟩ := by rw [← hs, ← hstage]
  rw [hstart, out, hsettings]
  exact ⟨n, p, hp, hafter⟩

/-- Before the play of a call its stage has been opened and furnished, and the drawings have been
cleared. -/
structure Opening (call : Call) (script : Script) (s t : Session) : Prop where
  bounded : script.Bounded
  prepares : (prepare call.options call.environment).run call.before =
    .ok (call.settings, Stage.opening call.settings script) s
  furnishes : (furnish call.options call.settings (.opening call.settings script)).run s =
    .ok call.start.stage t
  clears : Play.cleared call.out t.files = .ok call.start.session.files
  files : s.files = call.before.files
  images : s.images = { root := some (Path.ofText call.settings.baseDir) }
  held : ∃ content,
    call.before.files.read (entry call.options call.settings).text = .ok content ∧
      Script.Holds content (entry call.options call.settings).text script
  start : call.start.session =
    { t with files := call.start.session.files, journal := call.start.session.journal }

theorem exists_opening (call : Call) : ∃ script s t, call.Opening script s t := by
  obtain ⟨opened, s, t, prepares, furnishes, clears, start⟩ := of_begin call.begins
  obtain ⟨script, bounded, rfl, files, images, held⟩ := of_prepare prepares
  exact ⟨script, s, t, bounded, prepares, furnishes, clears, files, images, held, start⟩

end Call

end VisualNovel.Program
