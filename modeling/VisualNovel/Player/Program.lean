import VisualNovel.Picture.Scene
import VisualNovel.Player.CommandLine
import VisualNovel.Player.Run
import VisualNovel.Settings.Load

/-!
# The program

The player as a whole: it reads its arguments and settings, clears the directory of the drawings and
plays the script. Failures that it knows are reported and end it with the code one.
-/
namespace VisualNovel.Program

open VisualNovel.Text

/-- How the program ends: with a code after its work, or at once on account of its arguments. -/
inductive Ending where
  | code (n : Nat)
  | exit (n : Nat)
deriving DecidableEq, Repr

def note (level : Journal.Level) (message : String) : Action Unit :=
  Session.note "vn_play" level message

def recover {α : Type} (known : Failure → Bool) (a : Action α) : Action (Except Failure α) := fun s =>
  match a s with
  | .ok x s => .ok (.ok x) s
  | .error e s => if known e then .ok (.error e) s else .error e s

def isSettings : Failure → Bool
  | .settings _ => true
  | _ => false

def isScript : Failure → Bool
  | .script _ => true
  | _ => false

/-- A text that is given and not empty, or another one. -/
def orElse (given : Option String) (other : String) : String :=
  match given with
  | some s => if s = "" then other else s
  | none => other

/-- Opens a stage on a script file. Images are looked for where the settings say. -/
def openStage (settings : Settings) (path : String) : Action Stage := do
  let script ← Session.loadScript (Path.ofText path)
  modify fun s => { s with images := { root := some (Path.ofText settings.baseDir) } }
  return Stage.opening settings script

/-- Plays a script that is open, and gives the number of drawings. -/
def perform (o : CommandLine.Options) (settings : Settings) (stage : Stage) (out : Path)
    (budget : Nat) : Action (Except Failure Nat) := do
  let stage ←
    if settings.cacheEnabled && !o.noCache then do
      let cache ← RenderCache.enable { directory := Path.ofText settings.cacheDir }
      pure { stage with cache := some cache }
    else pure stage
  Play.clearDrawings out
  recover Failure.isReported
    (Play.onStage stage (Play.play (.scene settings) out o.chooseFirst budget))

/-- The text that an option was given, if it was given something. -/
def given (lost : Failure) : CommandLine.Operand → Action String
  | .text s => return s
  | .nothing => throw lost

def loadSettings (o : CommandLine.Options) (environment : List (String × String)) :
    Action Settings := do
  let path ← o.config.mapM (given .lostPath)
  Session.loadSettings environment path

def playWith (o : CommandLine.Options) (environment : List (String × String)) (budget : Nat) :
    Action Nat := do
  let level ← given .lostLevel o.logLevel
  modify fun s => { s with
    journal := { s.journal with thresholds := s.journal.thresholds.configure level [] } }
  note .info "vnscript player"
  match ← recover isSettings (loadSettings o environment) with
  | .error e =>
    note .error e.message
    return 1
  | .ok settings =>
    let path := orElse o.script settings.scriptPath
    let out := Path.ofText (orElse o.outDir settings.renderDir)
    note .debug ("Engine initializing, searching for " ++ path)
    match ← recover isScript (openStage settings path) with
    | .error e =>
      note .error e.message
      note .error ("Cannot initialize " ++ path ++ ". Aborting.")
      return 1
    | .ok stage =>
      match ← perform o settings stage out budget with
      | .error e =>
        note .error ("Cannot continue loading script: " ++ e.message)
        return 1
      | .ok drawings =>
        note .info ("Rendered " ++ natText drawings ++ " frames to " ++ out.text)
        return 0

def run (arguments : List String) (environment : List (String × String)) (budget : Nat) :
    Action Ending := do
  match CommandLine.read arguments with
  | .ok o => return .code (← playWith o environment budget)
  | .error .help =>
    Session.print (String.join (CommandLine.helpText.map (· ++ "\n")))
    return .exit 0
  | .error (.misuse m) =>
    for line in CommandLine.report m do
      modify fun s => { s with journal := s.journal.write line }
    return .exit 2

end VisualNovel.Program
