import VisualNovel.Player.Program

/-!
# Command line

Runs the player on the working directory: its files are read before the play, and what the play
changed is written back after it. Choices that are not made beforehand are read from the input.
-/
namespace VisualNovel.CommandLine

/-- All that stands below a directory. -/
partial def below (loc : Location) (found : Array IO.FS.DirEntry) : IO (List (Location × Entry)) := do
  let mut all : List (Location × Entry) := []
  for e in found do
    let place := loc ++ [e.fileName]
    if ← e.path.isDir then
      all := all ++ (place, .directory) :: (← below place (← e.path.readDir))
    else
      all := all ++ [(place, .file (.bytes (← IO.FS.readBinFile e.path).toList))]
  return all

def workingFiles : IO FileTree := do
  let directory ← IO.currentDir
  let home := (Path.ofText directory.toString).parts
  return { home, entries := ← below home (← directory.readDir) }

def writeBack (before after : FileTree) : IO Unit := do
  for (loc, entry) in before.entries do
    if entry ≠ .directory ∧ (after.get? loc).isNone then
      IO.FS.removeFile (Path.text ⟨"/", loc⟩)
  for (loc, entry) in after.entries do
    let path := Path.text ⟨"/", loc⟩
    if before.get? loc ≠ some entry then
      match entry with
      | .directory => IO.FS.createDirAll path
      | .file content => IO.FS.writeBinFile path ⟨content.data.toArray⟩

/-- The variables of the environment that mean something to the player. -/
def variableNames : List String :=
  Settings.textVariables.map Prod.fst ++
    ["VN_CACHE_ENABLED", "VN_LOG_LEVEL", "VN_LOG_ASSETS", "VN_LOG_CONFIG", "VN_LOG_ENGINE",
      "VN_LOG_PARSER", "VN_LOG_RENDERER", "VN_LOG_RENDER_CACHE", "VN_LOG_VN_PLAY"]

def environment : IO (List (String × String)) :=
  variableNames.filterMapM fun name => do
    return (← IO.getEnv name).map fun value => (name, value)

/-- Whether a run with these arguments may ask for choices. -/
def asks (arguments : List String) : Bool :=
  match read arguments with
  | .ok o => o.chooseFirst.isNone
  | .error _ => false

/-- How many events a run may step over. -/
def budget : Nat := 1000000000000

def run (arguments : List String) : IO UInt32 := do
  let files ← workingFiles
  let settings ← environment
  let input ← if asks arguments then (← IO.getStdin).readToEnd else pure ""
  let thresholds : Journal.Thresholds := {}
  let session : Session := {
    files
    journal := { thresholds := thresholds.applyEnvironment settings }
    console := { input := input.toList } }
  let (code, message, session) :=
    match Program.run arguments settings budget session with
    | .ok (.code n) s | .ok (.exit n) s => (n, "", s)
    | .error e s => (1, e.message, s)
  IO.print session.console.output
  for line in session.journal.lines do
    IO.eprintln line
  if message ≠ "" then
    IO.eprintln message
  writeBack files session.files
  return code.toUInt32

end VisualNovel.CommandLine

def main (arguments : List String) : IO UInt32 :=
  VisualNovel.CommandLine.run arguments
