import VisualNovel.Script.Parse
import VisualNovel.Session.Basic

/-!
# Loading scripts

A script file is text in UTF-8 in which CRLF and a lone CR end a line like LF.
-/
namespace VisualNovel

open VisualNovel.Text

def Script.readSource (files : FileTree) (path : String) : Except Failure (List Char) :=
  let refuse (p : ReadProblem) : Except Failure (List Char) :=
    .error (.script (.unreadable path p))
  match files.read path with
  | .ok content =>
    match Utf8.decode content.data with
    | .ok s => .ok (unifyLineEnds s)
    | .error e => refuse (.encoding e)
  | .error (.unnameable f) => .error (.file (.unnameable f))
  | .error (.refused .noEntry _) => .error (.script (.notFound path))
  | .error e => refuse (.file e)

def Session.parseScript (source : List Char) (name : String) : Action Script := do
  match Script.parseChars source name with
  | .error e => throw (Failure.ofParse e)
  | .ok script =>
    Session.note "parser" .trace
      ("Parsed " ++ name ++ ": " ++ natText script.events.length ++ " events")
    return script

/-- Reads and parses a script file, which is its own name unless another one is given. -/
def Session.loadScript (path : Path) (name : Option String := none) : Action Script := do
  let source ← Session.attempt (Script.readSource (← get).files path.text)
  Session.note "parser" .debug ("Loaded script " ++ path.text)
  Session.parseScript source (name.getD path.text)

end VisualNovel
