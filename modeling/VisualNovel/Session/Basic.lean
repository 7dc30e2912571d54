import VisualNovel.Journal.Record
import VisualNovel.Session.Failure

/-!
# Sessions

What the operations of the player share: the files, the journal, the console, the store of decoded
images and the count of drawings. An operation that fails keeps what it did to the session before it
failed.
-/
namespace VisualNovel

structure Console where
  /-- What has not been read yet. -/
  input : List Char := []
  /-- What has been written, in order. -/
  output : String := ""
deriving Inhabited

structure Session where
  files : FileTree := {}
  journal : Journal := {}
  console : Console := {}
  images : ImageStore := {}
  drawn : Nat := 0

abbrev Action := EStateM Failure Session

namespace Session

def note (module : String) (level : Journal.Level) (message : String) : Action Unit :=
  modify fun s => { s with journal := s.journal.record module level message }

def consult {α : Type} (look : FileTree → Except FileError α) : Action α := do
  match look (← get).files with
  | .ok a => return a
  | .error e => throw (.file e)

/-- Changes the files; a change that is refused changes nothing. -/
def alter (change : FileTree → Except FileError FileTree) : Action Unit := do
  let files ← consult change
  modify fun s => { s with files }

def attempt {α : Type} (r : Except Failure α) : Action α :=
  match r with
  | .ok a => pure a
  | .error e => throw e

def print (text : String) : Action Unit :=
  modify fun s => { s with console := { s.console with output := s.console.output ++ text } }

end Session

end VisualNovel
