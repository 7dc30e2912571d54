import VisualNovel.Journal.Level
import VisualNovel.Text.Line
import VisualNovel.Text.Template

/-!
# Journal records

A journal is a list of records under a set of thresholds. A record shows its module, its level and
its message; a message whose arguments do not fit its template is followed by the arguments.
-/
namespace VisualNovel

open VisualNovel.Text

structure Journal where
  thresholds : Journal.Thresholds := {}
  /-- What has been written, oldest first; each text ends a line. -/
  written : List String := []

namespace Journal

def write (j : Journal) (text : String) : Journal :=
  { j with written := j.written ++ [text] }

def lines (j : Journal) : List String :=
  j.written.flatMap fun r => (linesLF r.toList).map String.ofList

def clear (j : Journal) : Journal :=
  { j with written := [] }

def recordText (module : String) (level : Level) (message : String) : String :=
  "[" ++ module ++ "] " ++ level.name ++ ": " ++ message

/-- Writes a message if the level reaches the threshold of the module. -/
def record (j : Journal) (module : String) (level : Level) (message : String) : Journal :=
  if j.thresholds.enabled module level then j.write (recordText module level message) else j

/-- The message that a template and its arguments make where there is `room` for less than so many
characters. Without arguments the template is the message; arguments that do not fit are shown after the
template, if they can be written. -/
def message (room : Nat) (template : String) (args : List Argument) : Except Template.RangeError String :=
  if args.isEmpty then .ok template
  else
    match Template.fill room template args with
    | .ok s => .ok s
    | .error .mismatch =>
      if Argument.areWritable args then .ok (template ++ " " ++ Argument.tuple args)
      else .error .digits
    | .error (.range e) => .error e

def log (room : Nat) (j : Journal) (module : String) (level : Level) (template : String)
    (args : List Argument) : Except Template.RangeError Journal :=
  if j.thresholds.enabled module level then
    (message room template args).map fun m => j.write (recordText module level m)
  else .ok j

/-- Writes a message as an error and then, indented, the lines of an account of what went wrong. -/
def logTraced (room : Nat) (j : Journal) (module : String) (template : String)
    (args : List Argument) (account : List String) : Except Template.RangeError Journal :=
  (j.log room module .error template args).map fun j =>
    account.foldl (fun j line => j.record module .error ("  " ++ line)) j

end Journal

end VisualNovel
