import VisualNovel.Player.Program
import VisualNovel.Proofs.Files.Location
import VisualNovel.Proofs.Settings.Reload

/-!
# What loading settings does

Settings are loaded from a file and from the environment. A variable that is set wins over the file, and
the file over the defaults. Loading fails with an error that names the file, whatever is wrong with it,
with two exceptions: the path is a text that names no file, or the bytes of the file break off the reading
of the document in a way that is not a mistake in its language.
-/
namespace VisualNovel

open VisualNovel.Text

namespace Datum

variable {key : String} {k v d : Datum} {es : Settings.Entries}

end Datum

namespace Settings

open Datum

variable {es fs : Entries} {key name : String} {environment : List (String × String)}
  {files : FileTree} {path : Option String} {s : Settings} {e : Failure}

/-! ## The environment -/

/-- The entry of a key that may have a value. -/
def entry (key : String) (value : Option Datum) : Entries :=
  (value.map fun v => (.text key, v)).toList

theorem Gives.congr {α : Type} {check : Datum → Checked α} {default : Option α} {a : α}
    (gives : Gives es key check default a) (same : value? key es = value? key fs) :
    Gives fs key check default a := by
  rw [Gives, ← same]
  exact gives

/-- What makes loading fail in a way that is not documented. -/
inductive Derails (files : FileTree) : Option String → Failure → Prop where
  /-- The path is a text that names no file. -/
  | name {path : String} {fault : NameFault}
      (unnameable : FileTree.nameFault? path.toList = some fault) :
      Derails files (some path) (.file (.unnameable fault))
  /-- The file breaks off the reading of the document, and not by a mistake in the language. -/
  | document {path : String} {content : Content} {f : Yaml.Failure}
      (read : files.read path = .ok content)
      (broken : Yaml.read documentDepth content.data = .error f) (foreign : f ≠ .malformed) :
      Derails files (some path) (.document f)

theorem Derails.assemble (h : Derails files path e) (environment : List (String × String)) :
    Settings.assemble files environment path = .error e := by
  cases h with
  | name unnameable =>
    simp only [Settings.assemble, readEntries, FileTree.read_of_nameFault unnameable]
    rfl
  | @document path content f read broken foreign =>
    simp only [Settings.assemble, readEntries, read, broken]
    cases f with
    | malformed => exact absurd rfl foreign
    | _ => rfl

end Settings

namespace Session

open Settings

end Session

end VisualNovel
