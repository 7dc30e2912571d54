import VisualNovel.Text.Field

/-!
# Paths

A path is a root mark and a list of parts. Reading a path drops empty parts and single dots; double
dots stay, since what they mean depends on the files.
-/
namespace VisualNovel

open VisualNovel.Text

structure Path where
  /-- Empty for a relative path, otherwise one or two slashes. -/
  root : String := ""
  parts : List String := []
deriving DecidableEq, Inhabited, Repr

namespace Path

/-- The root mark of a text: exactly two slashes in front are kept, any other number is one. -/
def rootOf (s : List Char) : String :=
  match (s.takeWhile (· == '/')).length with
  | 0 => ""
  | 2 => "//"
  | _ => "/"

def partsOf (s : List Char) : List String :=
  ((splitAll '/' s).filter fun p => p ≠ [] && p ≠ ['.']).map String.ofList

def ofText (s : String) : Path :=
  ⟨rootOf s.toList, partsOf s.toList⟩

/-- The text of a path; the empty relative path is a dot. -/
def text (p : Path) : String :=
  if p.root = "" && p.parts.isEmpty then "." else p.root ++ String.intercalate "/" p.parts

def isAbsolute (p : Path) : Bool :=
  p.root ≠ ""

/-- The second path as seen from the first; an absolute path stays what it is. -/
def join (p q : Path) : Path :=
  if q.isAbsolute then q else ⟨p.root, p.parts ++ q.parts⟩

def child (p : Path) (name : String) : Path :=
  p.join (ofText name)

def parent (p : Path) : Path :=
  ⟨p.root, p.parts.dropLast⟩

def name (p : Path) : String :=
  p.parts.getLast?.getD ""

/-- The last part without its extension; a dot at either end of it opens no extension. -/
def stem (p : Path) : String :=
  match splitLast '.' p.name.toList with
  | some (a :: as, _ :: _) => String.ofList (a :: as)
  | _ => p.name

end Path

end VisualNovel
