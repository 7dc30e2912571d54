import VisualNovel.Files.Path
import VisualNovel.Keyed
import VisualNovel.Picture.Account
import VisualNovel.Text.Surrogate
import VisualNovel.Text.Utf8

/-!
# File tree

The files and directories that a run sees. Entries are found by their location, the list of parts
from the root; every directory above the working directory exists. Operations take the text of a
path, walk it part by part from the root or from the working directory, and fail with the cause that
a file system gives.
-/
namespace VisualNovel

open VisualNovel.Text

/-- What a file holds: bytes, or a picture that was saved in it. -/
inductive Content where
  | bytes (data : List UInt8)
  | drawing (picture : Surface)
deriving DecidableEq, Inhabited, Repr

def Content.ofText (s : String) : Content :=
  .bytes (Utf8.encodeString s)

/-- The bytes of a file; a picture is kept as its account. -/
def Content.data : Content → List UInt8
  | bytes data => data
  | drawing picture => Utf8.encodeString picture.account

inductive Entry where
  | file (content : Content)
  | directory
deriving DecidableEq, Inhabited, Repr

/-- Why the file system refuses an operation. -/
inductive Fault where
  | noEntry
  | exists
  | notDirectory
  | isDirectory
  | nameTooLong
deriving DecidableEq, Repr

namespace Fault

def number : Fault → Nat
  | noEntry => 2
  | «exists» => 17
  | notDirectory => 20
  | isDirectory => 21
  | nameTooLong => 36

def reason : Fault → String
  | noEntry => "No such file or directory"
  | «exists» => "File exists"
  | notDirectory => "Not a directory"
  | isDirectory => "Is a directory"
  | nameTooLong => "File name too long"

end Fault

/-- A file given by a text as it stands, or by a path. -/
inductive FileName where
  | plain (text : String)
  | path (p : Path)
deriving DecidableEq, Repr

namespace FileName

def text : FileName → String
  | plain s => s
  | path p => p.text

def shown : FileName → String
  | plain s => quotedPoints s
  | path p => "PosixPath(" ++ quotedPoints p.text ++ ")"

end FileName

/-- Why a text cannot name any file. -/
inductive NameFault where
  | nul
  | surrogates (u : Unencodable)
deriving DecidableEq, Repr

def NameFault.message : NameFault → String
  | .nul => "embedded null byte"
  | .surrogates u => u.message

inductive FileError where
  | refused (fault : Fault) (path : String)
  | unnameable (fault : NameFault)
  | sameFile (source target : FileName)
  | noDirectory (path : String)
deriving DecidableEq, Repr

def FileError.message : FileError → String
  | .refused fault path =>
    "[Errno " ++ natText fault.number ++ "] " ++ fault.reason ++ ": " ++ quotedPoints path
  | .unnameable fault => fault.message
  | .sameFile source target => source.shown ++ " and " ++ target.shown ++ " are the same file"
  | .noDirectory path => "Directory does not exist: " ++ path

abbrev Location := List String

structure FileTree where
  /-- The working directory. -/
  home : Location := []
  /-- All entries below the root except the directories above the working directory, in the order
  of their creation. -/
  entries : List (Location × Entry) := []
deriving Inhabited

namespace FileTree

def get? (t : FileTree) (loc : Location) : Option Entry :=
  if loc.isPrefixOf t.home then some .directory else t.entries.lookup loc

def longestName : Nat := 255

def longestPath : Nat := 4095

/-- Walks down from a location. Every part needs a directory to be looked up in; what the last part
names need not exist. -/
def walk (t : FileTree) (loc : Location) : List (List Char) → Except Fault Location
  | [] => .ok loc
  | part :: rest =>
    match t.get? loc with
    | none => .error .noEntry
    | some (.file _) => .error .notDirectory
    | some .directory =>
      if longestName < (Utf8.encode part).length then .error .nameTooLong
      else if part = ['.'] then walk t loc rest
      else if part = ['.', '.'] then walk t loc.dropLast rest
      else walk t (loc ++ [String.ofList part]) rest

/-- Whether a path text ends in a slash, so that it can only name a directory. -/
def endsInSlash (path : String) : Bool :=
  path.toList.getLast? = some '/'

/-- What keeps a text from naming a file. -/
def nameFault? (s : List Char) : Option NameFault :=
  match unencodable? s with
  | some u => some (.surrogates u)
  | none => if s.contains (Char.ofNat 0) then some .nul else none

def locate (t : FileTree) (path : String) : Except FileError Location :=
  let s := path.toList
  let refuse (f : Fault) : FileError := .refused f path
  match nameFault? s with
  | some f => .error (.unnameable f)
  | none =>
    if s = [] then .error (refuse .noEntry)
    else if longestPath < (Utf8.encode s).length then .error (refuse .nameTooLong)
    else
      let start := if s.head? = some '/' then [] else t.home
      (t.walk start ((splitAll '/' s).filter (· ≠ []))).mapError refuse

/-- What a path text names: its location and what stands there. -/
def find (t : FileTree) (path : String) : Except FileError (Location × Entry) := do
  let loc ← t.locate path
  match t.get? loc with
  | none => .error (.refused .noEntry path)
  | some (.file c) =>
    if endsInSlash path then .error (.refused .notDirectory path) else .ok (loc, .file c)
  | some .directory => .ok (loc, .directory)

/-- Puts an entry at a location; a new one comes last. -/
def put (t : FileTree) (loc : Location) (e : Entry) : FileTree :=
  if t.entries.any fun p => p.1 == loc then
    { t with entries := t.entries.map fun p => if p.1 == loc then (loc, e) else p }
  else { t with entries := t.entries ++ [(loc, e)] }

/-- What stands at a location after an entry was put at one that is not above the working
directory. -/
theorem get?_put (t : FileTree) (loc other : Location) (e : Entry)
    (below : loc.isPrefixOf t.home = false) :
    (t.put loc e).get? other = if other = loc then some e else t.get? other := by
  unfold put get?
  cases h : t.entries.any fun p => p.1 == loc with
  | true =>
    simp only [if_true, Keyed.lookup_map_replace loc other e t.entries h]
    by_cases ho : other = loc
    · simp [ho, below]
    · simp [ho]
  | false =>
    simp only [Bool.false_eq_true, if_false, List.lookup_append]
    by_cases ho : other = loc
    · simp [ho, below, Keyed.lookup_eq_none_of_any loc t.entries h]
    · have : (other == loc) = false := by simpa using ho
      simp [ho, List.lookup_cons, this]

/-- Drops a location and everything below it. -/
def drop (t : FileTree) (loc : Location) : FileTree :=
  { t with entries := t.entries.filter fun p => !loc.isPrefixOf p.1 }

def read (t : FileTree) (path : String) : Except FileError Content := do
  match ← t.find path with
  | (_, .file c) => .ok c
  | (_, .directory) => .error (.refused .isDirectory path)

/-- Writes a file, new or not, in a directory that exists. -/
def write (t : FileTree) (path : String) (c : Content) : Except FileError FileTree := do
  let loc ← t.locate path
  if endsInSlash path || t.get? loc = some .directory then .error (.refused .isDirectory path)
  else .ok (t.put loc (.file c))

def makeDirectory (t : FileTree) (path : String) : Except FileError FileTree := do
  let loc ← t.locate path
  match t.get? loc with
  | some _ => .error (.refused .exists path)
  | none => .ok (t.put loc .directory)

def isDirectory (t : FileTree) (path : String) : Bool :=
  match t.find path with
  | .ok (_, .directory) => true
  | _ => false

def isFile (t : FileTree) (path : String) : Bool :=
  match t.find path with
  | .ok (_, .file _) => true
  | _ => false

/-- Makes a directory; one that exists already is left as it is. -/
def ensureOnly (t : FileTree) (p : Path) : Except FileError FileTree :=
  match t.makeDirectory p.text with
  | .ok t => .ok t
  | .error (.refused .noEntry path) => .error (.refused .noEntry path)
  | .error (.refused f path) => if t.isDirectory p.text then .ok t else .error (.refused f path)
  | .error e => .error e

/-- Makes the directory of the given parts below a root mark, and those above it as far as they are
missing. -/
def ensureParts (t : FileTree) (root : String) (parts : List String) : Except FileError FileTree :=
  match t.ensureOnly ⟨root, parts⟩ with
  | .error (.refused .noEntry path) =>
    if parts = [] then .error (.refused .noEntry path)
    else do
      let t ← ensureParts t root parts.dropLast
      t.ensureOnly ⟨root, parts⟩
  | r => r
termination_by parts.length
decreasing_by
  have : parts.length ≠ 0 := by simpa using ‹¬parts = []›
  simp
  omega

def ensureDirectory (t : FileTree) (p : Path) : Except FileError FileTree :=
  t.ensureParts p.root p.parts

/-- The name in a directory that leads on to the working directory. -/
def towardsHome (t : FileTree) (loc : Location) : List String :=
  if loc.isPrefixOf t.home then (t.home.drop loc.length).take 1 else []

/-- The names in a directory: the one that leads on to the working directory, and then the others in
the order of their creation. -/
def list (t : FileTree) (path : String) : Except FileError (List String) := do
  match ← t.find path with
  | (_, .file _) => .error (.refused .notDirectory path)
  | (loc, .directory) =>
    .ok (t.towardsHome loc ++ t.entries.filterMap fun p =>
      if p.1.dropLast = loc && p.1 ≠ [] then p.1.getLast? else none)

def remove (t : FileTree) (path : String) : Except FileError FileTree := do
  match ← t.find path with
  | (loc, .file _) => .ok (t.drop loc)
  | (_, .directory) => .error (.refused .isDirectory path)

/-- The location of what a name stands for, if there is anything. -/
def placeOf (t : FileTree) (n : FileName) : Except FileError (Option Location) :=
  match t.find n.text with
  | .ok (loc, _) => .ok (some loc)
  | .error (.unnameable f) => .error (.unnameable f)
  | .error _ => .ok none

/-- Copies a file. Copying a file onto itself is refused. -/
def copy (t : FileTree) (source target : FileName) : Except FileError FileTree := do
  let origin ← t.placeOf source
  let goal ← t.placeOf target
  if origin.isSome && origin = goal then .error (.sameFile source target)
  else
    let c ← t.read source.text
    match t.write target.text c with
    | .error (.refused .isDirectory path) =>
      if goal.isSome then .error (.refused .isDirectory path) else .error (.noDirectory path)
    | r => r

end FileTree

end VisualNovel
