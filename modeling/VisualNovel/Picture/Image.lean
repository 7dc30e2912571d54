import VisualNovel.Files.Tree

/-!
# Images

The image format, and the store of images that have been decoded. A file holds an image if its whole
content is the word `IMG`, the width and the height, with one space between them and at most a line
break behind them. A store keeps every image under the path text that it was asked for.
-/
namespace VisualNovel

open VisualNovel.Text

/-- Reads a size: digits that do not begin with a zero. -/
def readSide? (s : List Char) : Option Int :=
  match s with
  | [] => none
  | '0' :: _ => none
  | _ => if s.all isAsciiDigit then some (ofDigits 10 (s.filterMap digitValue?)) else none

/-- Decodes the content of a file of a given name. -/
def decodeImage? (name : String) : Content → Option Surface
  | .drawing _ => none
  | .bytes data =>
    match Utf8.decode data with
    | .error _ => none
    | .ok s =>
      let line := if s.getLast? = some '\n' then s.dropLast else s
      match splitAll ' ' line with
      | [['I', 'M', 'G'], w, h] => do return .image name (← readSide? w) (← readSide? h)
      | _ => none

structure ImageStore where
  /-- The directory that relative paths start from. -/
  root : Option Path := none
  images : List (String × Surface) := []
deriving Inhabited

namespace ImageStore

def resolve (s : ImageStore) (path : String) : Path :=
  match s.root with
  | some root => root.join (Path.ofText path)
  | none => Path.ofText path

def get? (s : ImageStore) (path : String) : Option Surface :=
  s.images.lookup path

def add (s : ImageStore) (path : String) (image : Surface) : ImageStore :=
  { s with images := (path, image) :: s.images }

def clear (s : ImageStore) : ImageStore :=
  { s with images := [] }

end ImageStore

/-- Why an image cannot be had: its file cannot be read, or holds none. -/
inductive AssetError where
  | unreadable (path : String) (cause : FileError)
  | undecodable (path : String)
deriving DecidableEq, Repr

namespace AssetError

def path : AssetError → String
  | unreadable path _ | undecodable path => path

def reason : AssetError → String
  | unreadable _ cause => cause.message
  | undecodable _ => "Unsupported image format"

def message (e : AssetError) : String :=
  let kind :=
    match e with
    | unreadable _ _ => "IO"
    | undecodable _ => "Image"
  kind ++ " error loading " ++ e.path ++ ": " ++ e.reason

end AssetError

end VisualNovel
