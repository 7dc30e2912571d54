import VisualNovel.Session.Basic

/-!
# Loading images

An image is decoded at the first successful load of its path text and taken from the store after
that. A load that fails leaves the store as it is.
-/
namespace VisualNovel

open VisualNovel.Text

/-- The bytes of a file whose image is wanted, or the reason why it cannot be read. -/
def ImageStore.readImage (files : FileTree) (file : Path) (path : String) :
    Except Failure Surface :=
  match files.read file.text with
  | .ok content =>
    match decodeImage? file.name content with
    | some image => .ok image
    | none => .error (.asset (.undecodable path))
  | .error (.unnameable f) => .error (.file (.unnameable f))
  | .error e => .error (.asset (.unreadable path e))

def Session.loadImage (path : String) : Action Surface := do
  let s ← get
  match s.images.get? path with
  | some image => return image
  | none =>
    let file := s.images.resolve path
    let image ← Session.attempt (ImageStore.readImage s.files file path)
    Session.note "assets" .debug
      ("Loaded image " ++ file.text ++ " (" ++ intText image.width ++ "x" ++
        intText image.height ++ ")")
    modify fun s => { s with images := s.images.add path image }
    return image

end VisualNovel
