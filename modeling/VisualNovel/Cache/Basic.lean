import VisualNovel.Cache.Renderer
import VisualNovel.Frame.Fingerprint

/-!
# Render cache

Drawings of dialogue frames, kept in one directory under the fingerprints of the frames. The index
is read from the directory when the cache is enabled and follows every drawing that is stored.
Choices are never kept.
-/
namespace VisualNovel

open VisualNovel.Text

structure RenderCache where
  directory : Path
  /-- The file of every fingerprint that is kept; any integer can stand for one. -/
  index : List (Int × Path) := []
  enabled : Bool := false
deriving DecidableEq, Repr

namespace RenderCache

def lookup (c : RenderCache) (fingerprint : Int) : Option Path :=
  c.index.lookup fingerprint

def contains (c : RenderCache) (fingerprint : Int) : Bool :=
  (c.lookup fingerprint).isSome

def keep (fingerprint : Int) (file : Path) (index : List (Int × Path)) : List (Int × Path) :=
  (fingerprint, file) :: index.filter fun e => e.1 != fingerprint

theorem lookup_keep (fingerprint other : Int) (file : Path) (index : List (Int × Path)) :
    (keep fingerprint file index).lookup other =
      if other = fingerprint then some file else index.lookup other := by
  by_cases h : other = fingerprint
  · simp [keep, h]
  · have hb : (other == fingerprint) = false := by simpa using h
    simp [keep, List.lookup_cons, hb, h, Keyed.lookup_filter_ne fingerprint other index h]

def fingerprintOf? (file : Path) : Option Nat :=
  let stem := file.stem.toList
  if stem ≠ [] ∧ stem.all isAsciiDigit then some (ofDigits 10 (stem.filterMap digitValue?)) else none

def fileOf (directory : Path) (fingerprint : Int) : Path :=
  directory.child (intText fingerprint ++ ".png")

/-- Adds one entry of the directory to an index; other files than drawings are passed over. -/
def indexEntry (index : List (Int × Path)) (file : Path) :
    Action (List (Int × Path)) := do
  match fingerprintOf? file, (← get).files.isFile file.text with
  | some fingerprint, true => return keep fingerprint file index
  | _, _ =>
    Session.note "render_cache" .trace ("Ignoring non-cache file " ++ file.text)
    return index

/-- Makes the directory if it is missing and reads the index from it. -/
def enable (c : RenderCache) : Action RenderCache := do
  Session.alter fun files => files.ensureDirectory c.directory
  let names ← Session.consult fun files => files.list c.directory.text
  let index ← (names.map c.directory.child).foldlM indexEntry []
  Session.note "render_cache" .debug
    ("Render cache enabled at " ++ c.directory.text ++ " with " ++ natText index.length ++
      " entries")
  return { c with index, enabled := true }

def store (c : RenderCache) (fingerprint : Int) (drawing : FileName) : Action RenderCache := do
  let file := fileOf c.directory fingerprint
  Session.alter fun files => files.copy drawing (.path file)
  return { c with index := keep fingerprint file c.index }

/-- Writes the drawing of a frame, from the cache if it is kept there. Tells whether it was. -/
def render (c : RenderCache) (r : Renderer) (f : Frame) (out : String) :
    Action (RenderCache × Bool) := do
  match f with
  | .choice _ =>
    r.render f out
    return (c, false)
  | .dialogue d =>
    match d.fingerprint with
    | .error e => throw (.fingerprint e)
    | .ok fingerprint =>
      match c.lookup fingerprint with
      | some file =>
        Session.note "render_cache" .debug
          ("Using cached render " ++ file.text ++ " for " ++ out)
        Session.alter fun files => files.copy (.path file) (.plain out)
        return (c, true)
      | none =>
        Session.note "render_cache" .debug
          ("Cache miss " ++ natText fingerprint ++ ", rendering " ++ out)
        r.render f out
        return (← c.store fingerprint (.plain out), false)

end RenderCache

end VisualNovel
