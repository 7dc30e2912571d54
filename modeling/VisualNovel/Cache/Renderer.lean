import VisualNovel.Frame.Basic
import VisualNovel.Session.Basic

/-!
# Renderers

A renderer turns a frame into the content of a file. Every drawing is counted, whether or not it can
be saved.
-/
namespace VisualNovel

structure Renderer where
  draw : Frame → Action Content

namespace Renderer

def render (r : Renderer) (f : Frame) (out : String) : Action Unit := do
  let content ← r.draw f
  Session.alter fun files => files.write out content

def describe : Frame → String
  | .dialogue f => "dialogue:" ++ f.speaker ++ ":" ++ f.text
  | .choice f => "choice:" ++ f.choices.first ++ "|" ++ f.choices.second

def plain : Renderer where
  draw f := do
    modify fun s => { s with drawn := s.drawn + 1 }
    return Content.ofText (describe f)

end Renderer

end VisualNovel
