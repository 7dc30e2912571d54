import VisualNovel.Stage.View

/-!
# Rendering the stage

The frame of the current event is drawn into a file, through the cache once it is enabled.
-/
namespace VisualNovel.Stage

def frameNow : Act (Option Frame) := do
  match (← Play.stage?).frame with
  | .ok f => return f
  | .error e => throw (.attribute e)

def enableCache (directory : Option Path) : Act RenderCache := do
  let s ← Play.stage?
  let cache : RenderCache := { directory := directory.getD (Path.ofText s.settings.cacheDir) }
  Play.change fun s => { s with cache := some cache }
  let cache ← cache.enable
  Play.change fun s => { s with cache := some cache }
  return cache

/-- Draws the current frame into a file. Tells whether there is one. -/
def render (r : Renderer) (out : String) : Act Bool := do
  match ← frameNow with
  | none => return false
  | some f =>
    r.render f out
    return true

def renderCached (r : Renderer) (out : String) : Act Bool := do
  match (← Play.stage?).cache with
  | none => render r out
  | some cache =>
    match ← frameNow with
    | none => return false
    | some f =>
      let (cache, _) ← cache.render r f out
      Play.change fun s => { s with cache := some cache }
      return true

end VisualNovel.Stage
