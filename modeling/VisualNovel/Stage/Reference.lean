import VisualNovel.Script.Event
import VisualNovel.Text.Quoted

/-!
# References

A reference to something that is loaded when it is first wanted. What has been loaded is kept; a load
that fails leaves the reference as it was.
-/
namespace VisualNovel

open VisualNovel.Text

structure Reference (α : Type) where
  path : String
  loaded : Option α := none
deriving DecidableEq, Repr

namespace Reference

variable {α : Type}

def resolve {m : Type → Type} [Monad m] (r : Reference α) (load : String → m α) :
    m (α × Reference α) :=
  match r.loaded with
  | some a => pure (a, r)
  | none => do
    let a ← load r.path
    return (a, { r with loaded := some a })

def text (r : Reference α) : String :=
  "LazyScriptRef(" ++ quoted r.path ++ ", " ++
    (if r.loaded.isSome then "loaded" else "unloaded") ++ ")"

end Reference

end VisualNovel
