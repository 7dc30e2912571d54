import VisualNovel.Proofs.Stage.Failure

/-!
# The scenery

The attributes, the cast and the background are what directives make them. The events that a stage has
come by tell what they are: each directive in its turn changes the scenery that the ones before it have
made, and nothing else does.
-/
namespace VisualNovel

open Stage (isPriority)

structure Scenery where
  attributes : AttributeTree := .empty
  cast : Cast := []
  background : Option String := none
deriving DecidableEq, Repr

namespace Scenery

/-- Writes an attribute. A priority must be an integer, and a new one reorders the sprites. -/
def write (x : Scenery) (path key value : String) : Except AttributeError Scenery :=
  if isPriority path key ∧ (Number.readInt? value).isNone then
    .error (.value (attributeName path key) value .integer)
  else
    match x.attributes.set path key value with
    | .error cause => .error (.conflict path key cause)
    | .ok attributes =>
      if isPriority path key then
        (x.cast.resort attributes.priorityOf).map fun cast => { x with attributes, cast }
      else .ok { x with attributes }

def apply (x : Scenery) : Event → Except AttributeError Scenery
  | .directive (.show name p) =>
    (x.cast.present x.attributes.priorityOf ⟨name, p.path, p.x, p.y⟩).map fun cast => { x with cast }
  | .directive (.hide name _) => .ok { x with cast := x.cast.dismiss name }
  | .directive (.background path) => .ok { x with background := some path }
  | .directive (.attribute path key value) => x.write path key value
  | _ => .ok x

/-- What is drawn and what means nothing to the player leaves the scenery as it is. -/
theorem apply_of_quiet (x : Scenery) {e : Event} (h : e.isRenderable = true ∨ e.isCustom = true) :
    x.apply e = .ok x := by
  cases e with
  | dialogue speaker lines => rfl
  | directive d =>
    cases d with
    | «show» | hide | background | «attribute» => rcases h with h | h <;> cases h
    | jump | custom => rfl

/-- What events make of the scenery, one after the other. -/
def applyAll (x : Scenery) (events : List Event) : Except AttributeError Scenery :=
  events.foldlM apply x

theorem applyAll_concat {x y z : Scenery} {events : List Event} {e : Event}
    (h : x.applyAll events = .ok y) (last : y.apply e = .ok z) :
    x.applyAll (events ++ [e]) = .ok z := by
  rw [applyAll] at h
  rw [applyAll, List.foldlM_append, h]
  simp [bind, Except.bind, last, pure, Except.pure]

end Scenery

namespace Stage

def scenery (s : Stage) : Scenery :=
  ⟨s.attributes, s.cast, s.background⟩

theorem Moved.apply_scenery {s t : Stage} {e : Event} (h : Moved s t) (current : s.current = some e) :
    s.scenery.apply e = .ok t.scenery := by
  cases h with
  | finished event => cases current.symm.trans event
  | passed event quiet =>
    cases current.symm.trans event
    exact s.scenery.apply_of_quiet quiet
  | followed event | hidden event | changed event =>
    cases current.symm.trans event
    rfl
  | shown event present =>
    cases current.symm.trans event
    simp only [Scenery.apply, scenery, present]
    rfl
  | written event plain set =>
    cases current.symm.trans event
    simp only [Scenery.apply, Scenery.write, scenery, plain, Bool.false_eq_true, false_and, if_false,
      set]
    rfl
  | ranked event priority integer set resort =>
    cases current.symm.trans event
    rw [← Option.not_isNone, Bool.not_eq_true'] at integer
    simp only [Scenery.apply, Scenery.write, scenery, priority, integer, Bool.false_eq_true, and_false,
      if_false, if_true, set, resort]
    rfl

end Stage

end VisualNovel
