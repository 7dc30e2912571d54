import VisualNovel.Proofs.Session.Action
import VisualNovel.Stage.Step

/-!
# What a step does

Each operation of a step run on a stage. A step that succeeds does one of eight things, by the event
at the cursor. A step that fails leaves the stage as it was, but for the write of a priority that is
followed by a failure to order the cast.
-/
namespace VisualNovel

namespace Play

variable {α : Type}

@[simp]
theorem run_throw (e : Failure) (p : Play) : (throw e : Act α).run p = .error e p :=
  rfl

@[simp]
theorem run_stage? (p : Play) : stage?.run p = .ok p.stage p :=
  rfl

@[simp]
theorem run_change (f : Stage → Stage) (p : Play) :
    (change f).run p = .ok () { p with stage := f p.stage } :=
  rfl

@[simp]
theorem run_lift (a : Action α) (p : Play) :
    (liftM a : Act α).run p =
      match a.run p.session with
      | .ok x session => .ok x { p with session }
      | .error e session => .error e { p with session } :=
  rfl

theorem exists_of_run_lift {a : Action α} {x : α} {p q : Play}
    (h : (liftM a : Act α).run p = .ok x q) :
    ∃ session, a.run p.session = .ok x session ∧ q = { p with session } := by
  rw [run_lift] at h
  cases ha : a.run p.session with
  | error e session =>
    rw [ha] at h
    cases h
  | ok y session =>
    rw [ha] at h
    cases h
    exact ⟨session, rfl, rfl⟩

end Play

namespace Stage

/-- What a step that succeeds does. -/
inductive Moved (s : Stage) : Stage → Prop where
  | finished (event : s.current = none) : Moved s s
  | passed {e : Event} (event : s.current = some e)
      (quiet : e.isRenderable = true ∨ e.isCustom = true) : Moved s s.stepped
  | followed {target : String} {choices : Option Choices} {cursor : Cursor}
      {library : List (String × Script)} {resolved : List ((ScriptId × Nat) × Script)}
      (event : s.current = some (.directive (.jump target choices))) :
      Moved s { s with cursor, library, resolved }
  | shown {name : String} {placement : Placement} {cast : Cast}
      (event : s.current = some (.directive (.show name placement)))
      (present : s.cast.present s.attributes.priorityOf
        ⟨name, placement.path, placement.x, placement.y⟩ = .ok cast) :
      Moved s { s with cast }.stepped
  | hidden {name : String} {placement : Option Placement}
      (event : s.current = some (.directive (.hide name placement))) :
      Moved s { s with cast := s.cast.dismiss name }.stepped
  | changed {path : String} {backdrops : List (String × Surface)}
      (event : s.current = some (.directive (.background path))) :
      Moved s { s with background := some path, backdrops }.stepped
  | written {path key value : String} {attributes : AttributeTree}
      (event : s.current = some (.directive (.attribute path key value)))
      (plain : isPriority path key = false)
      (set : s.attributes.set path key value = .ok attributes) :
      Moved s { s with attributes }.stepped
  | ranked {path key value : String} {attributes : AttributeTree} {cast : Cast}
      (event : s.current = some (.directive (.attribute path key value)))
      (priority : isPriority path key = true)
      (integer : (Number.readInt? value).isSome = true)
      (set : s.attributes.set path key value = .ok attributes)
      (resort : s.cast.resort attributes.priorityOf = .ok cast) :
      Moved s { s with attributes, cast }.stepped

/-- What a step that fails leaves. -/
inductive Stopped (s : Stage) : Stage → Prop where
  | unchanged : Stopped s s
  | written {path key value : String} {attributes : AttributeTree} {e : AttributeError}
      (event : s.current = some (.directive (.attribute path key value)))
      (priority : isPriority path key = true)
      (integer : (Number.readInt? value).isSome = true)
      (set : s.attributes.set path key value = .ok attributes)
      (resort : s.cast.resort attributes.priorityOf = .error e) :
      Stopped s { s with attributes }

variable {α β : Type} {failed done : Stage → Prop}

/-- How an operation ends: `failed` holds of the stage that a failure leaves, `done` of the one that a
success leads to. -/
def Ends (failed done : Stage → Prop) : EStateM.Result Failure Play α → Prop
  | .error _ q => failed q.stage
  | .ok _ q => done q.stage

theorem Ends.imp {r : EStateM.Result Failure Play α} {failed' done' : Stage → Prop}
    (h : Ends failed done r) (hfailed : ∀ t, failed t → failed' t) (hdone : ∀ t, done t → done' t) :
    Ends failed' done' r := by
  cases r with
  | error e q => exact hfailed q.stage h
  | ok x q => exact hdone q.stage h

/-- What follows an operation ends as the operation does when that fails, and otherwise as it ends
from there. -/
theorem Ends.bind {a : Act α} {f : α → Act β} {p : Play} {middle : Stage → Prop}
    (h : Ends failed middle (a.run p))
    (hf : ∀ x q, middle q.stage → Ends failed done ((f x).run q)) :
    Ends failed done ((a >>= f).run p) := by
  rw [EStateM.run_bind]
  cases hrun : a.run p with
  | error e q =>
    rw [hrun] at h
    exact h
  | ok x q =>
    rw [hrun] at h
    exact hf x q h

theorem ends_loadTarget (path : String) (p : Play) :
    Ends (· = p.stage) (fun t => ∃ library, t = { p.stage with library })
      ((loadTarget path).run p) := by
  rw [loadTarget, EStateM.run_bind, Play.run_stage?]
  simp only
  cases p.stage.library.lookup path with
  | some script => exact ⟨p.stage.library, rfl⟩
  | none =>
    simp only [EStateM.run_bind, Play.run_lift]
    cases (Session.loadScript ((Path.ofText p.stage.settings.baseDir).join (Path.ofText path))
        (some path)).run p.session with
    | error e q => rfl
    | ok script q => exact ⟨_, rfl⟩

/-- Resolving a reference loads its target at most, which the library keeps. -/
theorem ends_resolve (r : Reference Script) (p : Play) :
    Ends (· = p.stage) (fun t => ∃ library, t = { p.stage with library })
      ((r.resolve loadTarget).run p) := by
  rw [Reference.resolve]
  cases r.loaded with
  | some script => exact ⟨p.stage.library, rfl⟩
  | none =>
    apply (ends_loadTarget r.path p).bind
    intro script q hq
    exact hq

theorem ends_follow (target : String) (p : Play) :
    Ends (· = p.stage)
      (fun t => ∃ cursor library resolved, t = { p.stage with cursor, library, resolved })
      ((follow target).run p) := by
  rw [follow, EStateM.run_bind, Play.run_stage?]
  apply (ends_resolve _ p).bind
  rintro ⟨script, reference⟩ q ⟨library, hlibrary⟩
  simp only [EStateM.run_bind, Play.run_lift, Session.run_note, Play.run_change]
  rw [Ends, hlibrary]
  exact ⟨_, _, _, rfl⟩

theorem ends_showSprite (name : String) (placement : Placement) (p : Play) :
    Ends (· = p.stage)
      (fun t => ∃ cast, p.stage.cast.present p.stage.attributes.priorityOf
        ⟨name, placement.path, placement.x, placement.y⟩ = .ok cast ∧ t = { p.stage with cast })
      ((showSprite name placement).run p) := by
  rw [showSprite]
  simp only [EStateM.run_bind, Play.run_lift, Session.run_note, Play.run_stage?]
  cases p.stage.cast.present p.stage.attributes.priorityOf
      ⟨name, placement.path, placement.x, placement.y⟩ with
  | error e => rfl
  | ok cast => exact ⟨cast, rfl, rfl⟩

theorem ends_hideSprite (name : String) (p : Play) :
    Ends (· = p.stage) (· = { p.stage with cast := p.stage.cast.dismiss name })
      ((hideSprite name).run p) := by
  rw [hideSprite]
  simp only [EStateM.run_bind, Play.run_lift, Session.run_note, Play.run_change]
  rfl

theorem ends_changeBackground (path : String) (p : Play) :
    Ends (· = p.stage)
      (fun t => ∃ backdrops, t = { p.stage with background := some path, backdrops })
      ((changeBackground path).run p) := by
  rw [changeBackground, EStateM.run_bind, Play.run_stage?]
  simp only
  cases (p.stage.backdrops.lookup path).isNone with
  | false =>
    simp only [Bool.false_eq_true, if_false, EStateM.run_bind, Play.run_lift, Session.run_note,
      Play.run_change]
    exact ⟨p.stage.backdrops, rfl⟩
  | true =>
    simp only [if_true, EStateM.run_bind, Play.run_lift]
    cases (Session.loadImage path).run p.session with
    | error e session => rfl
    | ok image session => exact ⟨_, rfl⟩

theorem run_resortCast (p : Play) :
    resortCast.run p =
      match p.stage.cast.resort p.stage.attributes.priorityOf with
      | .ok cast => .ok () { p with stage := { p.stage with cast } }
      | .error e => .error (.attribute e) p := by
  rw [resortCast, EStateM.run_bind, Play.run_stage?]
  simp only
  cases p.stage.cast.resort p.stage.attributes.priorityOf <;> rfl

/-- Writing an attribute sets it in the tree. The write of a priority asks for an integer and then
orders the cast, which may fail when the attribute is set already. -/
theorem ends_writeAttribute {path key value : String} {p : Play}
    (event : p.stage.current = some (.directive (.attribute path key value))) :
    Ends (Stopped p.stage) (fun t => Moved p.stage t.stepped)
      ((writeAttribute path key value).run p) := by
  rw [writeAttribute]
  by_cases hrefused : isPriority path key = true ∧ (Number.readInt? value).isNone = true
  · simp only [hrefused, and_self, if_true, EStateM.run_bind, Play.run_throw]
    exact .unchanged
  simp only [hrefused, if_false, EStateM.run_bind, Play.run_stage?]
  cases hset : p.stage.attributes.set path key value with
  | error cause => exact .unchanged
  | ok attributes =>
    simp only [EStateM.run_bind, Play.run_change, Play.run_lift, Session.run_note]
    cases hpriority : isPriority path key with
    | false =>
      simp only [Bool.false_eq_true, if_false, EStateM.run_pure]
      exact .written event hpriority hset
    | true =>
      have hinteger : (Number.readInt? value).isSome = true := by
        cases hread : Number.readInt? value with
        | none => exact absurd ⟨hpriority, by rw [hread]; rfl⟩ hrefused
        | some i => rfl
      simp only [if_true, run_resortCast]
      cases hresort : p.stage.cast.resort attributes.priorityOf with
      | error e => exact .written event hpriority hinteger hset hresort
      | ok cast => exact .ranked event hpriority hinteger hset hresort

/-- What a step comes to, whether it fails or succeeds. -/
def Steps (p : Play) : EStateM.Result Failure Play (Option Event) → Prop
  | .error _ q => Stopped p.stage q.stage
  | .ok event q => Moved p.stage q.stage ∧ event = q.stage.current

theorem steps_of_ends {a : Act Unit} {p : Play}
    (h : Ends (Stopped p.stage) (Moved p.stage) (a.run p)) :
    Steps p ((do a; return (← Play.stage?).current : Act _).run p) := by
  rw [EStateM.run_bind]
  cases hrun : a.run p with
  | error e q =>
    rw [hrun] at h
    exact h
  | ok x q =>
    rw [hrun] at h
    exact ⟨h, rfl⟩

/-- A step that moves the cursor behind the event that it has applied. -/
theorem steps_of_ends_stepped {a : Act Unit} {p : Play}
    (h : Ends (Stopped p.stage) (fun t => Moved p.stage t.stepped) (a.run p)) :
    Steps p ((do a; Play.change stepped; return (← Play.stage?).current : Act _).run p) := by
  rw [← bind_assoc]
  apply steps_of_ends
  apply h.bind
  intro x q hq
  exact hq

theorem Ends.stopped {r : EStateM.Result Failure Play α} {s : Stage} (h : Ends (· = s) done r)
    {done' : Stage → Prop} (moved : ∀ t, done t → done' t) : Ends (Stopped s) done' r := by
  apply h.imp
  · rintro t rfl
    exact .unchanged
  · exact moved

theorem steps_advance (choice : Bool) (p : Play) : Steps p ((advance choice).run p) := by
  rw [advance, EStateM.run_bind, Play.run_stage?]
  simp only
  cases hcurrent : p.stage.current with
  | none => exact ⟨.finished hcurrent, hcurrent.symm⟩
  | some event =>
    cases event with
    | dialogue speaker lines => exact ⟨.passed hcurrent (Or.inl rfl), rfl⟩
    | directive d =>
      cases d with
      | jump target choices =>
        simp only
        by_cases htaken : (choices.isNone || choice) = true
        · simp only [htaken, if_true]
          apply steps_of_ends
          apply (ends_follow target p).stopped
          rintro t ⟨cursor, library, resolved, rfl⟩
          exact .followed hcurrent
        · simp only [htaken, Bool.false_eq_true, if_false]
          refine ⟨.passed hcurrent (Or.inl ?_), rfl⟩
          rw [Bool.or_eq_true, not_or, Option.isNone_iff_eq_none] at htaken
          exact Option.isSome_iff_ne_none.2 htaken.1
      | «show» name placement =>
        apply steps_of_ends_stepped
        apply (ends_showSprite name placement p).stopped
        rintro t ⟨cast, hpresent, rfl⟩
        exact .shown hcurrent hpresent
      | hide name placement =>
        apply steps_of_ends_stepped
        apply (ends_hideSprite name p).stopped
        rintro t rfl
        exact .hidden hcurrent
      | background path =>
        apply steps_of_ends_stepped
        apply (ends_changeBackground path p).stopped
        rintro t ⟨backdrops, rfl⟩
        exact .changed hcurrent
      | «attribute» path key value => exact steps_of_ends_stepped (ends_writeAttribute hcurrent)
      | custom name arguments => exact ⟨.passed hcurrent (Or.inr rfl), rfl⟩

end Stage

end VisualNovel
