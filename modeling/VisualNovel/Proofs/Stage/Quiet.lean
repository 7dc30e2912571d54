import VisualNovel.Proofs.Session.Quiet
import VisualNovel.Proofs.Stage.Render

/-!
# Quiet steps

Steps and drawings are quiet, whatever they come to. The journal says of them what it says, but a play
that passes over a directive or asks for a choice does so by itself.
-/
namespace VisualNovel.Stage

open Journal (tellsPassage_of_module)

variable {α : Type} {r : Renderer}

/-- An operation on a stage that is quiet in its session. -/
abbrev IsQuiet (a : Act α) : Prop :=
  Quietly Play.session a

theorem quiet_lift {a : Action α} (h : Session.IsQuiet a) : IsQuiet (liftM a : Act α) := by
  intro p
  have hp := h p.session
  rw [Play.run_lift]
  cases ha : a.run p.session with
  | ok x session =>
    rw [ha] at hp
    exact hp
  | error e session =>
    rw [ha] at hp
    exact hp

theorem quiet_stage? : IsQuiet Play.stage? :=
  fun p => .refl p.session

theorem quiet_change (f : Stage → Stage) : IsQuiet (Play.change f) :=
  fun p => .refl p.session

/-- The notes of the steps are those of another module than the one that tells what is passed over. -/
theorem quiet_note (level : Journal.Level) (message : String) :
    IsQuiet (liftM (Session.note "engine" level message) : Act Unit) :=
  quiet_lift (Session.quiet_note (tellsPassage_of_module (by decide)))

theorem quiet_showSprite (name : String) (placement : Placement) :
    IsQuiet (showSprite name placement) := by
  apply (quiet_note _ _).bind
  intro _
  apply quiet_stage?.bind
  intro s
  cases s.cast.present s.attributes.priorityOf ⟨name, placement.path, placement.x, placement.y⟩ with
  | ok cast => exact quiet_change _
  | error e => exact .throw _

theorem quiet_hideSprite (name : String) : IsQuiet (hideSprite name) :=
  (quiet_note _ _).bind fun _ => quiet_change _

theorem quiet_changeBackground (path : String) : IsQuiet (changeBackground path) := by
  have hset : IsQuiet (do
      Session.note "engine" .debug ("Background set to " ++ path)
      Play.change fun s => { s with background := some path } : Act Unit) :=
    (quiet_note _ _).bind fun _ => quiet_change _
  apply quiet_stage?.bind
  intro s
  cases (s.backdrops.lookup path).isNone with
  | true =>
    simp only [if_true]
    apply (quiet_lift (Session.quiet_loadImage path)).bind
    intro image
    exact (quiet_change _).bind fun _ => hset
  | false =>
    simp only [Bool.false_eq_true, if_false]
    exact hset

theorem quiet_resortCast : IsQuiet resortCast := by
  apply quiet_stage?.bind
  intro s
  cases s.cast.resort s.attributes.priorityOf with
  | ok cast => exact quiet_change _
  | error e => exact .throw _

theorem quiet_writeAttribute (path key value : String) :
    IsQuiet (writeAttribute path key value) := by
  rw [writeAttribute]
  by_cases hrefused : isPriority path key = true ∧ (Number.readInt? value).isNone = true
  · simp only [hrefused, and_self, if_true]
    exact fun p => .refl p.session
  simp only [hrefused, if_false]
  apply quiet_stage?.bind
  intro s
  cases s.attributes.set path key value with
  | error cause => exact fun p => .refl p.session
  | ok attributes =>
    apply (quiet_change _).bind
    intro _
    apply (quiet_note _ _).bind
    intro _
    cases isPriority path key with
    | false => exact .pure _
    | true => exact quiet_resortCast

theorem quiet_loadTarget (path : String) : IsQuiet (loadTarget path) := by
  apply quiet_stage?.bind
  intro s
  cases s.library.lookup path with
  | some script => exact .pure script
  | none =>
    apply (quiet_lift (Session.quiet_loadScript _ _)).bind
    intro script
    exact (quiet_change _).bind fun _ => .pure script

theorem quiet_resolve (reference : Reference Script) : IsQuiet (reference.resolve loadTarget) := by
  rw [Reference.resolve]
  cases reference.loaded with
  | some script => exact .pure _
  | none => exact (quiet_loadTarget _).bind fun _ => .pure _

theorem quiet_follow (target : String) : IsQuiet (follow target) := by
  apply quiet_stage?.bind
  intro s
  apply (quiet_resolve _).bind
  rintro ⟨script, reference⟩
  exact (quiet_note _ _).bind fun _ => quiet_change _

theorem quiet_advance (choice : Bool) : IsQuiet (advance choice) := by
  have hlast : IsQuiet (do return (← Play.stage?).current : Act (Option Event)) :=
    quiet_stage?.bind fun _ => .pure _
  have hstep : ∀ {a : Act Unit}, IsQuiet a →
      IsQuiet (do a; Play.change stepped; return (← Play.stage?).current : Act (Option Event)) :=
    fun ha => ha.bind fun _ => (quiet_change _).bind fun _ => hlast
  apply quiet_stage?.bind
  intro s
  cases s.current with
  | none => exact .pure none
  | some event =>
    cases event with
    | dialogue speaker lines => exact hstep (.pure ())
    | directive d =>
      cases d with
      | jump target choices =>
        cases hfollowed : choices.isNone || choice with
        | true =>
          simp only [hfollowed, if_true]
          exact (quiet_follow target).bind fun _ => hlast
        | false =>
          simp only [hfollowed, Bool.false_eq_true, if_false]
          exact hstep (quiet_note _ _)
      | «show» name placement => exact hstep (quiet_showSprite name placement)
      | hide name placement => exact hstep (quiet_hideSprite name)
      | background path => exact hstep (quiet_changeBackground path)
      | «attribute» path key value => exact hstep (quiet_writeAttribute path key value)
      | custom name arguments => exact hstep (quiet_note _ _)

theorem quiet_frameNow : IsQuiet frameNow := by
  apply quiet_stage?.bind
  intro s
  cases s.frame with
  | ok f => exact .pure f
  | error e => exact .throw _

theorem quiet_renderCached (draws : ∀ f, Session.IsQuiet (r.draw f)) (out : String) :
    IsQuiet (renderCached r out) := by
  apply quiet_stage?.bind
  intro s
  cases s.cache with
  | none =>
    apply quiet_frameNow.bind
    intro f
    cases f with
    | none => exact .pure false
    | some f =>
      have hrender : Session.IsQuiet (r.render f out) :=
        (draws f).bind fun _ => Session.quiet_alter _
      exact (quiet_lift hrender).bind fun _ => .pure true
  | some c =>
    apply quiet_frameNow.bind
    intro f
    cases f with
    | none => exact .pure false
    | some f =>
      apply (quiet_lift (c.quiet_render draws f out)).bind
      rintro ⟨cache, hit⟩
      exact (quiet_change _).bind fun _ => .pure true

end VisualNovel.Stage
