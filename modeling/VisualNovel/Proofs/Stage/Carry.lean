import VisualNovel.Proofs.Session.Blind
import VisualNovel.Proofs.Stage.Library

/-!
# Steps in another session

A step carries a change of the session if notes carry it and so does the load that the step makes, of
the script of a jump or of the picture of a background.
-/
namespace VisualNovel

/-- The play with its session changed. -/
def Play.via (g : Session → Session) (p : Play) : Play :=
  { p with session := g p.session }

namespace Stage

variable {g : Session → Session} {p : Play} {choice : Bool} {target path : String} {α : Type}

theorem carries_stage? (g : Session → Session) (p : Play) :
    Carries (Play.via g) Play.stage? p :=
  rfl

theorem carries_change (g : Session → Session) (f : Stage → Stage) (p : Play) :
    Carries (Play.via g) (Play.change f) p :=
  rfl

theorem carries_lift {a : Action α} (h : Carries g a p.session) :
    Carries (Play.via g) (liftM a : Act α) p := by
  have hrun : a.run (p.via g).session = carry g (a.run p.session) := h
  rw [Carries, Play.run_lift, Play.run_lift, hrun]
  cases a.run p.session <;> rfl

theorem carries_note (notes : Session.CarriesNotes g) (module : String) (level : Journal.Level)
    (message : String) (p : Play) :
    Carries (Play.via g) (liftM (Session.note module level message) : Act Unit) p :=
  carries_lift (notes module level message p.session)

theorem carries_showSprite (notes : Session.CarriesNotes g) (name : String) (placement : Placement)
    (p : Play) : Carries (Play.via g) (showSprite name placement) p := by
  apply (carries_note notes _ _ _ p).bind
  intro _ p
  apply (carries_stage? g p).bind
  intro s p
  cases s.cast.present s.attributes.priorityOf ⟨name, placement.path, placement.x, placement.y⟩ with
  | ok cast => exact carries_change g _ p
  | error e => exact carries_throw _ _ p

theorem carries_hideSprite (notes : Session.CarriesNotes g) (name : String) (p : Play) :
    Carries (Play.via g) (hideSprite name) p :=
  (carries_note notes _ _ _ p).bind fun _ p => carries_change g _ p

theorem carries_resortCast (g : Session → Session) (p : Play) :
    Carries (Play.via g) resortCast p := by
  apply (carries_stage? g p).bind
  intro s p
  cases s.cast.resort s.attributes.priorityOf with
  | ok cast => exact carries_change g _ p
  | error e => exact carries_throw _ _ p

theorem carries_writeAttribute (notes : Session.CarriesNotes g) (path key value : String)
    (p : Play) : Carries (Play.via g) (writeAttribute path key value) p := by
  rw [writeAttribute]
  by_cases hrefused : isPriority path key = true ∧ (Number.readInt? value).isNone = true
  · simp only [hrefused, and_self, if_true]
    exact rfl
  simp only [hrefused, if_false]
  apply (carries_stage? g p).bind
  intro s p
  cases s.attributes.set path key value with
  | error cause => exact rfl
  | ok attributes =>
    apply (carries_change g _ p).bind
    intro _ p
    apply (carries_note notes _ _ _ p).bind
    intro _ p
    cases isPriority path key with
    | false => exact carries_pure _ _ p
    | true => exact carries_resortCast g p

theorem carries_changeBackground (notes : Session.CarriesNotes g)
    (image : p.stage.backdrops.lookup path = none →
      Carries g (Session.loadImage path) p.session) :
    Carries (Play.via g) (changeBackground path) p := by
  have hset : ∀ p, Carries (Play.via g) (do
      Session.note "engine" .debug ("Background set to " ++ path)
      Play.change fun s => { s with background := some path } : Act Unit) p := fun p =>
    (carries_note notes _ _ _ p).bind fun _ p => carries_change g _ p
  rw [changeBackground]
  apply (carries_stage? g p).bind_of_run
  rintro s q ⟨⟩
  cases hlookup : p.stage.backdrops.lookup path with
  | some image =>
    simp only [Option.isNone_some, Bool.false_eq_true, if_false]
    exact hset p
  | none =>
    simp only [Option.isNone_none, if_true]
    apply (carries_lift (image hlookup)).bind
    intro image p
    apply (carries_change g _ p).bind
    intro _ p
    exact hset p

theorem noting_of_carriesNotes (notes : Session.CarriesNotes g) (session : Session) (s : Stage)
    (script : Script) : noting (g session) s script = g (noting session s script) := by
  have hnote := notes "engine" .debug ("Jumping from " ++ s.cursor.script.name ++ ":" ++
    Text.natText s.cursor.index ++ " to " ++ script.name) session
  rw [Carries, Session.run_note, Session.run_note] at hnote
  injection hnote

/-- A script is loaded when it is not held for the jump that is followed. -/
theorem carries_advance_of_takes (notes : Session.CarriesNotes g)
    (takes : p.stage.Takes choice target)
    (script : p.stage.held? target = none →
      Carries g (Session.loadScript (p.stage.fileOf target) (some target)) p.session) :
    Carries (Play.via g) (advance choice) p := by
  have hvia : (p.via g).stage = p.stage := rfl
  have htakes : (p.via g).stage.Takes choice target := takes
  rw [Carries, run_advance_of_takes takes, run_advance_of_takes htakes, hvia]
  cases hheld : p.stage.held? target with
  | some script =>
    simp only [Play.via, noting_of_carriesNotes notes]
    rfl
  | none =>
    have hload : (Session.loadScript (p.stage.fileOf target) (some target)).run (p.via g).session =
        carry g ((Session.loadScript (p.stage.fileOf target) (some target)).run p.session) :=
      script hheld
    simp only [hload]
    cases (Session.loadScript (p.stage.fileOf target) (some target)).run p.session with
    | error e session => rfl
    | ok script session =>
      simp only [carry, noting_of_carriesNotes notes]
      rfl

theorem carries_advance (notes : Session.CarriesNotes g)
    (script : ∀ target, p.stage.Takes choice target → p.stage.held? target = none →
      Carries g (Session.loadScript (p.stage.fileOf target) (some target)) p.session)
    (image : ∀ path, p.stage.current = some (.directive (.background path)) →
      p.stage.backdrops.lookup path = none → Carries g (Session.loadImage path) p.session) :
    Carries (Play.via g) (advance choice) p := by
  have hstep : ∀ {a : Act Unit}, Carries (Play.via g) a p →
      Carries (Play.via g)
        (do a; Play.change stepped; return (← Play.stage?).current : Act (Option Event)) p :=
    fun ha => ha.bind fun _ p => (carries_change g _ p).bind fun _ p =>
      (carries_stage? g p).bind fun _ p => carries_pure _ _ p
  by_cases htakes : ∃ target, p.stage.Takes choice target
  · obtain ⟨target, htakes⟩ := htakes
    exact carries_advance_of_takes notes htakes (script target htakes)
  push Not at htakes
  rw [advance]
  apply (carries_stage? g p).bind_of_run
  rintro s q ⟨⟩
  cases hcurrent : p.stage.current with
  | none => exact carries_pure _ _ p
  | some event =>
    cases event with
    | dialogue speaker lines => exact hstep (carries_pure _ () p)
    | directive d =>
      cases d with
      | jump target choices =>
        have hdeclined : ¬(choices.isNone || choice) = true :=
          fun hfollowed => htakes target ⟨choices, hcurrent, hfollowed⟩
        simp only [hdeclined, Bool.false_eq_true, if_false]
        exact hstep (carries_note notes _ _ _ p)
      | «show» name placement => exact hstep (carries_showSprite notes name placement p)
      | hide name placement => exact hstep (carries_hideSprite notes name p)
      | background path => exact hstep (carries_changeBackground notes (image path hcurrent))
      | «attribute» path key value => exact hstep (carries_writeAttribute notes path key value p)
      | custom name arguments => exact hstep (carries_note notes _ _ _ p)

end Stage

end VisualNovel
