import VisualNovel.Proofs.Session.Alike
import VisualNovel.Proofs.Stage.Step

/-!
# The scene

What a stage keeps from one script to the next is its scene: the settings, the attributes, the cast and
the background with the pictures loaded for it. A frame shows the scene and the current event alone.
Stepping an event that is not a jump changes the scene in a way that depends on nothing but the scene,
the event and the picture that is loaded for it; a jump leaves the scene as it is.
-/
namespace VisualNovel

structure Scene where
  settings : Settings
  attributes : AttributeTree
  cast : Cast
  background : Option String
  backdrops : List (String × Surface)

def Event.isJump : Event → Bool
  | .directive (.jump _ _) => true
  | _ => false

theorem Event.exists_of_isJump {e : Event} (h : e.isJump = true) :
    ∃ target choices, e = .directive (.jump target choices) := by
  cases e with
  | dialogue speaker lines => cases h
  | directive d =>
    cases d with
    | jump target choices => exact ⟨target, choices, rfl⟩
    | «show» | hide | background | «attribute» | custom => cases h

/-- Operations of the sessions that end alike leave the stages where they are. -/
theorem Alike.lift {α : Type} {failed : Session → Session → Prop}
    {done : α → α → Session → Session → Prop} {a b : Action α} {p q : Play}
    (h : Alike failed done (a.run p.session) (b.run q.session)) :
    Alike (fun p' q' => failed p'.session q'.session ∧ p'.stage = p.stage ∧ q'.stage = q.stage)
      (fun x y p' q' => done x y p'.session q'.session ∧ p'.stage = p.stage ∧ q'.stage = q.stage)
      ((liftM a : Act α).run p) ((liftM b : Act α).run q) := by
  rw [Play.run_lift, Play.run_lift]
  obtain ⟨x, s, y, t, hp, hq, hdone⟩ | ⟨e, s, t, hp, hq, hfailed⟩ := h.cases
  · rw [hp, hq]
    exact ⟨hdone, rfl, rfl⟩
  · rw [hp, hq]
    exact ⟨rfl, hfailed, rfl, rfl⟩

namespace Stage

variable {S : Session → Session → Prop} {s t : Stage} {p q : Play}

def scene (s : Stage) : Scene :=
  ⟨s.settings, s.attributes, s.cast, s.background, s.backdrops⟩

/-- A stage at the same place of the same scripts in another scene. -/
def inScene (s : Stage) (x : Scene) : Stage :=
  { s with
    settings := x.settings
    attributes := x.attributes
    cast := x.cast
    background := x.background
    backdrops := x.backdrops }

@[simp]
theorem scene_inScene (s : Stage) (x : Scene) : (s.inScene x).scene = x :=
  rfl

theorem inScene_scene (s : Stage) : s.inScene s.scene = s :=
  rfl

@[simp]
theorem current_inScene (s : Stage) (x : Scene) : (s.inScene x).current = s.current :=
  rfl

theorem frame_congr (scene : s.scene = t.scene) (current : s.current = t.current) :
    s.frame = t.frame := by
  rw [← inScene_scene t, ← scene]
  simp only [frame, current_inScene, current]
  rfl

theorem Moved.scene_of_isJump (h : Moved s t) {e : Event} (event : s.current = some e)
    (jump : e.isJump = true) : t.scene = s.scene := by
  cases h with
  | finished | passed | followed => rfl
  | shown here | hidden here | changed here | written here | ranked here =>
    rw [event] at here
    cases here
    cases jump

/-- Two plays at given places of their scripts are in one scene and in sessions that correspond. -/
structure Shared (S : Session → Session → Prop) (s t : Stage) (p q : Play) : Prop where
  session : S p.session q.session
  scene : ∃ x, p.stage = s.inScene x ∧ q.stage = t.inScene x

/-- How two operations end that leave one scene behind, unless they fail. -/
abbrev EndsShared {α : Type} (S : Session → Session → Prop) (s t : Stage) :
    EStateM.Result Failure Play α → EStateM.Result Failure Play α → Prop :=
  Alike (fun p q => S p.session q.session) fun _ _ => Shared S s t

theorem Shared.lift {α : Type} {a b : Action α} (h : Shared S s t p q)
    (hab : Alike S (fun x y p q => x = y ∧ S p q) (a.run p.session) (b.run q.session)) :
    Alike (fun p q => S p.session q.session) (fun x y p q => x = y ∧ Shared S s t p q)
      ((liftM a : Act α).run p) ((liftM b : Act α).run q) := by
  apply hab.lift.imp (fun _ _ hfailed => hfailed.1)
  rintro x y p' q' ⟨⟨hvalue, hsession⟩, hp, hq⟩
  refine ⟨hvalue, hsession, ?_⟩
  rw [hp, hq]
  exact h.scene

/-- The correspondence of sessions does not ask for what has been noted. -/
def IgnoresJournal (S : Session → Session → Prop) : Prop :=
  ∀ p q journal journal', S p q → S { p with journal } { q with journal := journal' }

theorem Shared.note (h : Shared S s t p q) (quiet : IgnoresJournal S) (module : String)
    (level : Journal.Level) (message : String) :
    EndsShared S s t ((liftM (Session.note module level message) : Act Unit).run p)
      ((liftM (Session.note module level message) : Act Unit).run q) := by
  rw [Play.run_lift, Play.run_lift, Session.run_note, Session.run_note]
  exact ⟨quiet _ _ _ _ h.session, h.scene⟩

theorem Shared.change (h : Shared S s t p q) {f : Stage → Stage} {s' t' : Stage}
    (hf : ∀ x, ∃ y, f (s.inScene x) = s'.inScene y ∧ f (t.inScene x) = t'.inScene y) :
    EndsShared S s' t' ((Play.change f).run p) ((Play.change f).run q) := by
  obtain ⟨x, hp, hq⟩ := h.scene
  rw [Play.run_change, Play.run_change, hp, hq]
  exact ⟨h.session, hf x⟩

theorem Shared.showSprite (h : Shared S s t p q) (quiet : IgnoresJournal S) (name : String)
    (placement : Placement) :
    EndsShared S s t ((showSprite name placement).run p) ((Stage.showSprite name placement).run q) := by
  apply (h.note quiet _ _ _).bind
  intro _ _ p q h
  obtain ⟨x, hp, hq⟩ := h.scene
  rw [EStateM.run_bind, EStateM.run_bind, Play.run_stage?, Play.run_stage?]
  simp only [hp, hq, inScene]
  cases x.cast.present x.attributes.priorityOf ⟨name, placement.path, placement.x, placement.y⟩ with
  | error e => exact ⟨rfl, h.session⟩
  | ok cast =>
    apply h.change
    intro y
    exact ⟨{ y with cast }, rfl, rfl⟩

theorem Shared.hideSprite (h : Shared S s t p q) (quiet : IgnoresJournal S) (name : String) :
    EndsShared S s t ((hideSprite name).run p) ((Stage.hideSprite name).run q) := by
  apply (h.note quiet _ _ _).bind
  intro _ _ p q h
  apply h.change
  intro x
  exact ⟨{ x with cast := x.cast.dismiss name }, rfl, rfl⟩

theorem Shared.setBackground (h : Shared S s t p q) (quiet : IgnoresJournal S) (path : String) :
    EndsShared S s t
      ((do
        Session.note "engine" .debug ("Background set to " ++ path)
        Play.change fun s => { s with background := some path } : Act Unit).run p)
      ((do
        Session.note "engine" .debug ("Background set to " ++ path)
        Play.change fun s => { s with background := some path } : Act Unit).run q) := by
  apply (h.note quiet _ _ _).bind
  intro _ _ p q h
  apply h.change
  intro x
  exact ⟨{ x with background := some path }, rfl, rfl⟩

/-- A background is loaded at the first time only; the loads must end alike. -/
theorem Shared.changeBackground (h : Shared S s t p q) (quiet : IgnoresJournal S) (path : String)
    (load : p.stage.backdrops.lookup path = none →
      Alike S (fun x y p q => x = y ∧ S p q) ((Session.loadImage path).run p.session)
        ((Session.loadImage path).run q.session)) :
    EndsShared S s t ((changeBackground path).run p) ((Stage.changeBackground path).run q) := by
  obtain ⟨x, hp, hq⟩ := h.scene
  have hbackdrops : q.stage.backdrops = p.stage.backdrops := by
    rw [hp, hq]
    rfl
  rw [Stage.changeBackground, EStateM.run_bind, EStateM.run_bind, Play.run_stage?, Play.run_stage?]
  simp only [hbackdrops]
  cases hlookup : p.stage.backdrops.lookup path with
  | some image =>
    simp only [Option.isNone_some, Bool.false_eq_true, if_false]
    exact h.setBackground quiet path
  | none =>
    simp only [Option.isNone_none, if_true]
    apply (h.lift (load hlookup)).bind
    rintro image _ p q ⟨rfl, h⟩
    have hkeep : EndsShared S s t
        ((Play.change fun s => { s with backdrops := (path, image) :: s.backdrops }).run p)
        ((Play.change fun s => { s with backdrops := (path, image) :: s.backdrops }).run q) := by
      apply h.change
      intro x
      exact ⟨{ x with backdrops := (path, image) :: x.backdrops }, rfl, rfl⟩
    apply hkeep.bind
    intro _ _ p q h
    exact h.setBackground quiet path

theorem Shared.resortCast (h : Shared S s t p q) :
    EndsShared S s t (resortCast.run p) (Stage.resortCast.run q) := by
  obtain ⟨x, hp, hq⟩ := h.scene
  rw [run_resortCast, run_resortCast]
  simp only [hp, hq, inScene]
  cases x.cast.resort x.attributes.priorityOf with
  | error e => exact ⟨rfl, h.session⟩
  | ok cast => exact ⟨h.session, { x with cast }, rfl, rfl⟩

theorem Shared.writeAttribute (h : Shared S s t p q) (quiet : IgnoresJournal S)
    (path key value : String) :
    EndsShared S s t ((writeAttribute path key value).run p)
      ((Stage.writeAttribute path key value).run q) := by
  obtain ⟨x, hp, hq⟩ := h.scene
  rw [Stage.writeAttribute]
  by_cases hrefused : isPriority path key = true ∧ (Number.readInt? value).isNone = true
  · simp only [hrefused, and_self, if_true, EStateM.run_bind, Play.run_throw]
    exact ⟨rfl, h.session⟩
  simp only [hrefused, if_false]
  rw [EStateM.run_bind, EStateM.run_bind, Play.run_stage?, Play.run_stage?]
  simp only [hp, hq, inScene]
  cases x.attributes.set path key value with
  | error cause => exact ⟨rfl, h.session⟩
  | ok attributes =>
    have hset : EndsShared S s t ((Play.change fun s => { s with attributes }).run p)
        ((Play.change fun s => { s with attributes }).run q) := by
      apply h.change
      intro x
      exact ⟨{ x with attributes }, rfl, rfl⟩
    apply hset.bind
    intro _ _ p q h
    apply (h.note quiet _ _ _).bind
    intro _ _ p q h
    cases isPriority path key with
    | false => exact h
    | true => exact h.resortCast

/-- Two plays in one scene, at the same event that is not a jump, step to one scene, or fail for the
same reason, as far as the picture that the event may ask for is had alike. -/
theorem Shared.advance {e : Event} (h : Shared S s t p q) (quiet : IgnoresJournal S)
    (left : s.current = some e) (right : t.current = some e) (plain : e.isJump = false)
    (load : ∀ path, e = .directive (.background path) → p.stage.backdrops.lookup path = none →
      Alike S (fun x y p q => x = y ∧ S p q) ((Session.loadImage path).run p.session)
        ((Session.loadImage path).run q.session)) (choice choice' : Bool) :
    EndsShared S s.stepped t.stepped ((advance choice).run p) ((Stage.advance choice').run q) := by
  have hstep : ∀ {a b : Act Unit}, EndsShared S s t (a.run p) (b.run q) →
      EndsShared S s.stepped t.stepped
        ((do a; Play.change stepped; return (← Play.stage?).current : Act (Option Event)).run p)
        ((do b; Play.change stepped; return (← Play.stage?).current : Act (Option Event)).run q) := by
    intro a b hab
    apply hab.bind
    intro _ _ p q h
    have hmoved : EndsShared S s.stepped t.stepped ((Play.change stepped).run p)
        ((Play.change stepped).run q) := by
      apply h.change
      intro x
      exact ⟨x, rfl, rfl⟩
    apply hmoved.bind
    intro _ _ p q h
    exact h
  obtain ⟨x, hp, hq⟩ := h.scene
  have hleft : p.stage.current = some e := by
    rw [hp]
    exact left
  have hright : q.stage.current = some e := by
    rw [hq]
    exact right
  rw [Stage.advance, Stage.advance, EStateM.run_bind, EStateM.run_bind, Play.run_stage?,
    Play.run_stage?]
  simp only [hleft, hright]
  cases e with
  | dialogue speaker lines =>
    have hpure : EndsShared S s t ((pure () : Act Unit).run p) ((pure () : Act Unit).run q) := h
    exact hstep hpure
  | directive d =>
    cases d with
    | jump target choices => cases plain
    | «show» name placement => exact hstep (h.showSprite quiet name placement)
    | hide name placement => exact hstep (h.hideSprite quiet name)
    | background path => exact hstep (h.changeBackground quiet path (load path rfl))
    | «attribute» path key value => exact hstep (h.writeAttribute quiet path key value)
    | custom name arguments => exact hstep (h.note quiet _ _ _)

end Stage

end VisualNovel
