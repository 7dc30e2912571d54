import VisualNovel.Proofs.Session.Twins
import VisualNovel.Proofs.Stage.Failure
import VisualNovel.Proofs.Stage.Scene

/-!
# Steps side by side

Two stages that differ in the cache alone, played in sessions side by side, step alike, as far as the
files that a step reads avoid the reserved places.
-/
namespace VisualNovel

open FileTree (Agree Avoids)

namespace Stage

variable {reserved : Location → Prop} {t u : FileTree} {store : ImageStore} {p q : Play}
  {cache : Option RenderCache} {α : Type}

/-- A step that applies the current event reads a file. -/
inductive ReadsFile (choice : Bool) (p : Play) : Path → Prop where
  | script {target : String} {choices : Option Choices}
      (event : p.stage.current = some (.directive (.jump target choices)))
      (followed : (choices.isNone || choice) = true)
      (unresolved : p.stage.resolved.lookup (p.stage.cursor.id, p.stage.cursor.index) = none)
      (missing : p.stage.library.lookup target = none) :
      ReadsFile choice p ((Path.ofText p.stage.settings.baseDir).join (Path.ofText target))
  | background {path : String} (event : p.stage.current = some (.directive (.background path)))
      (fresh : p.stage.backdrops.lookup path = none)
      (missing : p.session.images.get? path = none) :
      ReadsFile choice p (p.session.images.resolve path)

/-- Two plays in sessions side by side, whose stages differ in the cache alone. -/
structure Beside (cache : Option RenderCache) (t u : FileTree) (store : ImageStore) (p q : Play) :
    Prop where
  session : Twins t u store p.session q.session
  stage : p.stage = { q.stage with cache }

/-- How two operations end that give one value and leave the plays side by side. -/
abbrev EndsBeside (cache : Option RenderCache) (t u : FileTree) (store : ImageStore) :
    EStateM.Result Failure Play α → EStateM.Result Failure Play α → Prop :=
  Alike (fun p q => Twins t u store p.session q.session) fun x y p q =>
    x = y ∧ Beside cache t u store p q

/-- How two steps end that leave the plays side by side. -/
abbrev EndsSteps (cache : Option RenderCache) (t u : FileTree) (store : ImageStore) :
    EStateM.Result Failure Play α → EStateM.Result Failure Play α → Prop :=
  Alike (fun p q => Twins t u store p.session q.session) fun _ _ => Beside cache t u store

namespace Beside

theorem pure (h : Beside cache t u store p q) (a : α) :
    EndsBeside cache t u store ((Pure.pure a : Act α).run p) ((Pure.pure a : Act α).run q) :=
  ⟨rfl, h⟩

theorem lift {a b : Action α} (h : Beside cache t u store p q)
    (hab : Twins.Both t u store (a.run p.session) (b.run q.session)) :
    EndsBeside cache t u store ((liftM a : Act α).run p) ((liftM b : Act α).run q) := by
  apply hab.lift.imp (fun _ _ hfailed => hfailed.1)
  rintro x y p' q' ⟨⟨hvalue, htwins⟩, hp, hq⟩
  refine ⟨hvalue, htwins, ?_⟩
  rw [hp, hq]
  exact h.stage

theorem note (h : Beside cache t u store p q) (module : String) (level : Journal.Level)
    (message : String) :
    EndsBeside cache t u store ((liftM (Session.note module level message) : Act Unit).run p)
      ((liftM (Session.note module level message) : Act Unit).run q) :=
  h.lift (h.session.note module level message)

theorem change (h : Beside cache t u store p q) {f : Stage → Stage}
    (hf : ∀ s : Stage, f { s with cache } = { f s with cache }) :
    EndsBeside cache t u store ((Play.change f).run p) ((Play.change f).run q) := by
  rw [Play.run_change, Play.run_change]
  refine ⟨rfl, h.session, ?_⟩
  rw [h.stage, hf]

theorem keepScript (h : Beside cache t u store p q) {load : Action Script}
    (hload : Twins.Both t u store (load.run p.session) (load.run q.session)) (path : String) :
    EndsBeside cache t u store
      ((do
        let script ← load
        Play.change fun s => { s with library := (path, script) :: s.library }
        return script : Act Script).run p)
      ((do
        let script ← load
        Play.change fun s => { s with library := (path, script) :: s.library }
        return script : Act Script).run q) := by
  apply (h.lift hload).bind
  rintro script _ p q ⟨rfl, h⟩
  have hkeep : EndsBeside cache t u store
      ((Play.change fun s => { s with library := (path, script) :: s.library }).run p)
      ((Play.change fun s => { s with library := (path, script) :: s.library }).run q) :=
    h.change fun _ => rfl
  apply hkeep.bind
  rintro _ _ p q ⟨-, h⟩
  exact h.pure script

theorem loadTarget (h : Beside cache t u store p q) (agree : Agree reserved t u) {path : String}
    (avoids : q.stage.library.lookup path = none → Avoids reserved u.home
      ((Path.ofText q.stage.settings.baseDir).join (Path.ofText path)).text) :
    EndsBeside cache t u store ((loadTarget path).run p) ((Stage.loadTarget path).run q) := by
  rw [Stage.loadTarget, EStateM.run_bind, EStateM.run_bind, Play.run_stage?, Play.run_stage?]
  simp only [h.stage]
  cases hlibrary : q.stage.library.lookup path with
  | some script => exact h.pure script
  | none =>
    have havoids := avoids hlibrary
    -- With a variable for the file no step below looks into what its text is made of.
    generalize (Path.ofText q.stage.settings.baseDir).join (Path.ofText path) = file at havoids ⊢
    apply h.keepScript
    exact h.session.loadScript agree havoids (some path)

theorem resolve (h : Beside cache t u store p q) (agree : Agree reserved t u)
    {reference : Reference Script}
    (avoids : reference.loaded = none → q.stage.library.lookup reference.path = none →
      Avoids reserved u.home
        ((Path.ofText q.stage.settings.baseDir).join (Path.ofText reference.path)).text) :
    EndsBeside cache t u store ((reference.resolve Stage.loadTarget).run p)
      ((reference.resolve Stage.loadTarget).run q) := by
  rw [Reference.resolve]
  cases hloaded : reference.loaded with
  | some script => exact h.pure (script, reference)
  | none =>
    apply (h.loadTarget agree (avoids hloaded)).bind
    rintro script _ p q ⟨rfl, h⟩
    exact h.pure _

theorem follow (h : Beside cache t u store p q) (agree : Agree reserved t u) {target : String}
    (avoids : q.stage.resolved.lookup (q.stage.cursor.id, q.stage.cursor.index) = none →
      q.stage.library.lookup target = none → Avoids reserved u.home
        ((Path.ofText q.stage.settings.baseDir).join (Path.ofText target)).text) :
    EndsBeside cache t u store ((follow target).run p) ((Stage.follow target).run q) := by
  have hcursor : p.stage.cursor = q.stage.cursor := by rw [h.stage]
  have hreference : p.stage.referenceAt q.stage.cursor.id q.stage.cursor.index target =
      q.stage.referenceAt q.stage.cursor.id q.stage.cursor.index target := by
    rw [h.stage]
    rfl
  rw [Stage.follow, EStateM.run_bind, EStateM.run_bind, Play.run_stage?, Play.run_stage?]
  simp only [hcursor, hreference]
  apply (h.resolve agree avoids).bind
  rintro ⟨script, reference⟩ _ p' q' ⟨rfl, h⟩
  apply (h.note _ _ _).bind
  rintro _ _ p' q' ⟨-, h⟩
  apply h.change
  intro s
  cases reference.loaded with
  | none => rfl
  | some script => cases s.resolved.lookup (q.stage.cursor.id, q.stage.cursor.index) <;> rfl

theorem ignoresJournal_twins (t u : FileTree) (store : ImageStore) :
    IgnoresJournal (Twins t u store) :=
  fun _ _ journal journal' h => h.of_journal journal journal'

theorem current_eq (h : Beside cache t u store p q) : p.stage.current = q.stage.current := by
  rw [h.stage]
  rfl

theorem advance_of_plain (h : Beside cache t u store p q) (agree : Agree reserved t u) {e : Event}
    (event : q.stage.current = some e) (plain : e.isJump = false) (choice : Bool)
    (avoids : ∀ file, ReadsFile choice q file → Avoids reserved u.home file.text) :
    EndsSteps cache t u store ((advance choice).run p) ((Stage.advance choice).run q) := by
  have hshared : Shared (Twins t u store) p.stage q.stage p q := by
    refine ⟨h.session, q.stage.scene, ?_, rfl⟩
    rw [h.stage]
    rfl
  have hload : ∀ path, e = .directive (.background path) → p.stage.backdrops.lookup path = none →
      Twins.Both t u store ((Session.loadImage path).run p.session)
        ((Session.loadImage path).run q.session) := by
    rintro path rfl hfresh
    rw [h.stage] at hfresh
    exact h.session.loadImage agree fun hmissing => avoids _ (.background event hfresh hmissing)
  have hstep := hshared.advance (ignoresJournal_twins t u store) (h.current_eq.trans event) event
    plain hload choice choice
  apply hstep.imp (fun _ _ htwins => htwins)
  rintro _ _ p' q' ⟨hsession, x, hp, hq⟩
  refine ⟨hsession, ?_⟩
  rw [hp, hq, h.stage]
  rfl

theorem advance_of_jump (h : Beside cache t u store p q) (agree : Agree reserved t u)
    {target : String} {choices : Option Choices}
    (event : q.stage.current = some (.directive (.jump target choices))) (choice : Bool)
    (avoids : ∀ file, ReadsFile choice q file → Avoids reserved u.home file.text) :
    EndsSteps cache t u store ((advance choice).run p) ((Stage.advance choice).run q) := by
  have hgive : ∀ {a b : Act Unit}, EndsBeside cache t u store (a.run p) (b.run q) →
      EndsSteps cache t u store
        ((do a; return (← Play.stage?).current : Act (Option Event)).run p)
        ((do b; return (← Play.stage?).current : Act (Option Event)).run q) := by
    intro a b hab
    apply hab.bind
    rintro _ _ p q ⟨-, h⟩
    exact h
  rw [Stage.advance, EStateM.run_bind, EStateM.run_bind, Play.run_stage?, Play.run_stage?]
  simp only [h.current_eq, event]
  by_cases hfollowed : (choices.isNone || choice) = true
  · simp only [hfollowed, if_true]
    apply hgive
    apply h.follow agree
    intro hunresolved hmissing
    exact avoids _ (.script event hfollowed hunresolved hmissing)
  · simp only [hfollowed, Bool.false_eq_true, if_false]
    apply (h.note _ _ _).bind
    rintro _ _ p q ⟨-, h⟩
    have hstepped : EndsBeside cache t u store ((Play.change stepped).run p)
        ((Play.change stepped).run q) := h.change fun _ => rfl
    apply hstepped.bind
    rintro _ _ p q ⟨-, h⟩
    exact h

/-- A step ends alike on both stages. -/
theorem advance (h : Beside cache t u store p q) (agree : Agree reserved t u) (choice : Bool)
    (avoids : ∀ file, ReadsFile choice q file → Avoids reserved u.home file.text) :
    EndsSteps cache t u store ((advance choice).run p) ((Stage.advance choice).run q) := by
  cases hcurrent : q.stage.current with
  | none =>
    rw [Stage.advance, EStateM.run_bind, EStateM.run_bind, Play.run_stage?, Play.run_stage?]
    simp only [h.current_eq, hcurrent]
    exact h
  | some e =>
    cases hjump : e.isJump with
    | false => exact h.advance_of_plain agree hcurrent hjump choice avoids
    | true =>
      obtain ⟨target, choices, rfl⟩ := Event.exists_of_isJump hjump
      exact h.advance_of_jump agree hcurrent choice avoids

end Beside

end Stage

end VisualNovel
