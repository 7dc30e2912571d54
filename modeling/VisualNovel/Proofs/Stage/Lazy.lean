import VisualNovel.Proofs.Stage.Beside
import VisualNovel.Proofs.Stage.Carry
import VisualNovel.Stage.Render

/-!
# Nothing is loaded before it is reached

A step looks at a file in two cases: it follows a jump whose script has not been loaded, or it sets a
background whose picture has not been. On a tree in which the files that are looked at read the same,
whatever the others may be, every run does the same.
-/
namespace VisualNovel

def Play.on (u : FileTree) (p : Play) : Play :=
  { p with session := p.session.on u }

namespace Stage

variable {u : FileTree} {p : Play} {choice : Bool} {α : Type}

/-- A step does the same on another tree if what it looks at reads the same there. -/
theorem carries_advance_on
    (same : ∀ file, ReadsFile choice p file → u.read file.text = p.session.files.read file.text) :
    Carries (Play.on u) (advance choice) p := by
  apply carries_advance (Session.carriesNotes_on u)
  · rintro target ⟨choices, hjump, hfollowed⟩ hheld
    obtain ⟨hunresolved, hmissing⟩ := Option.or_eq_none_iff.1 hheld
    exact Session.carries_loadScript (same _ (.script hjump hfollowed hunresolved hmissing)) _
  · intro path hbackground hfresh
    exact Session.carries_loadImage fun hmissing =>
      same _ (.background hbackground hfresh hmissing)

theorem files_leaves {a : Act α} (h : Carries (Play.on p.session.files) a p) :
    (leaves (a.run p)).session.files = p.session.files := by
  rw [h.leaves_eq rfl]
  rfl

theorem files_of_advance {next : Option Event} {q : Play}
    (run : (advance choice).run p = .ok next q) : q.session.files = p.session.files := by
  have hown : Carries (Play.on p.session.files) (advance choice) p :=
    carries_advance_on fun _ _ => rfl
  have hleaves := files_leaves hown
  rwa [run] at hleaves

theorem carries_frameNow (u : FileTree) (p : Play) : Carries (Play.on u) frameNow p := by
  apply (carries_stage? (Session.on u) p).bind
  intro s p
  cases s.frame with
  | ok f => exact carries_pure _ f p
  | error e => exact carries_throw _ _ p

/-- Stepping on to an event makes a step at a play. -/
inductive Passes (stop : Event → Bool) : Nat → Play → Play → Prop where
  | here {budget : Nat} {p : Play} {e : Event} (event : p.stage.current = some e)
      (passed : stop e = false) : Passes stop (budget + 1) p p
  | later {budget : Nat} {p q r : Play} {e : Event} {next : Option Event}
      (event : p.stage.current = some e) (passed : stop e = false)
      (step : (advance false).run p = .ok next q) (passes : Passes stop budget q r) :
      Passes stop (budget + 1) p r

theorem carries_seek {stop : Event → Bool} {budget : Nat}
    (same : ∀ q file, Passes stop budget p q → ReadsFile false q file →
      u.read file.text = p.session.files.read file.text) :
    Carries (Play.on u) (seek stop budget) p := by
  induction budget generalizing p with
  | zero => exact carries_throw _ _ p
  | succ budget ih =>
    rw [seek]
    apply (carries_stage? (Session.on u) p).bind_of_run
    rintro s q ⟨⟩
    cases hcurrent : p.stage.current with
    | none => exact carries_pure _ _ p
    | some e =>
      cases hstop : stop e with
      | true =>
        simp only [hstop, if_true]
        exact carries_pure _ _ p
      | false =>
        simp only [hstop, Bool.false_eq_true, if_false]
        have hstep : Carries (Play.on u) (advance false) p :=
          carries_advance_on fun file => same p file (.here hcurrent hstop)
        apply hstep.bind_of_run
        intro next q hrun
        apply ih
        intro r file hpasses hreads
        rw [files_of_advance hrun]
        exact same r file (.later hcurrent hstop hrun hpasses) hreads

/-- What may be asked of a stage. -/
inductive Call where
  | next (choice : Bool)
  | seek (stop : Event → Bool) (budget : Nat)
  | frame

inductive Answer where
  | event (current : Option Event)
  | frame (shown : Option Frame)

def Call.perform : Call → Act Answer
  | .next choice => do return .event (← advance choice)
  | .seek stop budget => do return .event (← Stage.seek stop budget)
  | .frame => do return .frame (← frameNow)

/-- A call makes a step with a choice at a play. -/
def Call.Makes (p : Play) : Call → Bool → Play → Prop
  | .next choice => fun c q => c = choice ∧ q = p
  | .seek stop budget => fun c q => c = false ∧ Passes stop budget p q
  | .frame => fun _ _ => False

/-- What calls come to, one after the other. After a call that fails the next one is made all the
same. -/
def outcomes : List Call → Play → List (EStateM.Result Failure Play Answer)
  | [], _ => []
  | call :: rest, p => call.perform.run p :: outcomes rest (leaves (call.perform.run p))

/-- One of the calls makes a step with a choice at a play. -/
def Makes : List Call → Play → Bool → Play → Prop
  | [], _ => fun _ _ => False
  | call :: rest, p => fun choice q =>
    call.Makes p choice q ∨ Makes rest (leaves (call.perform.run p)) choice q

theorem carries_perform {call : Call}
    (same : ∀ choice q file, call.Makes p choice q → ReadsFile choice q file →
      u.read file.text = p.session.files.read file.text) :
    Carries (Play.on u) call.perform p := by
  cases call with
  | next choice =>
    have hadvance : Carries (Play.on u) (advance choice) p :=
      carries_advance_on fun file => same choice p file ⟨rfl, rfl⟩
    exact hadvance.bind fun _ q => carries_pure _ _ q
  | seek stop budget =>
    have hseek : Carries (Play.on u) (Stage.seek stop budget) p :=
      carries_seek fun q file hpasses => same false q file ⟨rfl, hpasses⟩
    exact hseek.bind fun _ q => carries_pure _ _ q
  | frame => exact (carries_frameNow u p).bind fun _ q => carries_pure _ _ q

theorem outcomes_on {calls : List Call}
    (same : ∀ choice q file, Makes calls p choice q → ReadsFile choice q file →
      u.read file.text = p.session.files.read file.text) :
    outcomes calls (p.on u) = (outcomes calls p).map (carry (Play.on u)) := by
  induction calls generalizing p with
  | nil => rfl
  | cons call rest ih =>
    have hperform : call.perform.run (p.on u) = carry (Play.on u) (call.perform.run p) :=
      carries_perform fun choice q file hmakes => same choice q file (Or.inl hmakes)
    have hown : Carries (Play.on p.session.files) call.perform p :=
      carries_perform fun _ _ _ _ _ => rfl
    rw [outcomes, outcomes, List.map_cons, hperform, leaves_carry, ih]
    intro choice q file hmakes
    rw [files_leaves hown]
    exact same choice q file (Or.inr hmakes)

/-- Nothing is loaded before play reaches it. The same calls come to the same answers, failures and
states on every tree in which each file that a step of the first run looks at reads the same. So no
file matters but the targets of jumps that are followed and the backgrounds that are set. Parsing looks
at no file at all. -/
theorem nothing_loaded_early (u : FileTree) (p : Play) :
    (∀ source name, (Session.parseScript source name).run (p.session.on u) =
      carry (Session.on u) ((Session.parseScript source name).run p.session)) ∧
    ∀ calls : List Call,
      ((∀ choice q file, Makes calls p choice q → ReadsFile choice q file →
          u.read file.text = p.session.files.read file.text) →
        outcomes calls (p.on u) = (outcomes calls p).map (carry (Play.on u))) ∧
      ((∀ file : Path, u.read file.text ≠ p.session.files.read file.text →
          ∀ choice q, Makes calls p choice q →
            (∀ target, q.stage.Takes choice target → file ≠ q.stage.fileOf target) ∧
            ∀ path, q.stage.current = some (.directive (.background path)) →
              file ≠ q.session.images.resolve path) →
        outcomes calls (p.on u) = (outcomes calls p).map (carry (Play.on u))) := by
  refine ⟨fun source name => Session.carries_parseScript u source name p.session,
    fun calls => ⟨outcomes_on, fun hothers => outcomes_on ?_⟩⟩
  intro choice q file hmakes hreads
  by_contra hne
  obtain ⟨htargets, hbackgrounds⟩ := hothers file hne choice q hmakes
  cases hreads with
  | @script target choices event followed => exact htargets target ⟨choices, event, followed⟩ rfl
  | @background path event => exact hbackgrounds path event rfl

/-- The target of a jump that is declined may be broken and the picture of a sprite missing: what is
seen behind them is the same. -/
theorem nothing_loaded_early_declined :
    ∃ (left right : FileTree) (p : Play) (f : DialogueFrame) (q : Play),
      left.read "gone.txt" = .ok (.bytes [255]) ∧ right.read "gone.txt" = .ok (Content.ofText "") ∧
      left.read "p.png" = .error (.refused .noEntry "p.png") ∧
      right.read "p.png" = .ok (Content.ofText "IMG 1 1") ∧
      p.stage.cursor.script.events = [.directive (.jump "gone.txt" (some ⟨"go", "stay"⟩)),
        .directive (.show "x" ⟨"p.png", 0, 0⟩), .directive (.background "h.png"),
        .dialogue "A" ["hi"]] ∧
      p.session.files = left ∧
      (outcomes [.next false, .next false, .next false, .frame] p).getLast? =
        some (.ok (.frame (some (.dialogue f))) q) ∧
      f.sprites = [⟨"x", "p.png", 0, 0, none⟩] ∧
      outcomes [.next false, .next false, .next false, .frame] (p.on right) =
        (outcomes [.next false, .next false, .next false, .frame] p).map
          (carry (Play.on right)) := by
  obtain ⟨left, hleft⟩ : ∃ left : FileTree,
      left = { entries := [(["gone.txt"], .file (.bytes [255]))] } := ⟨_, rfl⟩
  refine ⟨left, { entries := [(["gone.txt"], .file (Content.ofText "")),
      (["p.png"], .file (Content.ofText "IMG 1 1"))] },
    ⟨{ files := left, images := { images := [("h.png", .canvas 4 3)] } }, opening {} ⟨"s.txt", _⟩⟩,
    ⟨_, [⟨"x", "p.png", 0, 0, none⟩], _, _, _, _⟩, _, hleft ▸ rfl, rfl, hleft ▸ rfl, rfl, rfl, rfl, rfl,
    rfl, ?_⟩
  apply ((nothing_loaded_early _ _).2 _).2
  rintro file hne choice q (⟨rfl, rfl⟩ | ⟨rfl, rfl⟩ | ⟨rfl, rfl⟩ | h | h)
  · constructor
    · rintro target ⟨choices, hevent, hfollowed⟩
      cases hevent
      cases hfollowed
    · intro path hevent
      cases hevent
  · constructor
    · rintro target ⟨choices, hevent, -⟩
      cases hevent
    · intro path hevent
      cases hevent
  · constructor
    · rintro target ⟨choices, hevent, -⟩
      cases hevent
    · rintro path hevent rfl
      cases hevent
      rw [hleft] at hne
      exact hne rfl
  · exact h.elim
  · exact h.elim

end Stage

end VisualNovel
