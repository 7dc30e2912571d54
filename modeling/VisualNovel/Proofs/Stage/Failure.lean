import VisualNovel.Proofs.Stage.Cast
import VisualNovel.Proofs.Stage.Priority
import VisualNovel.Proofs.Stage.Step

/-!
# Steps that fail

A step that fails leaves the stage as it was, with one exception: the write of a priority that is
followed by a failure to order the sprites leaves the attribute written. The sprite whose priority
stands in the way has a dot in its name, since every write to the priority of another sprite has been
checked.
-/
namespace VisualNovel

open VisualNovel.Number
open VisualNovel.Stage

/-- The priorities of all sprites without a dot in their names can be read. -/
def AttributeTree.Legible (t : AttributeTree) : Prop :=
  ∀ sprite, '.' ∉ sprite.toList → ∃ i, t.priorityOf sprite = .ok i

namespace AttributeTree

theorem legible_empty : Legible empty := by
  intro sprite _
  exact ⟨0, priorityOf_of_none (textAt?_empty _)⟩

/-- A write keeps the priorities legible if it brings an integer whenever it is taken for the write
of a priority. -/
theorem Legible.set {t u : AttributeTree} {path key value : String} (h : t.Legible)
    (hset : t.set path key value = .ok u)
    (integer : isPriority path key = true → (readInt? value).isSome = true) : u.Legible := by
  intro sprite hsprite
  by_cases hpath : segments path ++ [key] = priorityPath sprite
  · obtain ⟨i, hi⟩ := Option.isSome_iff_exists.1
      (integer (isPriority_iff.2 ⟨sprite, hsprite, hpath⟩))
    refine ⟨i, ?_⟩
    rw [priorityOf_set hset hpath, hi]
  · rw [priorityOf_set_of_ne hset hpath]
    exact h sprite hsprite

end AttributeTree

namespace Stage

variable {s t : Stage} {attributes : AttributeTree}

/-- The stages that steps lead to, from the first event of a script on. Steps may fail, each may find
any session, and the cache may be exchanged between them. -/
inductive Reachable : Stage → Prop where
  | opening (settings : Settings) (script : Script) : Reachable (opening settings script)
  | moved {s : Stage} {choice : Bool} {session : Session} {event : Option Event} {q : Play} :
      Reachable s → (advance choice).run ⟨session, s⟩ = .ok event q → Reachable q.stage
  | stopped {s : Stage} {choice : Bool} {session : Session} {e : Failure} {q : Play} :
      Reachable s → (advance choice).run ⟨session, s⟩ = .error e q → Reachable q.stage
  | cached {s : Stage} (cache : Option RenderCache) : Reachable s → Reachable { s with cache }

theorem moved_of_run {choice : Bool} {session : Session} {event : Option Event} {q : Play}
    (h : (advance choice).run ⟨session, s⟩ = .ok event q) : Moved s q.stage := by
  have hadvance := steps_advance choice ⟨session, s⟩
  rw [h] at hadvance
  exact hadvance.1

theorem stopped_of_run {choice : Bool} {session : Session} {e : Failure} {q : Play}
    (h : (advance choice).run ⟨session, s⟩ = .error e q) : Stopped s q.stage := by
  have hadvance := steps_advance choice ⟨session, s⟩
  rw [h] at hadvance
  exact hadvance

theorem Moved.legible (h : Moved s t) (hs : s.attributes.Legible) : t.attributes.Legible := by
  cases h with
  | finished | passed | followed | shown | hidden | changed => exact hs
  | written event plain set =>
    apply hs.set set
    intro hpriority
    rw [plain] at hpriority
    cases hpriority
  | ranked event priority integer set resort => exact hs.set set fun _ => integer

theorem Stopped.legible (h : Stopped s t) (hs : s.attributes.Legible) : t.attributes.Legible := by
  cases h with
  | unchanged => exact hs
  | written event priority integer set resort => exact hs.set set fun _ => integer

theorem Reachable.legible (h : Reachable s) : s.attributes.Legible := by
  induction h with
  | opening settings script => exact AttributeTree.legible_empty
  | moved _ hrun ih => exact (moved_of_run hrun).legible ih
  | stopped _ hrun ih => exact (stopped_of_run hrun).legible ih
  | cached cache _ ih => exact ih

/-- The event at the cursor writes a priority, and the write is carried out, but the attributes that
it leaves hold a priority of a shown sprite that cannot be read. -/
def Blocked (s : Stage) (attributes : AttributeTree) : Prop :=
  ∃ path key value, s.current = some (.directive (.attribute path key value)) ∧
    isPriority path key = true ∧ (readInt? value).isSome = true ∧
      s.attributes.set path key value = .ok attributes ∧
        ∃ sprite ∈ s.cast, ∃ e, attributes.priorityOf sprite.name = .error e

theorem Stopped.unchanged_or_blocked (h : Stopped s t) :
    t = s ∨ ∃ attributes, Blocked s attributes ∧ t = { s with attributes } := by
  cases h with
  | unchanged => exact Or.inl rfl
  | @written path key value attributes e event priority integer set resort =>
    obtain ⟨sprite, hsprite, he⟩ := Cast.exists_of_resort_error resort
    exact Or.inr ⟨attributes, ⟨path, key, value, event, priority, integer, set, sprite, hsprite,
      e, he⟩, rfl⟩

theorem run_writeAttribute_of_blocked {path key value : String} (session : Session)
    (priority : isPriority path key = true) (integer : (readInt? value).isSome = true)
    (set : s.attributes.set path key value = .ok attributes)
    (blocked : ∃ sprite ∈ s.cast, ∃ e, attributes.priorityOf sprite.name = .error e) :
    ∃ e q, (writeAttribute path key value).run ⟨session, s⟩ = .error e q ∧
      q.stage = { s with attributes } := by
  obtain ⟨sprite, hsprite, e, he⟩ := blocked
  have hinteger : (readInt? value).isNone = false := by
    rw [Option.isNone_eq_false_iff]
    exact integer
  cases hresort : s.cast.resort attributes.priorityOf with
  | error e =>
    simp only [writeAttribute, EStateM.run_bind, Play.run_stage?, Play.run_change, Play.run_lift,
      Session.run_note, run_resortCast, priority, hinteger, set, hresort, Bool.false_eq_true,
      and_false, if_false, if_true]
    exact ⟨_, _, rfl, rfl⟩
  | ok cast =>
    obtain ⟨i, hi⟩ := Cast.readable_of_resort hresort sprite hsprite
    rw [he] at hi
    cases hi

theorem run_advance_of_blocked (h : Blocked s attributes) (choice : Bool) (session : Session) :
    ∃ e q, (advance choice).run ⟨session, s⟩ = .error e q ∧ q.stage = { s with attributes } := by
  obtain ⟨path, key, value, hevent, hpriority, hinteger, hset, hblocked⟩ := h
  rcases run_writeAttribute_of_blocked session hpriority hinteger hset hblocked with
    ⟨e, q, hrun, hstage⟩
  refine ⟨e, q, ?_, hstage⟩
  simp only [advance, EStateM.run_bind, Play.run_stage?, hevent, hrun]

/-- What is in the way of a reachable blocked step is a sprite with a dot in its name, whose priority
could not be read before the step either. -/
theorem Blocked.exists_dotted (h : Blocked s attributes) (hs : s.attributes.Legible) :
    ∃ sprite ∈ s.cast, '.' ∈ sprite.name.toList ∧
      ∃ e, s.attributes.priorityOf sprite.name = .error e := by
  obtain ⟨path, key, value, hevent, hpriority, hinteger, hset, sprite, hsprite, e, he⟩ := h
  have hdot : '.' ∈ sprite.name.toList := by
    by_cases hdot : '.' ∈ sprite.name.toList
    · exact hdot
    · obtain ⟨i, hi⟩ := (hs.set hset fun _ => hinteger) sprite.name hdot
      rw [he] at hi
      cases hi
  refine ⟨sprite, hsprite, hdot, e, ?_⟩
  rw [← he]
  refine (AttributeTree.priorityOf_set_of_ne hset fun hpath => ?_).symm
  rw [(isPriority_eq_false_iff hpath).2 hdot] at hpriority
  cases hpriority

/-- A step at a reachable stage leaves everything as it was whenever it fails, exactly if no priority
that it would write newly meets a sprite that cannot be ordered. -/
theorem advance_restores_iff (hs : Reachable s) (choice : Bool) (session : Session) :
    ((∀ e q, (advance choice).run ⟨session, s⟩ = .error e q → q.stage = s) ↔
        ∀ attributes, Blocked s attributes → attributes = s.attributes) ∧
      ∀ attributes, Blocked s attributes →
        (∃ e q, (advance choice).run ⟨session, s⟩ = .error e q ∧
          q.stage = { s with attributes }) ∧
        ∃ sprite ∈ s.cast, '.' ∈ sprite.name.toList ∧
          ∃ e, s.attributes.priorityOf sprite.name = .error e := by
  constructor
  · constructor
    · intro hrestores attributes hblocked
      obtain ⟨e, q, hrun, hstage⟩ := run_advance_of_blocked hblocked choice session
      rw [hrestores e q hrun] at hstage
      rw [hstage]
    · intro hnever e q hrun
      rcases (stopped_of_run hrun).unchanged_or_blocked with hstage | ⟨attributes, hblocked, hstage⟩
      · exact hstage
      · rw [hstage, hnever attributes hblocked]
  · intro attributes hblocked
    exact ⟨run_advance_of_blocked hblocked choice session, hblocked.exists_dotted hs.legible⟩

theorem advance_restores_wrong_priority :
    ∃ event p, (advance false).run ⟨{}, opening {} ⟨"s.txt",
        [.directive (.show "a" ⟨"a.png", 0, 0⟩),
          .directive (.attribute "sprite.a" "priority" "x")]⟩⟩ = .ok event p ∧
      Reachable p.stage ∧ (∃ e q, (advance false).run p = .error e q) ∧
        ∀ e q, (advance false).run p = .error e q → q.stage = p.stage := by
  obtain ⟨event, p, hrun, hcurrent, hfails⟩ :
      ∃ event p, (advance false).run ⟨{}, opening {} ⟨"s.txt",
          [.directive (.show "a" ⟨"a.png", 0, 0⟩),
            .directive (.attribute "sprite.a" "priority" "x")]⟩⟩ = .ok event p ∧
        p.stage.current = some (.directive (.attribute "sprite.a" "priority" "x")) ∧
          ∃ e q, (advance false).run p = .error e q :=
    ⟨_, _, rfl, rfl, _, _, rfl⟩
  have hreach : Reachable p.stage := .moved (.opening _ _) hrun
  refine ⟨event, p, hrun, hreach, hfails,
    (advance_restores_iff hreach false p.session).1.2 ?_⟩
  rintro attributes ⟨path, key, value, hevent, -, hinteger, -⟩
  rw [hcurrent] at hevent
  cases hevent
  cases hinteger

/-- A priority that was written for a name with a dot is not checked, and it is in the way when the
priority of another sprite is written. -/
theorem exists_advance_error_written :
    ∃ script event₁ event₂ p₁ p₂ e q,
      Script.parse ("@sprite(a.b, p.png, 0, 0, show)\n" ++ "@attr(sprite.a.b.priority, x)\n" ++
        "@attr(sprite.c.priority, 5)\n") "s.txt" = .ok script ∧
      (advance false).run ⟨{}, opening {} script⟩ = .ok event₁ p₁ ∧
      (advance false).run p₁ = .ok event₂ p₂ ∧
      (advance false).run p₂ = .error e q ∧
      p₂.stage.attributes.valueOf? "sprite.c.priority" = none ∧
      q.stage.attributes.valueOf? "sprite.c.priority" = some "5" :=
  ⟨⟨"s.txt", [.directive (.show "a.b" ⟨"p.png", 0, 0⟩),
    .directive (.attribute "sprite.a.b" "priority" "x"),
    .directive (.attribute "sprite.c" "priority" "5")]⟩,
    _, _, _, _, _, _, rfl, rfl, rfl, rfl, rfl, rfl⟩

end Stage

end VisualNovel
