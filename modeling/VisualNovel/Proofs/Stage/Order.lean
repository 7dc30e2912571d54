import Mathlib.Data.List.Chain
import Mathlib.Data.List.Nodup
import VisualNovel.Proofs.Stage.Failure

/-!
# The order of the sprites along a run

The sprites of a stage are in order if every priority can be read and none is higher than one before
it. Every step keeps the order but one: the write of a priority for a shown sprite with a dot in its
name, which no reordering follows. It keeps the order exactly if it brings an integer and the sprite
fits where it stands.
-/
namespace VisualNovel

open VisualNovel.Number

namespace Stage

open AttributeTree (priorityPath segments)

variable {s t : Stage} {sprite : Sprite} {value : String}

/-- The sprites are in the order of their present priorities, which can all be read. -/
def InOrder (s : Stage) : Prop :=
  s.cast.OrderedBy s.attributes.priorityOf

/-- The event at the cursor writes the priority of a shown sprite with a dot in its name. -/
structure Overlooked (s : Stage) (sprite : Sprite) (value : String) : Prop where
  shown : sprite ∈ s.cast
  dotted : '.' ∈ sprite.name.toList
  event : ∃ path key, s.current = some (.directive (.attribute path key value)) ∧
    segments path ++ [key] = priorityPath sprite.name

/-- A priority that is written for a shown sprite with a dot in its name is an integer for which the
sprite fits where it stands. -/
def Steady (s : Stage) : Prop :=
  ∀ sprite value, Overlooked s sprite value →
    ∃ i, readInt? value = some i ∧ s.cast.Fits s.attributes.priorityOf sprite i

/-- A step that succeeds leads from the one stage to the other, in some session. -/
def Follows (s t : Stage) : Prop :=
  ∃ choice session event q, (advance choice).run ⟨session, s⟩ = .ok event q ∧ t = q.stage

theorem follows_of_run {choice : Bool} {event : Option Event} {p q : Play}
    (h : (advance choice).run p = .ok event q) : Follows p.stage q.stage :=
  ⟨choice, p.session, event, q, h, rfl⟩

theorem Follows.moved (h : Follows s t) : Moved s t := by
  obtain ⟨choice, session, event, q, hrun, rfl⟩ := h
  exact moved_of_run hrun

theorem steady_of_forall_ne
    (h : ∀ path key value, s.current ≠ some (.directive (.attribute path key value))) :
    s.Steady := by
  rintro sprite value ⟨-, -, path, key, hevent, -⟩
  exact absurd hevent (h path key value)

theorem Moved.nodup_names (h : Moved s t) (hs : s.cast.names.Nodup) : t.cast.names.Nodup := by
  cases h with
  | finished | passed | followed | changed | written => exact hs
  | shown event present => exact Cast.nodup_names_present hs present
  | @hidden name placement event =>
    change (s.cast.dismiss name).names.Nodup
    rw [Cast.names_dismiss]
    exact hs.erase name
  | ranked event priority integer set resort =>
    have hperm := (Cast.orderedBy_resort resort).2.map Sprite.name
    exact hperm.nodup_iff.2 hs

/-- The write of a priority that is overlooked keeps the order exactly if the sprite fits where it
stands. -/
theorem orderedBy_set_iff {attributes : AttributeTree} {path key : String} (hs : s.InOrder)
    (unique : s.cast.names.Nodup) (hsprite : sprite ∈ s.cast)
    (hset : s.attributes.set path key value = .ok attributes)
    (hpath : segments path ++ [key] = priorityPath sprite.name) :
    s.cast.OrderedBy attributes.priorityOf ↔
      ∃ i, readInt? value = some i ∧ s.cast.Fits s.attributes.priorityOf sprite i := by
  have hsame : ∀ n, n ≠ sprite.name → attributes.priorityOf n = s.attributes.priorityOf n := by
    intro n hn
    refine AttributeTree.priorityOf_set_of_ne hset fun hother => hn ?_
    exact AttributeTree.priorityPath_inj (hother.symm.trans hpath)
  rw [hs.update_iff unique hsprite hsame, AttributeTree.priorityOf_set hset hpath]
  cases readInt? value with
  | none => simp
  | some i => simp

/-- Names are unique, so the event at the cursor can write the priority of one shown sprite only. -/
theorem steady_iff_of_event {path key : String} (unique : s.cast.names.Nodup)
    (hsprite : sprite ∈ s.cast) (dotted : '.' ∈ sprite.name.toList)
    (event : s.current = some (.directive (.attribute path key value)))
    (hpath : segments path ++ [key] = priorityPath sprite.name) :
    s.Steady ↔ ∃ i, readInt? value = some i ∧ s.cast.Fits s.attributes.priorityOf sprite i := by
  constructor
  · intro hsteady
    exact hsteady sprite value ⟨hsprite, dotted, path, key, event, hpath⟩
  · rintro hfits other _ ⟨hother, -, _, _, hevent, hotherPath⟩
    rw [event] at hevent
    cases hevent
    have hname : sprite.name = other.name :=
      AttributeTree.priorityPath_inj (hpath.symm.trans hotherPath)
    rw [← List.inj_on_of_nodup_map unique hsprite hother hname]
    exact hfits

/-- A step keeps the order exactly if it is steady. -/
theorem Moved.inOrder_iff (h : Moved s t) (hs : s.InOrder) (unique : s.cast.names.Nodup) :
    t.InOrder ↔ s.Steady := by
  cases h with
  | finished event =>
    have hsteady : s.Steady := steady_of_forall_ne (by simp [event])
    exact iff_of_true hs hsteady
  | @passed e event quiet =>
    have hsteady : s.Steady := by
      apply steady_of_forall_ne
      rintro path key value hattribute
      rw [event, Option.some.injEq] at hattribute
      subst hattribute
      simp [Event.isRenderable, Event.isCustom] at quiet
    exact iff_of_true hs hsteady
  | followed event => exact iff_of_true hs (steady_of_forall_ne (by simp [event]))
  | shown event present =>
    exact iff_of_true (hs.present present) (steady_of_forall_ne (by simp [event]))
  | hidden event => exact iff_of_true (hs.dismiss _) (steady_of_forall_ne (by simp [event]))
  | changed event => exact iff_of_true hs (steady_of_forall_ne (by simp [event]))
  | @written path key value attributes event plain set =>
    change s.cast.OrderedBy attributes.priorityOf ↔ s.Steady
    by_cases hshown : ∃ sprite ∈ s.cast, segments path ++ [key] = priorityPath sprite.name
    · rcases hshown with ⟨sprite, hsprite, hpath⟩
      have hdotted : '.' ∈ sprite.name.toList := (isPriority_eq_false_iff hpath).1 plain
      rw [orderedBy_set_iff hs unique hsprite set hpath,
        steady_iff_of_event unique hsprite hdotted event hpath]
    · apply iff_of_true
      · apply hs.congr
        intro sprite hsprite
        apply AttributeTree.priorityOf_set_of_ne set
        intro hpath
        exact hshown ⟨sprite, hsprite, hpath⟩
      · rintro sprite _ ⟨hsprite, -, _, _, hevent, hpath⟩
        rw [event] at hevent
        cases hevent
        exact absurd ⟨sprite, hsprite, hpath⟩ hshown
  | @ranked path key value attributes cast event priority integer set resort =>
    refine iff_of_true (Cast.orderedBy_resort resort).1 ?_
    rintro sprite _ ⟨-, hdotted, _, _, hevent, hpath⟩
    rw [event] at hevent
    cases hevent
    rw [(isPriority_eq_false_iff hpath).2 hdotted] at priority
    cases priority

/-- From a stage in order on, the order lasts along a run exactly as long as the steps are steady. -/
theorem inOrder_iff_of_isChain {stages : List Stage} (hs : s.InOrder) (unique : s.cast.names.Nodup)
    (run : List.IsChain Follows (s :: stages)) :
    (∀ t ∈ s :: stages, t.InOrder) ↔ ∀ t ∈ (s :: stages).dropLast, t.Steady := by
  induction stages generalizing s with
  | nil => simpa using hs
  | cons t rest ih =>
    rw [List.isChain_cons_cons] at run
    rcases run with ⟨hstep, hrest⟩
    have hmoved := hstep.moved
    rw [List.dropLast_cons_cons, List.forall_mem_cons (a := s), List.forall_mem_cons (a := s),
      ← hmoved.inOrder_iff hs unique]
    constructor
    · rintro ⟨-, hall⟩
      have ht : t.InOrder := hall t List.mem_cons_self
      exact ⟨ht, (ih ht (hmoved.nodup_names unique) hrest).1 hall⟩
    · rintro ⟨ht, hsteady⟩
      exact ⟨hs, (ih ht (hmoved.nodup_names unique) hrest).2 hsteady⟩

/-- Along a run without failures the sprites are always in order, exactly if every priority that is
written for a shown sprite with a dot in its name is an integer with which the sprite fits where it
stands. -/
theorem run_inOrder_iff {settings : Settings} {script : Script} {stages : List Stage}
    (run : List.IsChain Follows (opening settings script :: stages)) :
    (∀ s ∈ opening settings script :: stages, s.InOrder) ↔
      ∀ s ∈ (opening settings script :: stages).dropLast, s.Steady := by
  have hopening : (opening settings script).InOrder := Cast.orderedBy_nil
  exact inOrder_iff_of_isChain hopening List.nodup_nil run

theorem run_inOrder_of_raised_front :
    ∃ s₁ s₂ s₃, List.IsChain Follows [opening {} ⟨"s.txt", [.directive (.show "c" ⟨"c.png", 0, 0⟩),
        .directive (.show "a.b" ⟨"a.png", 0, 0⟩),
        .directive (.attribute "sprite.a.b" "priority" "5")]⟩, s₁, s₂, s₃] ∧
      s₃.cast.names = ["a.b", "c"] ∧ s₃.attributes.priorityOf "a.b" = .ok 5 ∧
      ∀ s ∈ [s₁, s₂, s₃], s.InOrder := by
  obtain ⟨e₁, e₂, e₃, p₁, p₂, p₃, h₁, h₂, h₃, hshow, hwrite, hcast, hattributes, hnames, hpriority⟩ :
      ∃ e₁ e₂ e₃ p₁ p₂ p₃,
        (advance false).run ⟨{}, opening {} ⟨"s.txt", [.directive (.show "c" ⟨"c.png", 0, 0⟩),
          .directive (.show "a.b" ⟨"a.png", 0, 0⟩),
          .directive (.attribute "sprite.a.b" "priority" "5")]⟩⟩ = .ok e₁ p₁ ∧
        (advance false).run p₁ = .ok e₂ p₂ ∧ (advance false).run p₂ = .ok e₃ p₃ ∧
        p₁.stage.current = some (.directive (.show "a.b" ⟨"a.png", 0, 0⟩)) ∧
        p₂.stage.current = some (.directive (.attribute "sprite.a.b" "priority" "5")) ∧
        p₂.stage.cast = [⟨"a.b", "a.png", 0, 0⟩, ⟨"c", "c.png", 0, 0⟩] ∧
        p₂.stage.attributes = .empty ∧
        p₃.stage.cast.names = ["a.b", "c"] ∧ p₃.stage.attributes.priorityOf "a.b" = .ok 5 :=
    ⟨_, _, _, _, _, _, rfl, rfl, rfl, rfl, rfl, rfl, rfl, rfl, rfl⟩
  have run : List.IsChain Follows [opening {} _, p₁.stage, p₂.stage, p₃.stage] :=
    .cons_cons (follows_of_run h₁) (.cons_cons (follows_of_run h₂)
      (.cons_cons (follows_of_run h₃) (.singleton _)))
  have hfits : p₂.stage.cast.Fits p₂.stage.attributes.priorityOf ⟨"a.b", "a.png", 0, 0⟩ 5 := by
    refine ⟨[], [⟨"c", "c.png", 0, 0⟩], hcast, by simp, fun s hs j hj => ?_⟩
    rw [List.mem_singleton.1 hs, hattributes] at hj
    cases hj
    decide
  have hsteady : p₂.stage.Steady := by
    have hunique : p₂.stage.cast.names.Nodup := by
      rw [hcast]
      decide
    have hshown : ⟨"a.b", "a.png", 0, 0⟩ ∈ p₂.stage.cast := by
      rw [hcast]
      exact List.mem_cons_self
    apply (steady_iff_of_event hunique hshown (by decide) hwrite rfl).2
    exact ⟨5, rfl, hfits⟩
  refine ⟨p₁.stage, p₂.stage, p₃.stage, run, hnames, hpriority, ?_⟩
  apply List.forall_mem_of_forall_mem_cons
  apply (run_inOrder_iff run).2
  simp only [List.dropLast_cons_cons, List.dropLast_singleton, List.forall_mem_cons]
  refine ⟨steady_of_forall_ne ?_, steady_of_forall_ne ?_, hsteady, List.forall_mem_nil _⟩
  · rintro path key value hevent
    cases hevent
  · simp [hshow]

/-- A priority that is written for a name with a dot does not reorder the sprites. -/
theorem exists_run_not_inOrder :
    ∃ script s₁ s₂ s₃,
      Script.parse ("@sprite(a.b, p.png, 0, 0, show)\n" ++ "@sprite(c, p.png, 0, 0, show)\n" ++
        "@attr(sprite.a.b.priority, 5)\n") "s.txt" = .ok script ∧
      List.IsChain Follows [opening {} script, s₁, s₂, s₃] ∧ ¬ s₃.InOrder := by
  obtain ⟨e₁, e₂, e₃, p₁, p₂, p₃, h₁, h₂, h₃, hcast, hfront, hback⟩ :
      ∃ e₁ e₂ e₃ p₁ p₂ p₃,
        (advance false).run ⟨{}, opening {} ⟨"s.txt", [.directive (.show "a.b" ⟨"p.png", 0, 0⟩),
          .directive (.show "c" ⟨"p.png", 0, 0⟩),
          .directive (.attribute "sprite.a.b" "priority" "5")]⟩⟩ = .ok e₁ p₁ ∧
        (advance false).run p₁ = .ok e₂ p₂ ∧ (advance false).run p₂ = .ok e₃ p₃ ∧
        p₃.stage.cast = [⟨"c", "p.png", 0, 0⟩, ⟨"a.b", "p.png", 0, 0⟩] ∧
        p₃.stage.attributes.priorityOf "c" = .ok 0 ∧
        p₃.stage.attributes.priorityOf "a.b" = .ok 5 :=
    ⟨_, _, _, _, _, _, rfl, rfl, rfl, rfl, rfl, rfl⟩
  refine ⟨_, p₁.stage, p₂.stage, p₃.stage, rfl, .cons_cons (follows_of_run h₁)
    (.cons_cons (follows_of_run h₂) (.cons_cons (follows_of_run h₃) (.singleton _))), ?_⟩
  intro horder
  have hle := horder.descending
  rw [hcast, List.pairwise_pair] at hle
  have := hle 0 5 hfront hback
  omega

end Stage

end VisualNovel
