import VisualNovel.Proofs.Stage.Order

/-!
# Who is on stage

The sprites on stage are those whose last directive has shown them, where that directive puts them.
Nothing else brings a sprite on stage, takes one off it or changes one; the write of a priority may
order them anew.
-/
namespace VisualNovel

/-- The sprite that a directive shows or hides, by name. -/
def Event.spriteName? : Event → Option String
  | .directive (.show name _) => some name
  | .directive (.hide name _) => some name
  | _ => none

/-- What is drawn and what means nothing to the player is about no sprite. -/
theorem Event.spriteName?_of_quiet {e : Event} (h : e.isRenderable = true ∨ e.isCustom = true) :
    e.spriteName? = none := by
  cases e with
  | dialogue speaker lines => rfl
  | directive d =>
    cases d with
    | «show» | hide => rcases h with h | h <;> cases h
    | jump | background | «attribute» | custom => rfl

def Placement.sprite (p : Placement) (name : String) : Sprite :=
  ⟨name, p.path, p.x, p.y⟩

namespace Stage

variable {s t : Stage} {past : List Event} {e : Event} {name : String} {choice : Bool}
  {session : Session} {q : Play} {settings : Settings} {script : Script}

/-- Steps from the first event of a script on lead to the stage, and these are the events that they have
applied, the last one first. Steps may fail, each may find any session, and the cache may be exchanged
between them. -/
inductive Past (settings : Settings) (script : Script) : List Event → Stage → Prop where
  | opening : Past settings script [] (opening settings script)
  | moved {past : List Event} {s : Stage} {choice : Bool} {session : Session}
      {event : Option Event} {q : Play} :
      Past settings script past s → (advance choice).run ⟨session, s⟩ = .ok event q →
        Past settings script (s.current.toList ++ past) q.stage
  | stopped {past : List Event} {s : Stage} {choice : Bool} {session : Session} {f : Failure}
      {q : Play} :
      Past settings script past s → (advance choice).run ⟨session, s⟩ = .error f q →
        Past settings script past q.stage
  | cached {past : List Event} {s : Stage} (cache : Option RenderCache) :
      Past settings script past s → Past settings script past { s with cache }

/-- Every stage that steps lead to has such a past. -/
theorem reachable_iff_exists_past :
    Reachable s ↔ ∃ settings script past, Past settings script past s := by
  constructor
  · intro h
    induction h with
    | opening settings script => exact ⟨settings, script, [], .opening⟩
    | moved _ run ih =>
      obtain ⟨settings, script, past, hpast⟩ := ih
      exact ⟨settings, script, _, hpast.moved run⟩
    | stopped _ run ih =>
      obtain ⟨settings, script, past, hpast⟩ := ih
      exact ⟨settings, script, past, hpast.stopped run⟩
    | cached cache _ ih =>
      obtain ⟨settings, script, past, hpast⟩ := ih
      exact ⟨settings, script, past, hpast.cached cache⟩
  · rintro ⟨settings, script, past, h⟩
    induction h with
    | opening => exact .opening settings script
    | moved _ run ih => exact ih.moved run
    | stopped _ run ih => exact ih.stopped run
    | cached cache _ ih => exact ih.cached cache

/-- The last event that shows or hides the sprite of a name. -/
def lastFor (past : List Event) (name : String) : Option Event :=
  past.find? fun e => e.spriteName? == some name

theorem lastFor_cons_of_ne (h : e.spriteName? ≠ some name) :
    lastFor (e :: past) name = lastFor past name :=
  List.find?_cons_of_neg (by simpa using h)

theorem lastFor_cons_of_eq (h : e.spriteName? = some name) :
    lastFor (e :: past) name = some e :=
  List.find?_cons_of_pos (by simpa using h)

/-- The last event of the past for the sprite shows it, and where it is. -/
def ShownLast (past : List Event) (sprite : Sprite) : Prop :=
  ∃ placement : Placement, placement.sprite sprite.name = sprite ∧
    lastFor past sprite.name = some (.directive (.show sprite.name placement))

theorem shownLast_cons_of_ne {sprite : Sprite} (h : e.spriteName? ≠ some sprite.name) :
    ShownLast (e :: past) sprite ↔ ShownLast past sprite := by
  rw [ShownLast, ShownLast, lastFor_cons_of_ne h]

/-- The cast is what the past makes of it. -/
structure CastBy (past : List Event) (c : Cast) : Prop where
  unique : c.names.Nodup
  mem_iff : ∀ sprite, sprite ∈ c ↔ ShownLast past sprite

theorem CastBy.perm {c d : Cast} (h : CastBy past c) (perm : d.Perm c) : CastBy past d where
  unique := (perm.map Sprite.name).nodup_iff.2 h.unique
  mem_iff sprite := by rw [perm.mem_iff, h.mem_iff]

theorem CastBy.other {c : Cast} (h : CastBy past c) (event : e.spriteName? = none) :
    CastBy (e :: past) c where
  unique := h.unique
  mem_iff sprite := by
    rw [h.mem_iff, shownLast_cons_of_ne]
    simp [event]

theorem CastBy.shown {c d : Cast} {placement : Placement}
    {priorityOf : String → Except AttributeError Int} (h : CastBy past c)
    (present : c.present priorityOf (placement.sprite name) = .ok d) :
    CastBy (.directive (.show name placement) :: past) d where
  unique := Cast.nodup_names_present h.unique present
  mem_iff sprite := by
    rw [Cast.mem_present present, h.mem_iff]
    by_cases hname : sprite.name = name
    · subst hname
      simp only [Placement.sprite, ne_eq, not_true_eq_false, and_false, or_false]
      rw [ShownLast, lastFor_cons_of_eq rfl]
      constructor
      · intro hsprite
        exact ⟨placement, hsprite.symm, rfl⟩
      · rintro ⟨other, hother, hlast⟩
        cases hlast
        exact hother.symm
    · have hne : sprite ≠ placement.sprite name := fun heq => hname (by rw [heq]; rfl)
      have hother : (Event.directive (.show name placement)).spriteName? ≠ some sprite.name :=
        fun heq => hname (Option.some.inj heq).symm
      have hnames : sprite.name ≠ (placement.sprite name).name := hname
      rw [shownLast_cons_of_ne hother, or_iff_right hne, and_iff_left hnames]

theorem CastBy.hidden {c : Cast} {placement : Option Placement} (h : CastBy past c) :
    CastBy (.directive (.hide name placement) :: past) (c.dismiss name) where
  unique := by
    rw [Cast.names_dismiss]
    exact h.unique.erase name
  mem_iff sprite := by
    rw [Cast.mem_dismiss h.unique, h.mem_iff]
    by_cases hname : sprite.name = name
    · subst hname
      rw [ShownLast, ShownLast, lastFor_cons_of_eq rfl]
      simp
    · have hother : (Event.directive (.hide name placement)).spriteName? ≠ some sprite.name :=
        fun heq => hname (Option.some.inj heq).symm
      rw [shownLast_cons_of_ne hother, and_iff_left hname]

theorem CastBy.mem_names_iff {c : Cast} (h : CastBy past c) (name : String) :
    name ∈ c.names ↔ ∃ placement, lastFor past name = some (.directive (.show name placement)) := by
  rw [Cast.names, List.mem_map]
  constructor
  · rintro ⟨sprite, hsprite, rfl⟩
    obtain ⟨placement, -, hlast⟩ := (h.mem_iff sprite).1 hsprite
    exact ⟨placement, hlast⟩
  · rintro ⟨placement, hlast⟩
    exact ⟨placement.sprite name, (h.mem_iff _).2 ⟨placement, rfl, hlast⟩, rfl⟩

theorem CastBy.get?_of_lastFor {c : Cast} (h : CastBy past c) (name : String)
    (placement : Placement) (hlast : lastFor past name = some (.directive (.show name placement))) :
    c.get? name = some (placement.sprite name) := by
  have hmem : placement.sprite name ∈ c := (h.mem_iff _).2 ⟨placement, rfl, hlast⟩
  cases hfind : c.get? name with
  | none =>
    have hne := List.find?_eq_none.1 hfind _ hmem
    simp [Placement.sprite] at hne
  | some sprite =>
    have hname : sprite.name = name := eq_of_beq (List.find?_some hfind :)
    rw [List.inj_on_of_nodup_map h.unique (List.mem_of_find?_eq_some hfind) hmem hname]

/-- A step over an event that is about no sprite keeps the sprites, and their order too unless it writes
a priority. -/
theorem Moved.cast_of_other (h : Moved s t) (event : ∀ e, s.current = some e → e.spriteName? = none) :
    t.cast.Perm s.cast ∧ (t.cast = s.cast ∨ ∃ path key value,
      s.current = some (.directive (.attribute path key value)) ∧ isPriority path key = true) := by
  cases h with
  | finished | passed | followed | changed | written => exact ⟨.refl _, Or.inl rfl⟩
  | shown hshow => cases event _ hshow
  | hidden hhide => cases event _ hhide
  | @ranked path key value attributes cast hevent priority integer set resort =>
    exact ⟨(Cast.orderedBy_resort resort).2, Or.inr ⟨path, key, value, hevent, priority⟩⟩

theorem Moved.castBy (h : Moved s t) (hs : CastBy past s.cast) :
    CastBy (s.current.toList ++ past) t.cast := by
  have hother : (∀ e, s.current = some e → e.spriteName? = none) →
      CastBy (s.current.toList ++ past) t.cast := by
    intro event
    have hcast := hs.perm (h.cast_of_other event).1
    cases hcurrent : s.current with
    | none => exact hcast
    | some e => exact hcast.other (event e hcurrent)
  cases h with
  | finished event => exact hother (by simp [event])
  | passed event quiet => exact hother (by simp [event, Event.spriteName?_of_quiet quiet])
  | followed event | changed event | written event | ranked event =>
    exact hother (by simp [event, Event.spriteName?])
  | shown event present =>
    rw [event]
    exact hs.shown present
  | hidden event =>
    rw [event]
    exact hs.hidden

theorem Stopped.cast_eq (h : Stopped s t) : t.cast = s.cast := by
  cases h <;> rfl

theorem Past.castBy (h : Past settings script past s) : CastBy past s.cast := by
  induction h with
  | opening => exact ⟨List.nodup_nil, fun sprite => by simp [ShownLast, lastFor, Stage.opening]⟩
  | moved _ run ih => exact (moved_of_run run).castBy ih
  | stopped _ run ih =>
    rw [(stopped_of_run run).cast_eq]
    exact ih
  | cached cache _ ih => exact ih

/-- The directives for sprites alone decide who is on stage. Whatever scripts, jumps, writes and failed
steps have led to a stage, its sprites have different names, a name is among them exactly if the last
directive for it that was applied has shown it, and the sprite is where that directive says. The next
step changes nothing of this if it fails or if it applies any other event; only the order may change
then, and only by the write of a priority. -/
theorem shown_by_directives_alone (h : Past settings script past s) :
    s.cast.names.Nodup ∧
    (∀ name, name ∈ s.cast.names ↔
      ∃ placement, lastFor past name = some (.directive (.show name placement))) ∧
    (∀ name placement, lastFor past name = some (.directive (.show name placement)) →
      s.cast.get? name = some ⟨name, placement.path, placement.x, placement.y⟩) ∧
    (∀ choice session f q, (advance choice).run ⟨session, s⟩ = .error f q →
      q.stage.cast = s.cast) ∧
    ∀ choice session event q, (advance choice).run ⟨session, s⟩ = .ok event q →
      (∀ e, s.current = some e → e.spriteName? = none) →
        q.stage.cast.Perm s.cast ∧ (q.stage.cast = s.cast ∨ ∃ path key value,
          s.current = some (.directive (.attribute path key value)) ∧
            isPriority path key = true) := by
  have hcast := h.castBy
  refine ⟨hcast.unique, hcast.mem_names_iff, hcast.get?_of_lastFor, ?_, ?_⟩
  · intro choice session f q run
    exact (stopped_of_run run).cast_eq
  · intro choice session event q run hother
    exact (moved_of_run run).cast_of_other hother

/-- A sprite is shown, then shown elsewhere, another one is hidden, and the first one is raised in front
of the third before a jump fails. -/
theorem shown_by_directives_alone_raised :
    ∃ past s, Past {} ⟨"s.txt", [.directive (.show "a" ⟨"a.png", 0, 0⟩),
        .directive (.show "b" ⟨"b.png", 0, 0⟩), .directive (.show "c" ⟨"c.png", 0, 0⟩),
        .directive (.show "a" ⟨"d.png", 2, 3⟩), .directive (.hide "b" none),
        .directive (.attribute "sprite.a" "priority" "5"),
        .directive (.jump "gone.txt" none)]⟩ past s ∧
      s.cast.get? "a" = some ⟨"a", "d.png", 2, 3⟩ ∧ s.cast.get? "c" = some ⟨"c", "c.png", 0, 0⟩ ∧
      "b" ∉ s.cast.names ∧
      ∀ session f q, (advance false).run ⟨session, s⟩ = .error f q → q.stage.cast = s.cast := by
  obtain ⟨script, hscript⟩ : ∃ script : Script, script =
      ⟨"s.txt", [.directive (.show "a" ⟨"a.png", 0, 0⟩),
        .directive (.show "b" ⟨"b.png", 0, 0⟩), .directive (.show "c" ⟨"c.png", 0, 0⟩),
        .directive (.show "a" ⟨"d.png", 2, 3⟩), .directive (.hide "b" none),
        .directive (.attribute "sprite.a" "priority" "5"),
        .directive (.jump "gone.txt" none)]⟩ := ⟨_, rfl⟩
  rw [← hscript]
  obtain ⟨e₁, e₂, e₃, e₄, e₅, e₆, f, p₁, p₂, p₃, p₄, p₅, p₆, q, h₁, h₂, h₃, h₄, h₅, h₆, hfails,
      hpast⟩ :
      ∃ e₁ e₂ e₃ e₄ e₅ e₆ f p₁ p₂ p₃ p₄ p₅ p₆ q,
        (advance false).run ⟨{}, opening {} script⟩ = .ok e₁ p₁ ∧
        (advance false).run p₁ = .ok e₂ p₂ ∧ (advance false).run p₂ = .ok e₃ p₃ ∧
        (advance false).run p₃ = .ok e₄ p₄ ∧ (advance false).run p₄ = .ok e₅ p₅ ∧
        (advance false).run p₅ = .ok e₆ p₆ ∧ (advance false).run p₆ = .error f q ∧
        p₅.stage.current.toList ++ (p₄.stage.current.toList ++ (p₃.stage.current.toList ++
          (p₂.stage.current.toList ++ (p₁.stage.current.toList ++
            ((opening {} script).current.toList ++ []))))) = (script.events.take 6).reverse := by
    rw [hscript]
    exact ⟨_, _, _, _, _, _, _, _, _, _, _, _, _, _, rfl, rfl, rfl, rfl, rfl, rfl, rfl, rfl⟩
  have hstage : Past {} script _ q.stage :=
    ((((((Past.opening.moved h₁).moved h₂).moved h₃).moved h₄).moved h₅).moved h₆).stopped hfails
  rw [hpast, hscript] at hstage
  obtain ⟨-, hnames, hplaces, hfailures, -⟩ := shown_by_directives_alone hstage
  rw [hscript]
  refine ⟨_, q.stage, hstage, hplaces "a" ⟨"d.png", 2, 3⟩ rfl, hplaces "c" ⟨"c.png", 0, 0⟩ rfl, ?_,
    hfailures false⟩
  rw [hnames]
  rintro ⟨placement, hlast⟩
  cases hlast

end Stage

end VisualNovel
