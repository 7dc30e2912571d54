import VisualNovel.Proofs.Picture.Load
import VisualNovel.Proofs.Script.Bounded
import VisualNovel.Proofs.Stage.Failure

/-!
# What every stage of a play has

The sprites on stage are where scripts can show them, and the picture of the background has been
loaded. A picture that was loaded for a background is never exchanged for another one.
-/
namespace VisualNovel

namespace Stage

variable {s t : Stage} {p q : Play} {target path : String}

/-- The scripts at hand and the sprites on stage are in bounds, and the background is loaded. -/
structure Bounded (s : Stage) : Prop where
  script : s.cursor.script.Bounded
  library : ∀ e ∈ s.library, e.2.Bounded
  resolved : ∀ e ∈ s.resolved, e.2.Bounded
  cast : ∀ sprite ∈ s.cast, 0 ≤ sprite.x ∧ sprite.x ≤ ArgumentProblem.maxCoordinate ∧
    0 ≤ sprite.y ∧ sprite.y ≤ ArgumentProblem.maxCoordinate
  loaded : ∀ path ∈ s.background, ∃ image, s.backdrops.lookup path = some image

/-- The second stage has the pictures that the first one has, for the same backgrounds. -/
def Grows (s t : Stage) : Prop :=
  ∀ path image, s.backdrops.lookup path = some image → t.backdrops.lookup path = some image

theorem bounded_opening (settings : Settings) {script : Script} (h : script.Bounded) :
    (opening settings script).Bounded where
  script := h
  library := by simp [opening]
  resolved := by simp [opening]
  cast := by simp [opening]
  loaded := by simp [opening]

theorem mem_of_lookup {α β : Type} [BEq α] [LawfulBEq α] {key : α} {value : β}
    {entries : List (α × β)} (h : entries.lookup key = some value) : (key, value) ∈ entries := by
  obtain ⟨before, after, rfl, -⟩ := List.lookup_eq_some_iff.1 h
  simp

/-- A script that is loaded for a target is in bounds, and the stage keeps it at most. -/
theorem bounded_loadTarget {script : Script} (h : p.stage.Bounded)
    (run : (loadTarget target).run p = .ok script q) :
    script.Bounded ∧ q.stage.Bounded ∧ q.stage.backdrops = p.stage.backdrops := by
  rw [loadTarget, EStateM.run_bind, Play.run_stage?] at run
  simp only at run
  cases hlibrary : p.stage.library.lookup target with
  | some found =>
    rw [hlibrary] at run
    cases run
    exact ⟨h.library _ (mem_of_lookup hlibrary), h, rfl⟩
  | none =>
    simp only [hlibrary] at run
    obtain ⟨found, r, hload, hkept⟩ := exists_of_run_bind run
    obtain ⟨session, hsession, rfl⟩ := Play.exists_of_run_lift hload
    have hfound := Script.bounded_of_loadScript hsession
    cases hkept
    exact ⟨hfound, ⟨h.script, List.forall_mem_cons.2 ⟨hfound, h.library⟩, h.resolved, h.cast,
      h.loaded⟩, rfl⟩

/-- A reference at the cursor is resolved to a script in bounds, which it then holds. -/
theorem bounded_resolve {script : Script} {reference : Reference Script} (h : p.stage.Bounded)
    (run : ((p.stage.referenceAt p.stage.cursor.id p.stage.cursor.index target).resolve
      loadTarget).run p = .ok (script, reference) q) :
    script.Bounded ∧ reference.loaded = some script ∧ q.stage.Bounded ∧
      q.stage.backdrops = p.stage.backdrops := by
  rw [Reference.resolve] at run
  cases hloaded : (p.stage.referenceAt p.stage.cursor.id p.stage.cursor.index target).loaded with
  | some kept =>
    rw [hloaded] at run
    cases run
    exact ⟨h.resolved _ (mem_of_lookup hloaded), hloaded, h, rfl⟩
  | none =>
    simp only [hloaded] at run
    obtain ⟨kept, r, hload, hfound⟩ := exists_of_run_bind run
    obtain ⟨hkept, hbounded, hbackdrops⟩ := bounded_loadTarget h hload
    cases hfound
    exact ⟨hkept, rfl, hbounded, hbackdrops⟩

/-- A jump leads to a script in bounds and leaves the backgrounds alone. -/
theorem bounded_follow (h : p.stage.Bounded) (run : (follow target).run p = .ok () q) :
    q.stage.Bounded ∧ q.stage.backdrops = p.stage.backdrops := by
  rw [follow, EStateM.run_bind, Play.run_stage?] at run
  obtain ⟨⟨script, reference⟩, r, hresolve, hjump⟩ := exists_of_run_bind run
  obtain ⟨hscript, hloaded, hbounded, hbackdrops⟩ := bounded_resolve h hresolve
  cases hjump
  refine ⟨⟨hscript, hbounded.library, ?_, hbounded.cast, hbounded.loaded⟩, hbackdrops⟩
  simp only [hloaded]
  split
  · rename_i found _ hsame _
    cases hsame
    exact List.forall_mem_cons.2 ⟨hscript, hbounded.resolved⟩
  · exact hbounded.resolved

/-- The background is loaded if it was not, and no other picture is touched. -/
theorem grows_changeBackground (run : (changeBackground path).run p = .ok () q) :
    (∃ backdrops, q.stage = { p.stage with background := some path, backdrops }) ∧
      Grows p.stage q.stage ∧ ∃ image, q.stage.backdrops.lookup path = some image := by
  rw [changeBackground, EStateM.run_bind, Play.run_stage?] at run
  cases hlookup : p.stage.backdrops.lookup path with
  | some image =>
    simp only [hlookup, Option.isNone_some, Bool.false_eq_true, if_false, EStateM.run_bind,
      Play.run_lift, Session.run_note, Play.run_change] at run
    cases run
    exact ⟨⟨_, rfl⟩, fun _ _ himage => himage, image, hlookup⟩
  | none =>
    simp only [hlookup, Option.isNone_none, if_true] at run
    obtain ⟨image, r, hload, hkept⟩ := exists_of_run_bind run
    obtain ⟨session, -, rfl⟩ := Play.exists_of_run_lift hload
    cases hkept
    refine ⟨⟨_, rfl⟩, fun other found hfound => ?_, image, List.lookup_cons_self⟩
    have hne : (other == path) = false := by
      apply beq_eq_false_iff_ne.2
      rintro rfl
      rw [hlookup] at hfound
      cases hfound
    rw [List.lookup_cons, hne]
    exact hfound

theorem bounded_present {sprite : Sprite} {cast cast' : Cast} {priorityOf : String →
    Except AttributeError Int} {P : Sprite → Prop} (h : ∀ s ∈ cast, P s) (new : P sprite)
    (present : cast.present priorityOf sprite = .ok cast') : ∀ s ∈ cast', P s := by
  intro s hs
  rcases (Cast.mem_present present).1 hs with rfl | ⟨hs, -⟩
  · exact new
  · exact h s hs

theorem Bounded.stepped (h : s.Bounded) : s.stepped.Bounded :=
  ⟨h.script, h.library, h.resolved, h.cast, h.loaded⟩

theorem grows_of_eq (h : t.backdrops = s.backdrops) : Grows s t := by
  intro path image himage
  rw [h]
  exact himage

theorem bounded_advance_of_jump {choice : Bool} {event : Option Event} {choices : Option Choices}
    (h : p.stage.Bounded) (current : p.stage.current = some (.directive (.jump target choices)))
    (run : (advance choice).run p = .ok event q) : q.stage.Bounded ∧ Grows p.stage q.stage := by
  rw [advance, EStateM.run_bind, Play.run_stage?] at run
  simp only [current] at run
  by_cases hfollowed : (choices.isNone || choice) = true
  · simp only [hfollowed, if_true] at run
    obtain ⟨_, r, hfollow, hcurrent⟩ := exists_of_run_bind run
    cases hcurrent
    obtain ⟨hbounded, hbackdrops⟩ := bounded_follow h hfollow
    exact ⟨hbounded, grows_of_eq hbackdrops⟩
  · simp only [hfollowed, Bool.false_eq_true, if_false, EStateM.run_bind, Play.run_lift,
      Session.run_note, Play.run_change] at run
    cases run
    exact ⟨h.stepped, grows_of_eq rfl⟩

theorem bounded_advance_of_background {choice : Bool} {event : Option Event}
    (h : p.stage.Bounded) (current : p.stage.current = some (.directive (.background path)))
    (run : (advance choice).run p = .ok event q) : q.stage.Bounded ∧ Grows p.stage q.stage := by
  rw [advance, EStateM.run_bind, Play.run_stage?] at run
  simp only [current] at run
  obtain ⟨_, r, hchange, hstep⟩ := exists_of_run_bind run
  cases hstep
  obtain ⟨⟨backdrops, hstage⟩, hgrows, hloaded⟩ := grows_changeBackground hchange
  refine ⟨Bounded.stepped ?_, hgrows⟩
  rw [hstage] at hloaded ⊢
  refine ⟨h.script, h.library, h.resolved, h.cast, ?_⟩
  rintro _ ⟨⟩
  exact hloaded

/-- A step keeps the bounds and exchanges no picture. -/
theorem bounded_advance {choice : Bool} {event : Option Event} (h : p.stage.Bounded)
    (run : (advance choice).run p = .ok event q) : q.stage.Bounded ∧ Grows p.stage q.stage := by
  have hmoved : Moved p.stage q.stage := moved_of_run run
  generalize hq : q.stage = next at hmoved ⊢
  cases hmoved with
  | finished => exact ⟨h, grows_of_eq rfl⟩
  | passed => exact ⟨h.stepped, grows_of_eq rfl⟩
  | followed current =>
    rw [← hq]
    exact bounded_advance_of_jump h current run
  | changed current =>
    rw [← hq]
    exact bounded_advance_of_background h current run
  | @shown name placement cast current present =>
    have hplacement := h.script name placement (List.mem_of_getElem? current)
    refine ⟨Bounded.stepped ⟨h.script, h.library, h.resolved, ?_, h.loaded⟩, grows_of_eq rfl⟩
    apply bounded_present h.cast _ present
    exact ⟨Int.natCast_nonneg _, Int.ofNat_le.2 hplacement.1, Int.natCast_nonneg _,
      Int.ofNat_le.2 hplacement.2⟩
  | @hidden name placement current =>
    refine ⟨Bounded.stepped ⟨h.script, h.library, h.resolved, ?_, h.loaded⟩, grows_of_eq rfl⟩
    intro sprite hsprite
    exact h.cast sprite (List.mem_of_mem_eraseP hsprite)
  | written =>
    exact ⟨Bounded.stepped ⟨h.script, h.library, h.resolved, h.cast, h.loaded⟩, grows_of_eq rfl⟩
  | @ranked path key value attributes cast current priority integer set resort =>
    refine ⟨Bounded.stepped ⟨h.script, h.library, h.resolved, ?_, h.loaded⟩, grows_of_eq rfl⟩
    intro sprite hsprite
    exact h.cast sprite ((Cast.orderedBy_resort resort).2.mem_iff.1 hsprite)

/-- A picture that the stage has for a background was had before or has just been loaded. -/
theorem gives_of_changeBackground (run : (changeBackground path).run p = .ok () q) {other : String}
    {image : Surface} (h : q.stage.backdrops.lookup other = some image) :
    p.stage.backdrops.lookup other = some image ∨ other = path ∧ p.session.Gives other image := by
  rw [changeBackground, EStateM.run_bind, Play.run_stage?] at run
  cases hlookup : p.stage.backdrops.lookup path with
  | some kept =>
    simp only [hlookup, Option.isNone_some, Bool.false_eq_true, if_false, EStateM.run_bind,
      Play.run_lift, Session.run_note, Play.run_change] at run
    cases run
    exact Or.inl h
  | none =>
    simp only [hlookup, Option.isNone_none, if_true] at run
    obtain ⟨loaded, r, hload, hkept⟩ := exists_of_run_bind run
    obtain ⟨session, hsession, rfl⟩ := Play.exists_of_run_lift hload
    cases hkept
    by_cases hother : other = path
    · subst hother
      simp only [List.lookup_cons_self, Option.some.injEq] at h
      subst h
      exact Or.inr ⟨rfl, session, hsession⟩
    · simp only [List.lookup_cons, beq_eq_false_iff_ne.2 hother] at h
      exact Or.inl h

/-- A step gives the stage no picture but the one that it has loaded for the background that it sets. -/
theorem gives_of_advance {choice : Bool} {event : Option Event}
    (run : (advance choice).run p = .ok event q) {image : Surface}
    (h : q.stage.backdrops.lookup path = some image) :
    p.stage.backdrops.lookup path = some image ∨
      p.stage.current = some (.directive (.background path)) ∧ p.session.Gives path image := by
  have hmoved : Moved p.stage q.stage := moved_of_run run
  generalize hq : q.stage = next at hmoved h
  cases hmoved with
  | finished | passed | followed | shown | hidden | written | ranked => exact Or.inl h
  | changed current =>
    rw [advance, EStateM.run_bind, Play.run_stage?] at run
    simp only [current] at run
    obtain ⟨_, r, hchange, hstep⟩ := exists_of_run_bind run
    cases hstep
    have hbackdrops := congrArg Stage.backdrops hq
    simp only [stepped] at hbackdrops h
    rw [← hbackdrops] at h
    rcases gives_of_changeBackground hchange h with hbefore | ⟨rfl, hgives⟩
    · exact Or.inl hbefore
    · exact Or.inr ⟨current, hgives⟩

end Stage

end VisualNovel
