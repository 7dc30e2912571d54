import VisualNovel.Player.Run
import VisualNovel.Proofs.Session.Ask
import VisualNovel.Proofs.Session.Covers
import VisualNovel.Proofs.Stage.Render
import VisualNovel.Proofs.Stage.Search

/-!
# The course of a play

A play takes one turn at every event: it shows what there is to be seen, makes a choice and steps on.
Two plays whose turns end alike visit the same events and come to the same end, whatever budget they
are given.
-/
namespace VisualNovel.Play

def noteIgnored (name : String) (arguments : List String) : Action Unit :=
  Session.note "vn_play" .info
    ("Ignoring custom directive " ++ name ++ "(" ++ String.intercalate ", " arguments ++ ")")

/-- What is done at an event before the step; gives the choice that is made. -/
def present (r : Renderer) (out : Path) (choose : Option Bool) (drawn : Nat) : Event → Act Bool
  | .directive (.custom name arguments) => do
    noteIgnored name arguments
    return false
  | event =>
    if event.isRenderable then do
      let _ ← Stage.renderCached r (out.child (drawingName (drawn + 1))).text
      choiceAt choose event
    else return false

def countAt (drawn : Nat) (event : Event) : Nat :=
  if event.isRenderable then drawn + 1 else drawn

/-- All that a play does at an event; gives the number of drawings made so far. -/
def turn (r : Renderer) (out : Path) (choose : Option Bool) (drawn : Nat) (event : Event) :
    Act Nat := do
  let choice ← present r out choose drawn event
  let _ ← Stage.advance choice
  return countAt drawn event

/-- The events that a play visits in a number of turns, up to the end of the play. -/
def visited (r : Renderer) (out : Path) (choose : Option Bool) :
    (turns drawn : Nat) → Play → List Event
  | 0, _, _ => []
  | turns + 1, drawn, p =>
    match p.stage.current with
    | none => []
    | some event =>
      event ::
        match (turn r out choose drawn event).run p with
        | .ok drawn p => visited r out choose turns drawn p
        | .error _ _ => []

/-- A play comes by turns to a number of drawings and a state. -/
inductive Reaches (r : Renderer) (out : Path) (choose : Option Bool) (start : Play) :
    Nat → Play → Prop where
  | start : Reaches r out choose start 0 start
  | turn {drawn drawn' : Nat} {p q : Play} {event : Event}
      (before : Reaches r out choose start drawn p) (current : p.stage.current = some event)
      (run : (turn r out choose drawn event).run p = .ok drawn' q) :
      Reaches r out choose start drawn' q

variable {r : Renderer} {out : Path} {choose : Option Bool} {drawn budget : Nat} {p q : Play}
  {event : Event} {choice : Bool}

theorem present_of_isRenderable (h : event.isRenderable = true) :
    present r out choose drawn event = (do
      let _ ← Stage.renderCached r (out.child (drawingName (drawn + 1))).text
      choiceAt choose event) := by
  cases event with
  | dialogue speaker lines => rfl
  | directive d =>
    cases d with
    | custom name arguments => cases h
    | _ => simp only [present, h, if_true]

theorem present_of_not_stopsAt (h : stopsAt event = false) :
    present r out choose drawn event = pure false := by
  cases event with
  | dialogue speaker lines => cases h
  | directive d =>
    cases d with
    | custom name arguments => cases h
    | jump target choices =>
      cases choices with
      | some choices => cases h
      | none => rfl
    | «show» | hide | background | «attribute» => rfl

theorem countAt_of_not_stopsAt (h : stopsAt event = false) : countAt drawn event = drawn := by
  rw [stopsAt, Bool.or_eq_false_iff] at h
  rw [countAt, h.1, if_neg Bool.false_ne_true]

theorem turn_of_not_stopsAt (h : stopsAt event = false) :
    turn r out choose drawn event = do
      let _ ← Stage.advance false
      return drawn := by
  rw [turn, present_of_not_stopsAt h, countAt_of_not_stopsAt h, pure_bind]

/-- Going on from an event that a play does not stop at is taking a turn there. -/
theorem advance_seek_eq (r : Renderer) (out : Path) (choose : Option Bool) (drawn : Nat)
    (h : stopsAt event = false) :
    (do
      let _ ← Stage.advance false
      Stage.seek stopsAt budget) = (do
      let _ ← turn r out choose drawn event
      Stage.seek stopsAt budget) := by
  rw [turn_of_not_stopsAt h]
  simp only [bind_assoc, pure_bind]

theorem stopsAt_of_seek {found : Event} (h : (Stage.seek stopsAt budget).run p = .ok (some found) q) :
    stopsAt found = true ∧ q.stage.current = some found := by
  obtain ⟨events, -, hcurrent, hstops⟩ := Stage.skips_of_run_seek h
  exact ⟨hstops found rfl, hcurrent⟩

theorem run_playFrom (r : Renderer) (out : Path) (choose : Option Bool) (drawn budget : Nat)
    (p : Play) :
    (playFrom r out choose drawn (budget + 1)).run p =
      match (Stage.seek stopsAt (budget + 1)).run p with
      | .error e q => .error e q
      | .ok none q => .ok drawn q
      | .ok (some event) q =>
        (do playFrom r out choose (← turn r out choose drawn event) budget : Act Nat).run q := by
  rw [playFrom, EStateM.run_bind]
  cases hseek : (Stage.seek stopsAt (budget + 1)).run p with
  | error e q => rfl
  | ok found q =>
    cases found with
    | none => rfl
    | some event =>
      have hstops := (stopsAt_of_seek hseek).1
      cases event with
      | dialogue speaker lines =>
        have hrenderable : (Event.dialogue speaker lines).isRenderable = true := rfl
        simp only [turn, present_of_isRenderable hrenderable, bind_assoc, pure_bind]
        rfl
      | directive d =>
        cases d with
        | custom name arguments =>
          simp only [turn, present, bind_assoc, pure_bind]
          rfl
        | jump target choices =>
          cases choices with
          | some choices =>
            have hrenderable :
                (Event.directive (.jump target (some choices))).isRenderable = true := rfl
            simp only [turn, present_of_isRenderable hrenderable, bind_assoc, pure_bind]
            rfl
          | none => cases hstops
        | «show» | hide | background | «attribute» => cases hstops

theorem run_playFrom_of_error {e : Failure} (current : p.stage.current = some event)
    (renderable : event.isRenderable = true)
    (failed : (Stage.renderCached r (out.child (drawingName (drawn + 1))).text).run p = .error e q) :
    (playFrom r out choose drawn (budget + 1)).run p = .error e q := by
  have hseek : (Stage.seek stopsAt (budget + 1)).run p = .ok (some event) p := by
    rw [Stage.seek, EStateM.run_bind, Play.run_stage?]
    simp only [current, stopsAt, renderable, Bool.true_or, if_true]
    rfl
  rw [run_playFrom, hseek]
  simp only [turn, present_of_isRenderable renderable, bind_assoc, EStateM.run_bind, failed]

/-- A turn that is taken shows what there is to be seen and then steps on. -/
theorem exists_of_run_turn {drawn' : Nat}
    (h : (turn r out choose drawn event).run p = .ok drawn' q) :
    drawn' = countAt drawn event ∧ ∃ choice p' next,
      (present r out choose drawn event).run p = .ok choice p' ∧
      (Stage.advance choice).run p' = .ok next q := by
  obtain ⟨choice, p', hpresent, hrest⟩ := exists_of_run_bind h
  obtain ⟨next, q', hadvance, hcount⟩ := exists_of_run_bind hrest
  cases hcount
  exact ⟨rfl, choice, p', next, hpresent, hadvance⟩

theorem stage_of_choiceAt (run : (choiceAt choose event).run p = .ok choice q) :
    q.stage = p.stage := by
  cases event with
  | dialogue speaker lines =>
    cases run
    rfl
  | directive d =>
    cases d with
    | jump target choices =>
      cases choices with
      | none =>
        cases run
        rfl
      | some choices =>
        cases choose with
        | some first =>
          cases run
          rfl
        | none =>
          simp only [choiceAt, EStateM.run_bind, run_lift, Session.run_note] at run
          split at run
          · cases run
            rfl
          · cases run
    | «show» | hide | background | «attribute» | custom =>
      cases run
      rfl

/-- In sessions that correspond a choice is made alike, and the stages stay as they are. -/
theorem alike_choiceAt {S : Session → Session → Prop} (converses : Converses S)
    (h : S p.session q.session) (choose : Option Bool) (event : Event) :
    Alike (fun p' q' => S p'.session q'.session ∧ p'.stage = p.stage ∧ q'.stage = q.stage)
      (fun x y p' q' => (x = y ∧ S p'.session q'.session) ∧ p'.stage = p.stage ∧ q'.stage = q.stage)
      ((choiceAt choose event).run p) ((choiceAt choose event).run q) := by
  have hnone : Alike (fun p' q' => S p'.session q'.session ∧ p'.stage = p.stage ∧ q'.stage = q.stage)
      (fun x y p' q' => (x = y ∧ S p'.session q'.session) ∧ p'.stage = p.stage ∧ q'.stage = q.stage)
      ((pure false : Act Bool).run p) ((pure false : Act Bool).run q) := ⟨⟨rfl, h⟩, rfl, rfl⟩
  cases event with
  | dialogue speaker lines =>
    apply (converses.note h _ _ _).lift.bind
    rintro _ _ p' q' ⟨⟨-, h'⟩, hp, hq⟩
    exact ⟨⟨rfl, h'⟩, hp, hq⟩
  | directive d =>
    cases d with
    | jump target choices =>
      cases choices with
      | none => exact hnone
      | some choices =>
        cases choose with
        | some first => exact ⟨⟨rfl, h⟩, rfl, rfl⟩
        | none =>
          apply (converses.note h _ _ _).lift.bind
          rintro _ _ p' q' ⟨⟨-, h'⟩, hp, hq⟩
          rw [← hp, ← hq]
          exact (converses.ask h' choices).lift
    | «show» | hide | background | «attribute» | custom => exact hnone

/-- At an event that is not drawn nothing is done but a note before the step. -/
theorem eq_of_present (hidden : event.isRenderable = false)
    (run : (present r out choose drawn event).run p = .ok choice q) :
    q = { p with session := { p.session with journal := q.session.journal } } := by
  cases event with
  | dialogue speaker lines => cases hidden
  | directive d =>
    cases d with
    | custom name arguments =>
      cases run
      rfl
    | jump | «show» | hide | background | «attribute» =>
      simp only [present, hidden, Bool.false_eq_true, if_false] at run
      cases run
      rfl

/-- What is done before a step touches nothing on the stage but a cache that is there. -/
theorem exists_cache_of_present (run : (present r out choose drawn event).run p = .ok choice q) :
    ∃ cache, q.stage = { p.stage with cache } ∧ (p.stage.cache = none → cache = none) := by
  cases hrenderable : event.isRenderable with
  | true =>
    rw [present_of_isRenderable hrenderable] at run
    obtain ⟨hit, p', hrender, hchoice⟩ := exists_of_run_bind run
    rw [stage_of_choiceAt hchoice]
    exact Stage.exists_cache_of_renderCached hrender
  | false =>
    rw [eq_of_present hrenderable run]
    exact ⟨p.stage.cache, rfl, id⟩

/-- Without a cache nothing that is done before a step touches the stage. -/
theorem stage_of_present (plain : p.stage.cache = none)
    (run : (present r out choose drawn event).run p = .ok choice q) : q.stage = p.stage := by
  obtain ⟨cache, hstage, hcache⟩ := exists_cache_of_present run
  rw [hstage, hcache plain, ← plain]

theorem exists_moved_of_turn {drawn' : Nat}
    (run : (turn r out choose drawn event).run p = .ok drawn' q) :
    ∃ cache, Stage.Moved { p.stage with cache } q.stage ∧ (p.stage.cache = none → cache = none) := by
  obtain ⟨-, choice, p', next, hpresent, hadvance⟩ := exists_of_run_turn run
  obtain ⟨cache, hstage, hcache⟩ := exists_cache_of_present hpresent
  refine ⟨cache, ?_, hcache⟩
  rw [← hstage]
  exact Stage.moved_of_run hadvance

section

variable {settings : Settings} {script : Script} {session : Session} {cache : Option RenderCache}
  (dialogues : ∀ e ∈ script.events, ∃ speaker lines, e = .dialogue speaker lines)

include dialogues

/-- A play of nothing but dialogue goes through the script and changes nothing on the stage but the
cache. -/
theorem exists_index_of_reaches_of_dialogues
    (h : Reaches r out choose ⟨session, { Stage.opening settings script with cache }⟩ drawn q) :
    ∃ index cache', q.stage =
        { Stage.opening settings script with cursor := { script, index }, cache := cache' } ∧
      (cache = none → cache' = none) := by
  induction h with
  | start => exact ⟨0, cache, rfl, id⟩
  | @turn drawn drawn' p q event before current run ih =>
    obtain ⟨index, cache', hindex, hcache⟩ := ih
    obtain ⟨kept, hmoved, hkept⟩ := exists_moved_of_turn run
    rw [hindex] at current hmoved hkept
    obtain ⟨speaker, lines, rfl⟩ := dialogues event (List.mem_of_getElem? current)
    generalize q.stage = t at hmoved
    cases hmoved with
    | finished hevent =>
      cases hevent.symm.trans current
    | passed => exact ⟨index + 1, kept, rfl, fun h => hkept (hcache h)⟩
    | followed hevent | shown hevent | hidden hevent | changed hevent | written hevent | ranked hevent =>
      cases hevent.symm.trans current

theorem stage_of_reaches_of_dialogues
    (h : Reaches r out choose ⟨session, Stage.opening settings script⟩ drawn q) :
    ∃ index, q.stage = { Stage.opening settings script with cursor := { script, index } } := by
  obtain ⟨index, cache, hindex, hcache⟩ := exists_index_of_reaches_of_dialogues dialogues h
  cases hcache rfl
  exact ⟨index, hindex⟩

/-- What such a play shows are its lines, in the colors of the settings. -/
theorem exists_of_frame_of_dialogues {d : DialogueFrame}
    (h : Reaches r out choose ⟨session, { Stage.opening settings script with cache }⟩ drawn q)
    (frame : q.stage.frame = .ok (some (.dialogue d))) :
    ∃ speaker lines, .dialogue speaker lines ∈ script.events ∧
      d = { speaker, text := Event.dialogueText lines, textColor := settings.textColor,
            boxColor := settings.boxColor } := by
  obtain ⟨index, cache', hstage, -⟩ := exists_index_of_reaches_of_dialogues dialogues h
  rw [hstage] at frame
  cases hevent : script.events[index]? with
  | none =>
    rw [Stage.frame] at frame
    simp only [Stage.current, hevent] at frame
    cases frame
  | some event =>
    have hmem := List.mem_of_getElem? hevent
    obtain ⟨speaker, lines, rfl⟩ := dialogues event hmem
    have hlit := Stage.frame_of_empty (s := { Stage.opening settings script with
      cursor := { script, index }, cache := cache' }) hevent rfl rfl rfl
    cases frame.symm.trans hlit
    exact ⟨speaker, lines, hmem, rfl⟩

end

/-- Two plays go in step as far as `paired` holds: they are at the same event, and the turns that they
take there end alike. Wherever they stop, `stopped` holds. -/
structure Lockstep (r : Renderer) (out : Path) (choose : Option Bool) (stopped : Play → Play → Prop)
    (paired : Nat → Play → Play → Prop) : Prop where
  current : ∀ {drawn p q}, paired drawn p q → p.stage.current = q.stage.current
  stops : ∀ {drawn p q}, paired drawn p q → stopped p q
  turn : ∀ {drawn p q event}, paired drawn p q → q.stage.current = some event →
    Alike stopped (fun m n p q => m = n ∧ paired n p q)
      ((turn r out choose drawn event).run p) ((turn r out choose drawn event).run q)

namespace Lockstep

variable {stopped : Play → Play → Prop} {paired : Nat → Play → Play → Prop}

theorem visited (h : Lockstep r out choose stopped paired) (turns : Nat)
    (hpaired : paired drawn p q) :
    visited r out choose turns drawn p = visited r out choose turns drawn q := by
  induction turns generalizing drawn p q with
  | zero => rfl
  | succ turns ih =>
    rw [Play.visited, Play.visited, h.current hpaired]
    cases hcurrent : q.stage.current with
    | none => rfl
    | some event =>
      have hturn := h.turn hpaired hcurrent
      obtain ⟨m, p', _, q', hp, hq, rfl, hpaired'⟩ | ⟨e, p', q', hp, hq, -⟩ := hturn.cases
      · simp only [hp, hq, ih hpaired']
      · simp only [hp, hq]

theorem seek (h : Lockstep r out choose stopped paired) (budget : Nat)
    (hpaired : paired drawn p q) :
    Alike stopped (fun x y p q => x = y ∧ paired drawn p q)
      ((Stage.seek stopsAt budget).run p) ((Stage.seek stopsAt budget).run q) := by
  induction budget generalizing p q with
  | zero => exact ⟨rfl, h.stops hpaired⟩
  | succ budget ih =>
    rw [Stage.seek, EStateM.run_bind, EStateM.run_bind, Play.run_stage?, Play.run_stage?]
    simp only [h.current hpaired]
    cases hcurrent : q.stage.current with
    | none => exact ⟨rfl, hpaired⟩
    | some event =>
      by_cases hstop : stopsAt event = true
      · simp only [hstop, if_true]
        exact ⟨rfl, hpaired⟩
      · have hpassed := Bool.eq_false_iff.2 hstop
        have hturn := h.turn hpaired hcurrent
        simp only [hstop, Bool.false_eq_true, if_false]
        rw [advance_seek_eq r out choose drawn hpassed]
        apply hturn.bind_of_run
        rintro m n p' q' - hq ⟨rfl, hpaired⟩
        rw [(exists_of_run_turn hq).1, countAt_of_not_stopsAt hpassed] at hpaired
        exact ih hpaired

theorem playFrom (h : Lockstep r out choose stopped paired) (budget : Nat)
    (hpaired : paired drawn p q) :
    Alike stopped (fun m n p q => m = n ∧ stopped p q)
      ((playFrom r out choose drawn budget).run p) ((playFrom r out choose drawn budget).run q) := by
  induction budget generalizing drawn p q with
  | zero => exact ⟨rfl, h.stops hpaired⟩
  | succ budget ih =>
    have hseek := h.seek (budget + 1) hpaired
    rw [run_playFrom, run_playFrom]
    obtain ⟨found, p', _, q', hp, hq, rfl, hpaired'⟩ | ⟨e, p', q', hp, hq, hstopped⟩ := hseek.cases
    · rw [hp, hq]
      cases found with
      | none => exact ⟨rfl, h.stops hpaired'⟩
      | some event =>
        apply (h.turn hpaired' (stopsAt_of_seek hq).2).bind
        rintro m n p q ⟨rfl, hpaired⟩
        exact ih hpaired
    · rw [hp, hq]
      exact ⟨rfl, hstopped⟩

end Lockstep

/-- The second play goes along with the first as far as `paired` holds: they are at the same event, and
the turn that the first one takes there can be taken by the second. -/
structure Escorts (r : Renderer) (out : Path) (choose : Option Bool)
    (paired : Nat → Play → Play → Prop) : Prop where
  current : ∀ {drawn p q}, paired drawn p q → p.stage.current = q.stage.current
  turn : ∀ {drawn p q event}, paired drawn p q → p.stage.current = some event →
    Covers (fun m n p q => m = n ∧ paired n p q)
      ((turn r out choose drawn event).run p) ((turn r out choose drawn event).run q)

namespace Escorts

variable {paired : Nat → Play → Play → Prop}

theorem seek (h : Escorts r out choose paired) (budget : Nat) (hpaired : paired drawn p q) :
    Covers (fun x y p q => x = y ∧ paired drawn p q)
      ((Stage.seek stopsAt budget).run p) ((Stage.seek stopsAt budget).run q) := by
  induction budget generalizing p q with
  | zero => exact .of_error
  | succ budget ih =>
    rw [Stage.seek, EStateM.run_bind, EStateM.run_bind, Play.run_stage?, Play.run_stage?]
    simp only [← h.current hpaired]
    cases hcurrent : p.stage.current with
    | none => exact .of_ok ⟨rfl, hpaired⟩
    | some event =>
      by_cases hstop : stopsAt event = true
      · simp only [hstop, if_true]
        exact .of_ok ⟨rfl, hpaired⟩
      · have hpassed := Bool.eq_false_iff.2 hstop
        simp only [hstop, Bool.false_eq_true, if_false]
        rw [advance_seek_eq r out choose drawn hpassed]
        apply (h.turn hpaired hcurrent).bind_of_run
        rintro m n p' q' hp - ⟨rfl, hpaired⟩
        rw [(exists_of_run_turn hp).1, countAt_of_not_stopsAt hpassed] at hpaired
        exact ih hpaired

/-- Where the first play comes to its end, so does the second. -/
theorem playFrom (h : Escorts r out choose paired) (budget : Nat) (hpaired : paired drawn p q) :
    Covers (fun m n p q => m = n ∧ paired m p q)
      ((playFrom r out choose drawn budget).run p) ((playFrom r out choose drawn budget).run q) := by
  induction budget generalizing drawn p q with
  | zero => exact .of_error
  | succ budget ih =>
    have hseek := h.seek (budget + 1) hpaired
    rw [run_playFrom, run_playFrom]
    cases hp : (Stage.seek stopsAt (budget + 1)).run p with
    | error e p' => exact .of_error
    | ok found p' =>
      obtain ⟨_, q', hq, rfl, hpaired'⟩ := hseek found p' hp
      rw [hq]
      cases found with
      | none => exact .of_ok ⟨rfl, hpaired'⟩
      | some event =>
        apply (h.turn hpaired' (stopsAt_of_seek hp).2).bind
        rintro m n p q ⟨rfl, hpaired⟩
        exact ih hpaired

end Escorts

end VisualNovel.Play
