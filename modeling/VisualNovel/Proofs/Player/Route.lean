import VisualNovel.Proofs.Player.Course
import VisualNovel.Proofs.Script.Load
import VisualNovel.Proofs.Stage.Bounded
import VisualNovel.Proofs.Stage.Library
import VisualNovel.Proofs.Stage.Scenery

/-!
# The route of a play

A play goes from event to event, at each with one choice. The way that it goes is laid down by the
scripts and the choices alone: at a jump that is followed it goes on with the first event of the target,
everywhere else with the next event of the script, until a script ends.
-/
namespace VisualNovel

/-- The target of a jump that is followed with a choice: of one with choices if the first one is taken,
of any other one always. -/
def Event.followed? (choice : Bool) : Event → Option String
  | .directive (.jump target none) => some target
  | .directive (.jump target (some _)) => if choice then some target else none
  | _ => none

/-- The way through scripts from the first event of one of them on: the events on it, each with the
choice that is made there, lead to a place in a script. -/
inductive Route (scripts : String → Option Script) (entry : Script) :
    List (Event × Bool) → Script → Nat → Prop where
  | start : Route scripts entry [] entry 0
  | jump {path : List (Event × Bool)} {script found : Script} {index : Nat} {event : Event}
      {choice : Bool} {target : String} :
      Route scripts entry path script index → script.events[index]? = some event →
        event.followed? choice = some target → scripts target = some found →
          Route scripts entry (path ++ [(event, choice)]) found 0
  | next {path : List (Event × Bool)} {script : Script} {index : Nat} {event : Event}
      {choice : Bool} :
      Route scripts entry path script index → script.events[index]? = some event →
        event.followed? choice = none →
          Route scripts entry (path ++ [(event, choice)]) script (index + 1)

variable {path : List (Event × Bool)} {choice : Bool} {event : Event}

theorem Route.mono {scripts scripts' : String → Option Script} {entry script : Script} {index : Nat}
    (h : Route scripts entry path script index)
    (more : ∀ target found, scripts target = some found → scripts' target = some found) :
    Route scripts' entry path script index := by
  induction h with
  | start => exact .start
  | jump _ current followed found ih => exact ih.jump current followed (more _ _ found)
  | next _ current declined ih => exact ih.next current declined

namespace Stage

variable {s : Stage} {session : Session} {q : Play} {next : Option Event} {opened : Script}
  {target : String}

theorem takes_iff (current : s.current = some event) :
    s.Takes choice target ↔ event.followed? choice = some target := by
  constructor
  · rintro ⟨choices, hjump, hfollowed⟩
    cases current.symm.trans hjump
    cases choices with
    | none => rfl
    | some choices =>
      rw [Option.isNone_some, Bool.false_or] at hfollowed
      rw [Event.followed?, hfollowed, if_pos rfl]
  · intro hfollowed
    unfold Event.followed? at hfollowed
    split at hfollowed
    · cases hfollowed
      exact ⟨none, current, rfl⟩
    · rename_i choices
      split at hfollowed
      · cases hfollowed
        rename_i hchoice
        exact ⟨some choices, current, by rw [hchoice, Bool.or_true]⟩
      · cases hfollowed
    · cases hfollowed

def kept (s : Stage) (target : String) : Option Script :=
  s.library.lookup target

theorem Coherent.route {entry : Script} (h : Coherent opened s) (current : s.current = some event)
    (run : (advance choice).run ⟨session, s⟩ = .ok next q)
    (route : Route s.kept entry path s.cursor.script s.cursor.index) :
    Route q.stage.kept entry (path ++ [(event, choice)]) q.stage.cursor.script
      q.stage.cursor.index := by
  have hroute := route.mono (h.goes (.moved run)).2
  cases hfollowed : event.followed? choice with
  | some target =>
    obtain ⟨found, hcursor, hkept⟩ := h.exists_kept_of_run ((takes_iff current).2 hfollowed) run
    rw [hcursor]
    exact hroute.jump current hfollowed hkept
  | none =>
    have hdeclined : ∀ target, ¬s.Takes choice target := by
      intro target htakes
      cases hfollowed.symm.trans ((takes_iff current).1 htakes)
    rw [cursor_of_declined current hdeclined run]
    exact hroute.next current hfollowed

end Stage

namespace Play

/-- How many events of a route are drawn. -/
def frames (path : List (Event × Bool)) : Nat :=
  path.countP fun visit => visit.1.isRenderable

theorem frames_concat (path : List (Event × Bool)) (event : Event) (choice : Bool) :
    frames (path ++ [(event, choice)]) = countAt (frames path) event := by
  rw [frames, List.countP_append, List.countP_singleton, countAt]
  split <;> rfl

/-- The turns that a play takes at events, with the choices that are made there, lead from the start to
a play. -/
inductive Course (r : Renderer) (out : Path) (choose : Option Bool) (start : Play) :
    List (Event × Bool) → Play → Prop where
  | start : Course r out choose start [] start
  | turn {path : List (Event × Bool)} {p q u : Play} {event : Event} {choice : Bool}
      {next : Option Event} (before : Course r out choose start path p)
      (current : p.stage.current = some event)
      (present : (present r out choose (frames path) event).run p = .ok choice q)
      (step : (Stage.advance choice).run q = .ok next u) :
      Course r out choose start (path ++ [(event, choice)]) u

/-- A play visits an event on its course: the events before it have led to `p`, and the play steps on
from `q`. -/
structure Visit (r : Renderer) (out : Path) (choose : Option Bool) (start : Play)
    (path : List (Event × Bool)) (event : Event) (choice : Bool) (p q : Play) : Prop where
  course : Course r out choose start path p
  current : p.stage.current = some event
  present : (present r out choose (frames path) event).run p = .ok choice q

variable {r : Renderer} {out : Path} {choose : Option Bool} {start p q : Play} {n budget : Nat}

namespace Course

theorem skips {events : List Event} (h : Course r out choose start path p)
    (skips : Stage.Skips stopsAt events p q) :
    ∃ path', Course r out choose start path' q ∧ frames path' = frames path := by
  induction skips generalizing path with
  | nil => exact ⟨path, h, rfl⟩
  | @cons event events next p q u current passed step _ ih =>
    have hpresent : (present r out choose (frames path) event).run p = .ok false p := by
      rw [present_of_not_stopsAt passed]
      rfl
    obtain ⟨path', hcourse, hframes⟩ := ih (h.turn current hpresent step)
    refine ⟨path', hcourse, ?_⟩
    rw [hframes, frames_concat, countAt_of_not_stopsAt passed]

/-- A play that comes to its end has taken its course to the end of a script, and has counted what it
has drawn. -/
theorem of_run_playFrom (h : Course r out choose start path p)
    (run : (playFrom r out choose (frames path) budget).run p = .ok n q) :
    ∃ path', Course r out choose start path' q ∧ q.stage.current = none ∧ n = frames path' := by
  induction budget generalizing path p with
  | zero => cases run
  | succ budget ih =>
    rw [run_playFrom] at run
    cases hseek : (Stage.seek stopsAt (budget + 1)).run p with
    | error e p' =>
      rw [hseek] at run
      cases run
    | ok found p' =>
      obtain ⟨events, hskips, hcurrent, -⟩ := Stage.skips_of_run_seek hseek
      obtain ⟨path', hcourse, hframes⟩ := h.skips hskips
      rw [hseek, ← hframes] at run
      cases found with
      | none =>
        cases run
        exact ⟨path', hcourse, hcurrent, rfl⟩
      | some event =>
        obtain ⟨drawn, u, hturn, hrest⟩ := exists_of_run_bind run
        obtain ⟨rfl, choice, p'', next, hpresent, hadvance⟩ := exists_of_run_turn hturn
        rw [← frames_concat path' event choice] at hrest
        exact ih (hcourse.turn hcurrent hpresent hadvance) hrest

/-- What holds of the stage at the start, what a change of the cache keeps and what a step over an event
takes on holds at the end of a course. -/
theorem stage_induction {P : List (Event × Bool) → Stage → Prop}
    (h : Course r out choose start path p) (begins : P [] start.stage)
    (cached : ∀ path s cache, P path s → P path { s with cache })
    (moved : ∀ path s session event choice next q, P path s → s.current = some event →
      (Stage.advance choice).run ⟨session, s⟩ = .ok next q → P (path ++ [(event, choice)]) q.stage) :
    P path p.stage := by
  induction h with
  | start => exact begins
  | @turn path p q u event choice next _ current present step ih =>
    obtain ⟨cache, hstage, -⟩ := exists_cache_of_present present
    change (Stage.advance choice).run ⟨q.session, q.stage⟩ = .ok next u at step
    rw [hstage] at step
    exact moved path { p.stage with cache } q.session event choice next u (cached path p.stage cache ih)
      current step

theorem applyAll_scenery (h : Course r out choose start path p) :
    start.stage.scenery.applyAll (path.map Prod.fst) = .ok p.stage.scenery := by
  refine h.stage_induction
    (P := fun path s => start.stage.scenery.applyAll (path.map Prod.fst) = .ok s.scenery) rfl
    (fun _ _ _ happlied => happlied) ?_
  intro path s session event choice next q happlied hcurrent hrun
  rw [List.map_append]
  exact Scenery.applyAll_concat happlied ((Stage.moved_of_run hrun).apply_scenery hcurrent)

/-- A course follows the route that the scripts and the choices lay down. -/
theorem coherent_route {settings : Settings} {entry : Script} {cache : Option RenderCache}
    (h : Course r out choose start path p)
    (opens : start.stage = { Stage.opening settings entry with cache }) :
    Stage.Coherent entry p.stage ∧
      Route p.stage.kept entry path p.stage.cursor.script p.stage.cursor.index := by
  refine h.stage_induction
    (P := fun path s => Stage.Coherent entry s ∧
      Route s.kept entry path s.cursor.script s.cursor.index) ?_ ?_ ?_
  · rw [opens]
    exact ⟨((Stage.coherent_opening settings entry).goes (.cached cache)).1, .start⟩
  · rintro path s cache ⟨hcoherent, hroute⟩
    exact ⟨(hcoherent.goes (.cached cache)).1, hroute⟩
  · rintro path s session event choice next q ⟨hcoherent, hroute⟩ hcurrent hrun
    exact ⟨(hcoherent.goes (.moved hrun)).1, hcoherent.route hcurrent hrun hroute⟩

theorem settings_eq (h : Course r out choose start path p) :
    p.stage.settings = start.stage.settings := by
  refine h.stage_induction (P := fun _ s => s.settings = start.stage.settings) rfl
    (fun _ _ _ hsettings => hsettings) ?_
  intro path s session event choice next q hsettings hcurrent hrun
  exact (Stage.moved_of_run hrun).settings_eq.trans hsettings

theorem bounded (h : Course r out choose start path p) (bounded : start.stage.Bounded) :
    p.stage.Bounded := by
  refine h.stage_induction (P := fun _ s => s.Bounded) bounded ?_ ?_
  · intro path s cache hs
    exact ⟨hs.script, hs.library, hs.resolved, hs.cast, hs.loaded⟩
  · intro path s session event choice next q hs hcurrent hrun
    exact (Stage.bounded_advance (p := ⟨session, s⟩) hs hrun).1

/-- A script that is kept was kept at the start, or has been loaded from its file at an event that has
been visited. -/
theorem exists_loaded {script : Script} {target : String} (h : Course r out choose start path p)
    (kept : p.stage.kept target = some script) :
    start.stage.kept target = some script ∨
      ∃ before event choice after p' q, path = before ++ (event, choice) :: after ∧
        Visit r out choose start before event choice p' q ∧
        event.followed? choice = some target ∧ ∃ content,
          q.session.files.read (q.stage.fileOf target).text = .ok content ∧
            Script.Holds content target script := by
  induction h with
  | start => exact Or.inl kept
  | @turn path p q u event choice next hbefore current present step ih =>
    obtain ⟨cache', hstage, -⟩ := exists_cache_of_present present
    change (Stage.advance choice).run ⟨q.session, q.stage⟩ = .ok next u at step
    rcases Stage.lookup_of_run step kept with hkept | ⟨htakes, _, hload⟩
    · have hkept' : p.stage.kept target = some script := by
        rw [hstage] at hkept
        exact hkept
      rcases ih hkept' with hstart | ⟨before, event', choice', after, p', q', rfl, hvisit⟩
      · exact Or.inl hstart
      · exact Or.inr ⟨before, event', choice', after ++ [(event, choice)], p', q', by simp, hvisit⟩
    · have hcurrent : q.stage.current = some event := by
        rw [hstage]
        exact current
      obtain ⟨content, hread, hholds, -⟩ := Session.exists_of_run_loadScript hload
      exact Or.inr ⟨path, event, choice, [], p, q, rfl, ⟨hbefore, current, present⟩,
        (Stage.takes_iff hcurrent).1 htakes, content, hread, hholds⟩

/-- A picture that the stage has for a background was there at the start, or has been loaded at an event
that has been visited. -/
theorem exists_pictured {background : String} {image : Surface}
    (h : Course r out choose start path p)
    (pictured : p.stage.backdrops.lookup background = some image) :
    start.stage.backdrops.lookup background = some image ∨
      ∃ before choice after p' q,
        path = before ++ (.directive (.background background), choice) :: after ∧
        Visit r out choose start before (.directive (.background background)) choice p' q ∧
        q.session.Gives background image := by
  induction h with
  | start => exact Or.inl pictured
  | @turn path p q u event choice next hbefore current present step ih =>
    obtain ⟨cache', hstage, -⟩ := exists_cache_of_present present
    have hcurrent : q.stage.current = some event := by
      rw [hstage]
      exact current
    rcases Stage.gives_of_advance step pictured with hpictured | ⟨hbackground, hgives⟩
    · rw [hstage] at hpictured
      rcases ih hpictured with hstart | ⟨before, choice', after, p', q', rfl, hvisit⟩
      · exact Or.inl hstart
      · exact Or.inr ⟨before, choice', after ++ [(event, choice)], p', q', by simp, hvisit⟩
    · cases hcurrent.symm.trans hbackground
      exact Or.inr ⟨path, choice, [], p, q, rfl, ⟨hbefore, current, present⟩, hgives⟩

end Course

end Play

end VisualNovel
