import VisualNovel.Proofs.Stage.Library

/-!
# The search for an event

A search makes steps that decline every choice until it finds an event. Unless one of them follows an
unconditional jump, all these steps go forward in one script, so that there are no more of them than
there are events from the cursor on. A search can go on for ever only if it follows such jumps again
and again.
-/
namespace VisualNovel

/-- Whether an event is a jump that is followed whatever the choice. -/
def Event.isGoto : Event → Bool
  | .directive (.jump _ none) => true
  | _ => false

namespace Stage

variable {s t : Stage} {p q r : Play} {session : Session} {choice : Bool} {e : Event}
  {event : Option Event} {events : List Event} {stop : Event → Bool} {budget n : Nat}
  {result : EStateM.Result Failure Play (Option Event)}

theorem run_advance_of_finished (h : p.stage.current = none) (choice : Bool) :
    (advance choice).run p = .ok none p := by
  simp only [advance, EStateM.run_bind, Play.run_stage?, h, EStateM.run_pure]

/-- A step that declines follows no jump but an unconditional one. -/
theorem Takes.isGoto {target : String} (h : s.Takes false target) (event : s.current = some e) :
    e.isGoto = true := by
  obtain ⟨choices, hjump, hfollowed⟩ := h
  cases event.symm.trans hjump
  rw [Bool.or_false, Option.isNone_iff_eq_none] at hfollowed
  rw [hfollowed]
  rfl

/-- A step that follows no jump goes to the next event of the script. -/
theorem cursor_of_declined (event : s.current = some e) (declined : ∀ target, ¬s.Takes choice target)
    {next : Option Event} (run : (advance choice).run ⟨session, s⟩ = .ok next q) :
    q.stage.cursor = { s.cursor with index := s.cursor.index + 1 } := by
  have hmoved := moved_of_run run
  generalize hstage : q.stage = t at hmoved ⊢
  cases hmoved with
  | finished hend => cases event.symm.trans hend
  | passed | shown | hidden | changed | written | ranked => rfl
  | @followed target choices cursor library resolved hjump =>
    obtain ⟨journal, hstepped⟩ :=
      run_advance_of_declined (p := ⟨session, s⟩) hjump (declined target)
    rw [hstepped] at run
    cases run
    rw [← hstage]
    rfl

/-- A step over anything but an unconditional jump goes to the next event of the script. -/
theorem cursor_of_run (event : s.current = some e) (stays : e.isGoto = false) {next : Option Event}
    (run : (advance false).run ⟨session, s⟩ = .ok next q) :
    q.stage.cursor = { s.cursor with index := s.cursor.index + 1 } := by
  apply cursor_of_declined event _ run
  intro target htakes
  rw [htakes.isGoto event] at stays
  cases stays

theorem Stopped.cursor_eq (h : Stopped s t) : t.cursor = s.cursor := by
  cases h <;> rfl

theorem index_lt_of_current (h : s.current = some e) :
    s.cursor.index < s.cursor.script.events.length :=
  (List.getElem?_eq_some_iff.1 h).1

theorem Moved.index_le (h : Moved s t) (hs : s.cursor.index ≤ s.cursor.script.events.length)
    (arrives : ∀ target choices, s.current = some (.directive (.jump target choices)) →
      t.cursor.index ≤ t.cursor.script.events.length) :
    t.cursor.index ≤ t.cursor.script.events.length := by
  cases h with
  | finished => exact hs
  | passed event | shown event | hidden event | changed event | written event | ranked event =>
    exact index_lt_of_current event
  | followed event => exact arrives _ _ event

/-- The cursor of a stage that steps lead to is never beyond the end of its script. -/
theorem Reachable.index_le (h : Reachable s) :
    s.cursor.index ≤ s.cursor.script.events.length := by
  induction h with
  | opening settings script => exact Nat.zero_le _
  | @moved s choice session event q _ run ih =>
    apply (moved_of_run run).index_le ih
    intro target choices hjump
    by_cases htakes : s.Takes choice target
    · rw [run_advance_of_takes (p := ⟨session, s⟩) htakes] at run
      split at run
      · cases run
        exact Nat.zero_le _
      · split at run
        · cases run
        · cases run
          exact Nat.zero_le _
    · obtain ⟨journal, hstepped⟩ := run_advance_of_declined (p := ⟨session, s⟩) hjump htakes
      rw [hstepped] at run
      cases run
      exact index_lt_of_current (s := s) hjump
  | stopped _ run ih =>
    rw [(stopped_of_run run).cursor_eq]
    exact ih
  | cached cache _ ih => exact ih

/-- Steps that decline every choice, none of which follows an unconditional jump, lead from the one
stage to the other; so many of them go on. Each may find any session, and may fail. -/
inductive Stretch (s : Stage) : Nat → Stage → Prop where
  | start : Stretch s 0 s
  | advanced {n : Nat} {t : Stage} {e : Event} {session : Session} {next : Option Event} {q : Play} :
      Stretch s n t → t.current = some e → e.isGoto = false →
        (advance false).run ⟨session, t⟩ = .ok next q → Stretch s (n + 1) q.stage
  | ended {n : Nat} {t : Stage} {session : Session} {next : Option Event} {q : Play} :
      Stretch s n t → t.current = none →
        (advance false).run ⟨session, t⟩ = .ok next q → Stretch s n q.stage
  | failed {n : Nat} {t : Stage} {session : Session} {f : Failure} {q : Play} :
      Stretch s n t → (advance false).run ⟨session, t⟩ = .error f q → Stretch s n q.stage

theorem Stretch.cursor_eq (h : Stretch s n t) :
    t.cursor = { s.cursor with index := s.cursor.index + n } := by
  induction h with
  | start => rfl
  | advanced _ event stays run ih =>
    rw [cursor_of_run event stays run, ih]
    rfl
  | ended _ event run ih =>
    rw [run_advance_of_finished (p := ⟨_, _⟩) event] at run
    cases run
    exact ih
  | failed _ run ih =>
    rw [(stopped_of_run run).cursor_eq]
    exact ih

/-- No more steps of a stretch go on than there are events from the cursor on. -/
theorem Stretch.index_add_le (h : Stretch s n t)
    (hs : s.cursor.index ≤ s.cursor.script.events.length) :
    s.cursor.index + n ≤ s.cursor.script.events.length := by
  induction h with
  | start => exact hs
  | @advanced n t e session next q hstretch event stays run ih =>
    have hlt := index_lt_of_current event
    rw [hstretch.cursor_eq] at hlt
    exact hlt
  | ended _ _ _ ih => exact ih
  | failed _ _ ih => exact ih

/-- The steps that decline every choice lead from the one play to the other over these events, none of
which is what is looked for. -/
inductive Skips (stop : Event → Bool) : List Event → Play → Play → Prop where
  | nil {p : Play} : Skips stop [] p p
  | cons {e : Event} {events : List Event} {next : Option Event} {p q r : Play} :
      p.stage.current = some e → stop e = false → (advance false).run p = .ok next q →
        Skips stop events q r → Skips stop (e :: events) p r

theorem Skips.forall_not_stop (h : Skips stop events p q) : ∀ e ∈ events, stop e = false := by
  induction h with
  | nil => simp
  | cons _ passed _ _ ih => exact List.forall_mem_cons.2 ⟨passed, ih⟩

theorem Skips.reachable (h : Skips stop events p q) (hp : Reachable p.stage) :
    Reachable q.stage := by
  induction h with
  | nil => exact hp
  | cons _ _ step _ ih => exact ih (.moved hp step)

theorem Stretch.trans {m : Nat} {u : Stage} (h : Stretch s n t) (h' : Stretch t m u) :
    Stretch s (n + m) u := by
  induction h' with
  | start => exact h
  | advanced _ event stays run ih => exact ih.advanced event stays run
  | ended _ event run ih => exact ih.ended event run
  | failed _ run ih => exact ih.failed run

/-- A search that meets no unconditional jump makes a stretch of steps, one for each event. -/
theorem Skips.stretch (h : Skips stop events p q) (stay : ∀ e ∈ events, e.isGoto = false) :
    Stretch p.stage events.length q.stage := by
  induction h with
  | nil => exact .start
  | @cons e events next p q r event _ step _ ih =>
    have hfirst : Stretch p.stage 1 q.stage :=
      Stretch.start.advanced event (stay e List.mem_cons_self) step
    have hrest := ih fun e he => stay e (List.mem_cons_of_mem _ he)
    rw [List.length_cons, Nat.add_comm]
    exact hfirst.trans hrest

/-- The events from the cursor to the end of its script. -/
def ahead (s : Stage) : List Event :=
  s.cursor.script.events.drop s.cursor.index

theorem ahead_of_current (h : s.current = some e) :
    s.ahead = e :: s.cursor.script.events.drop (s.cursor.index + 1) := by
  obtain ⟨hlt, rfl⟩ := List.getElem?_eq_some_iff.1 h
  exact List.drop_eq_getElem_cons hlt

theorem Skips.forall_not_isGoto (h : Skips stop events p q)
    (stay : ∀ e ∈ p.stage.ahead, e.isGoto = false) : ∀ e ∈ events, e.isGoto = false := by
  induction h with
  | nil => simp
  | @cons e events next p q r event _ step _ ih =>
    rw [ahead_of_current event, List.forall_mem_cons] at stay
    refine List.forall_mem_cons.2 ⟨stay.1, ih ?_⟩
    rw [ahead, cursor_of_run event stay.1 step]
    exact stay.2

/-- How a search ends that has stepped over events: at the end of a script, at the first event that is
what is looked for, or with a step that fails. -/
inductive Finds (stop : Event → Bool) (p : Play) (events : List Event) :
    EStateM.Result Failure Play (Option Event) → Prop where
  | ended {q : Play} (skips : Skips stop events p q) (event : q.stage.current = none) :
      Finds stop p events (.ok none q)
  | matched {q : Play} {e : Event} (skips : Skips stop events p q)
      (event : q.stage.current = some e) (stops : stop e = true) :
      Finds stop p events (.ok (some e) q)
  | failed {q r : Play} {e : Event} {f : Failure} (skips : Skips stop events p q)
      (event : q.stage.current = some e) (passed : stop e = false)
      (step : (advance false).run q = .error f r) : Finds stop p events (.error f r)

theorem Finds.cons {next : Option Event} (event : p.stage.current = some e)
    (passed : stop e = false) (step : (advance false).run p = .ok next q)
    (h : Finds stop q events result) : Finds stop p (e :: events) result := by
  cases h with
  | ended skips hend => exact .ended (.cons event passed step skips) hend
  | matched skips hevent hstops => exact .matched (.cons event passed step skips) hevent hstops
  | failed skips hevent hpassed hfails =>
    exact .failed (.cons event passed step skips) hevent hpassed hfails

theorem run_seek_succ (stop : Event → Bool) (budget : Nat) (p : Play) :
    (seek stop (budget + 1)).run p =
      match p.stage.current with
      | none => .ok none p
      | some e =>
        if stop e then .ok (some e) p
        else
          match (advance false).run p with
          | .ok _ q => (seek stop budget).run q
          | .error f q => .error f q := by
  rw [seek, EStateM.run_bind, Play.run_stage?]
  simp only
  cases p.stage.current with
  | none => rfl
  | some e =>
    cases hstop : stop e with
    | true => simp only [hstop, if_true, EStateM.run_pure]
    | false =>
      simp only [hstop, Bool.false_eq_true, if_false, EStateM.run_bind]
      cases (advance false).run p <;> rfl

/-- Behind the events that it has stepped over a search goes on with the rest of its budget. -/
theorem Skips.run_seek (h : Skips stop events p q) (within : events.length ≤ budget) :
    (seek stop budget).run p = (seek stop (budget - events.length)).run q := by
  induction h generalizing budget with
  | nil => rfl
  | @cons e events next p q r event passed step _ ih =>
    rw [List.length_cons] at within ⊢
    obtain ⟨rest, rfl⟩ := Nat.exists_eq_add_of_le' (Nat.le_of_add_left_le within)
    rw [run_seek_succ]
    simp only [event, passed, step, Bool.false_eq_true, if_false]
    rw [ih (Nat.le_of_add_le_add_right within), Nat.add_sub_add_right]

/-- A search that finds an end within its budget ends so. -/
theorem Finds.run_seek (h : Finds stop p events result) (within : events.length < budget) :
    (seek stop budget).run p = result := by
  obtain ⟨rest, hrest⟩ : ∃ rest, budget - events.length = rest + 1 :=
    Nat.exists_eq_succ_of_ne_zero (Nat.sub_ne_zero_of_lt within)
  cases h with
  | ended skips event =>
    rw [skips.run_seek within.le, hrest, run_seek_succ]
    simp only [event]
  | matched skips event stops =>
    rw [skips.run_seek within.le, hrest, run_seek_succ]
    simp only [event, stops, if_true]
  | failed skips event passed step =>
    rw [skips.run_seek within.le, hrest, run_seek_succ]
    simp only [event, passed, step, Bool.false_eq_true, if_false]

/-- A search ends in one of the three ways, unless the budget is used up for the events that it has
stepped over. -/
theorem finds_or_exhausted (stop : Event → Bool) (budget : Nat) (p : Play) :
    (∃ events, events.length < budget ∧ Finds stop p events ((seek stop budget).run p)) ∨
      ∃ events q, events.length = budget ∧ Skips stop events p q ∧
        (seek stop budget).run p = .error .budget q := by
  induction budget generalizing p with
  | zero => exact Or.inr ⟨[], p, rfl, .nil, rfl⟩
  | succ budget ih =>
    rw [run_seek_succ]
    cases hcurrent : p.stage.current with
    | none => exact Or.inl ⟨[], Nat.succ_pos _, .ended .nil hcurrent⟩
    | some e =>
      cases hstop : stop e with
      | true =>
        simp only [hstop, if_true]
        exact Or.inl ⟨[], Nat.succ_pos _, .matched .nil hcurrent hstop⟩
      | false =>
        simp only [hstop, Bool.false_eq_true, if_false]
        cases hstep : (advance false).run p with
        | error f q => exact Or.inl ⟨[], Nat.succ_pos _, .failed .nil hcurrent hstop hstep⟩
        | ok next q =>
          rcases ih q with ⟨events, hlength, hfinds⟩ | ⟨events, r, hlength, hskips, hrun⟩
          · exact Or.inl ⟨e :: events, Nat.succ_lt_succ hlength, hfinds.cons hcurrent hstop hstep⟩
          · exact Or.inr ⟨e :: events, r, congrArg Nat.succ hlength,
              .cons hcurrent hstop hstep hskips, hrun⟩

/-- A search that succeeds has stepped over events, and has found what it gives. -/
theorem skips_of_run_seek (run : (seek stop budget).run p = .ok event q) :
    ∃ events, Skips stop events p q ∧ q.stage.current = event ∧ ∀ e ∈ event, stop e = true := by
  rcases finds_or_exhausted stop budget p with ⟨events, -, hfinds⟩ | ⟨_, _, -, -, hexhausted⟩
  · rw [run] at hfinds
    cases hfinds with
    | ended skips hend => exact ⟨events, skips, hend, by simp⟩
    | matched skips hevent stops => exact ⟨events, skips, hevent, by simpa using stops⟩
  · cases run.symm.trans hexhausted

/-- More events than there are to the end of the script are stepped over only behind an unconditional
jump. -/
theorem Skips.exists_isGoto (h : Skips stop events p q) (hp : Reachable p.stage)
    (long : p.stage.ahead.length < events.length) : ∃ e ∈ events, e.isGoto = true := by
  by_contra hnone
  have hstay : ∀ e ∈ events, e.isGoto = false := fun e he =>
    Bool.eq_false_iff.2 fun hgoto => hnone ⟨e, he, hgoto⟩
  have hbound := (h.stretch hstay).index_add_le hp.index_le
  rw [ahead, List.length_drop] at long
  omega

/-- Where no unconditional jump is ahead, a search ends before it has stepped over more events than
there are. -/
theorem exists_finds (hp : Reachable p.stage) (stay : ∀ e ∈ p.stage.ahead, e.isGoto = false)
    (stop : Event → Bool) :
    ∃ events result, events.length ≤ p.stage.ahead.length ∧ Finds stop p events result := by
  rcases finds_or_exhausted stop (p.stage.ahead.length + 1) p with
    ⟨events, hlength, hfinds⟩ | ⟨events, q, hlength, hskips, -⟩
  · exact ⟨events, _, Nat.le_of_lt_succ hlength, hfinds⟩
  · obtain ⟨e, he, hgoto⟩ := hskips.exists_isGoto hp (by omega)
    rw [hskips.forall_not_isGoto stay e he] at hgoto
    cases hgoto

theorem current_eq_none_iff (hs : s.cursor.index ≤ s.cursor.script.events.length) :
    s.current = none ↔ s.cursor.index = s.cursor.script.events.length := by
  rw [current, List.getElem?_eq_none_iff]
  omega

/-- A search stops at the first event that it looks for, and nothing but unconditional jumps can keep
it going for ever. Steps that decline every choice and follow no unconditional jump go from event to
event of one script, one at a time and never beyond its end, and go on behind every two-way jump. Where
no unconditional jump is ahead, a search therefore ends, the same way for every budget that is large
enough. If it comes to an event, this is the current one and what was looked for, and if it comes to
none, the script is at its end; it has then made the steps over exactly the events before, none of
which was looked for. If it fails, this is the step at the current event that has failed, behind the
steps over all events before it; or else the budget is used up. -/
theorem search_ends_or_jumps (hp : Reachable p.stage) (stop : Event → Bool) :
    (∀ n t, Stretch p.stage n t →
      p.stage.cursor.index + n ≤ p.stage.cursor.script.events.length ∧
      t.cursor = { p.stage.cursor with index := p.stage.cursor.index + n } ∧
      t.cursor.index ≤ t.cursor.script.events.length ∧
      ∀ target choices session, t.current = some (.directive (.jump target (some choices))) →
        ∃ journal, (advance false).run ⟨session, t⟩ =
          .ok t.stepped.current ⟨{ session with journal }, t.stepped⟩) ∧
    ((∀ e ∈ p.stage.ahead, e.isGoto = false) →
      ∃ events result, events.length ≤ p.stage.ahead.length ∧ Finds stop p events result ∧
        ∀ budget, events.length < budget → (seek stop budget).run p = result) ∧
    (∀ budget event q, (seek stop budget).run p = .ok event q →
      event = q.stage.current ∧
      (event = none ↔ q.stage.cursor.index = q.stage.cursor.script.events.length) ∧
      (∀ e, event = some e → stop e = true) ∧
      ∃ events, (∀ e ∈ events, stop e = false) ∧ Skips stop events p q) ∧
    ∀ budget f r, (seek stop budget).run p = .error f r →
      (∃ events q e, Skips stop events p q ∧ q.stage.current = some e ∧ stop e = false ∧
        (advance false).run q = .error f r ∧ r.stage.cursor = q.stage.cursor ∧
          r.stage.current = some e) ∨
      f = .budget ∧ ∃ events, events.length = budget ∧ Skips stop events p r ∧
        (p.stage.ahead.length < budget → ∃ e ∈ events, e.isGoto = true) := by
  refine ⟨?stretch, ?ends, ?succeeds, ?fails⟩
  case stretch =>
    intro n t hstretch
    have hbound := hstretch.index_add_le hp.index_le
    refine ⟨hbound, hstretch.cursor_eq, ?_, ?_⟩
    · rw [hstretch.cursor_eq]
      exact hbound
    · intro target choices session hjump
      apply run_advance_of_declined (p := ⟨session, t⟩) hjump
      intro htakes
      cases htakes.isGoto hjump
  case ends =>
    intro hstay
    obtain ⟨events, result, hlength, hfinds⟩ := exists_finds hp hstay stop
    exact ⟨events, result, hlength, hfinds, fun budget within => hfinds.run_seek within⟩
  case succeeds =>
    intro budget event q hrun
    obtain ⟨events, hskips, hevent, hstops⟩ := skips_of_run_seek hrun
    refine ⟨hevent.symm, ?_, hstops, events, hskips.forall_not_stop, hskips⟩
    rw [← hevent]
    exact current_eq_none_iff (hskips.reachable hp).index_le
  case fails =>
    intro budget f r hrun
    rcases finds_or_exhausted stop budget p with
      ⟨events, -, hfinds⟩ | ⟨events, q, hlength, hskips, hexhausted⟩
    · rw [hrun] at hfinds
      cases hfinds with
      | @failed q _ e _ skips hevent hpassed hstep =>
        have hcursor := (stopped_of_run hstep).cursor_eq
        refine Or.inl ⟨events, q, e, skips, hevent, hpassed, hstep, hcursor, ?_⟩
        rw [current, hcursor]
        exact hevent
    · cases hrun.symm.trans hexhausted
      refine Or.inr ⟨rfl, events, hlength, hskips, fun hlong => ?_⟩
      apply hskips.exists_isGoto hp
      rw [hlength]
      exact hlong

/-- A search goes on behind a two-way jump whose target is missing and over a priority. -/
theorem search_ends_or_jumps_dialogue :
    ∃ p q : Play, Reachable p.stage ∧ p.stage.cursor.script.events =
        [.directive (.jump "gone.txt" (some ⟨"go", "stay"⟩)),
          .directive (.attribute "sprite.a" "priority" "1"), .dialogue "A" ["hi"]] ∧
      (∃ events, (∀ e ∈ events, e ≠ .dialogue "A" ["hi"]) ∧
        Skips (· = .dialogue "A" ["hi"]) events p q) ∧
      q.stage.attributes.priorityOf "a" = .ok 1 ∧
      ∀ budget, 3 < budget →
        (seek (· = .dialogue "A" ["hi"]) budget).run p = .ok (some (.dialogue "A" ["hi"])) q := by
  obtain ⟨p, q, hp, hevents, hstay, hlength, hrun, hpriority⟩ :
      ∃ p q : Play, Reachable p.stage ∧ p.stage.cursor.script.events =
        [.directive (.jump "gone.txt" (some ⟨"go", "stay"⟩)),
          .directive (.attribute "sprite.a" "priority" "1"), .dialogue "A" ["hi"]] ∧
      (∀ e ∈ p.stage.ahead, e.isGoto = false) ∧ p.stage.ahead.length = 3 ∧
      (seek (· = .dialogue "A" ["hi"]) 4).run p = .ok (some (.dialogue "A" ["hi"])) q ∧
      q.stage.attributes.priorityOf "a" = .ok 1 :=
    ⟨⟨{}, opening {} ⟨"s.txt", _⟩⟩, _, .opening _ _, rfl, by decide, rfl, rfl, rfl⟩
  obtain ⟨-, hends, hsucceeds, -⟩ := search_ends_or_jumps hp (· = .dialogue "A" ["hi"])
  obtain ⟨events, result, hle, -, hresult⟩ := hends hstay
  obtain ⟨-, -, -, passed, hpassed, hskips⟩ := hsucceeds 4 _ q hrun
  refine ⟨p, q, hp, hevents, ⟨passed, fun e he => of_decide_eq_false (hpassed e he), hskips⟩,
    hpriority, fun budget within => ?_⟩
  rw [hresult budget (by omega), ← hresult 4 (by omega), hrun]

end Stage

end VisualNovel
