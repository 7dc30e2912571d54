import VisualNovel.Proofs.Player.Route
import VisualNovel.Proofs.Session.Reply
import VisualNovel.Proofs.Stage.Quiet

/-!
# What a play says

On its route a play writes one line in the journal for each custom directive and puts one prompt for
each jump with choices, both in their order. Where the choices are made beforehand it reads nothing and
shows nothing.
-/
namespace VisualNovel

open Journal (recordText tellsPassage_of_level)
open Session (Quiet)

def Event.passage? : Event → Option String
  | .directive (.custom name arguments) =>
    some (recordText "vn_play" .info (Journal.passage name arguments))
  | _ => none

def Event.choices? : Event → Option Choices
  | .directive (.jump _ choices) => choices
  | _ => none

theorem Event.choices?_of_not_isRenderable {event : Event} (h : event.isRenderable = false) :
    event.choices? = none := by
  cases event with
  | dialogue speaker lines => rfl
  | directive d =>
    cases d with
    | jump target choices => simpa [isRenderable, choices?] using h
    | «show» | hide | background | «attribute» | custom => rfl

namespace Prompt

variable {choose : Option Bool} {before after : Console} {prompts : List (Choices × Bool)}

theorem answered_nil (choose : Option Bool) (console : Console) : Answered choose console [] console := by
  cases choose with
  | none => exact .start
  | some first => exact ⟨rfl, by simp⟩

end Prompt

namespace Play

variable {r : Renderer} {out : Path} {choose : Option Bool} {drawn : Nat} {start p q : Play}
  {event : Event} {choice : Bool} {path : List (Event × Bool)} {before s t : Session}

/-- The lines about the directives on a route that are passed over. -/
def passed (path : List (Event × Bool)) : List String :=
  path.filterMap fun visit => visit.1.passage?

/-- The prompts on a route: the choices that are offered and the ones that are made. -/
def prompts (path : List (Event × Bool)) : List (Choices × Bool) :=
  path.filterMap fun visit => visit.1.choices?.map fun choices => (choices, visit.2)

/-- What has been said on a route, from a session to another one. -/
structure Told (choose : Option Bool) (before : Session) (path : List (Event × Bool))
    (after : Session) : Prop where
  thresholds : after.journal.thresholds = before.journal.thresholds
  passages : after.journal.passages = before.journal.passages ++
    if before.journal.thresholds.enabled "vn_play" .info then passed path else []
  answered : Prompt.Answered choose before.console (prompts path) after.console

theorem told_nil (choose : Option Bool) (s : Session) : Told choose s [] s where
  thresholds := rfl
  passages := by simp [passed]
  answered := Prompt.answered_nil choose s.console

theorem Told.quiet (h : Told choose before path s) (quiet : Quiet s t) :
    Told choose before path t where
  thresholds := quiet.thresholds.trans h.thresholds
  passages := quiet.passages.trans h.passages
  answered := by
    rw [quiet.console]
    exact h.answered

theorem Told.note {level : Journal.Level} {message : String} (h : Told choose before path s)
    (other : Journal.tellsPassage (recordText "vn_play" level message) = false) :
    Told choose before path { s with journal := s.journal.record "vn_play" level message } :=
  h.quiet (Session.quiet_note other s)

theorem Told.silent (h : Told choose before path s) (passage : event.passage? = none)
    (choices : event.choices? = none) (choice : Bool) :
    Told choose before (path ++ [(event, choice)]) s where
  thresholds := h.thresholds
  passages := by
    rw [h.passages]
    simp [passed, passage]
  answered := by
    have hprompts : prompts (path ++ [(event, choice)]) = prompts path := by
      simp [prompts, choices]
    rw [hprompts]
    exact h.answered

theorem Told.noteIgnored (h : Told choose before path s) (name : String) (arguments : List String)
    (run : (noteIgnored name arguments).run s = .ok () t) :
    Told choose before (path ++ [(.directive (.custom name arguments), false)]) t := by
  cases run
  refine ⟨?_, ?_, ?_⟩
  · rw [Journal.thresholds_record]
    exact h.thresholds
  · have hpassage := s.journal.passages_record_passage name arguments
    rw [h.thresholds, h.passages] at hpassage
    refine hpassage.trans ?_
    cases before.journal.thresholds.enabled "vn_play" .info with
    | true => simp [passed, Event.passage?]
    | false => simp
  · have hprompts : prompts (path ++ [(.directive (.custom name arguments), false)]) =
        prompts path := by
      simp [prompts, Event.choices?]
    rw [hprompts]
    exact h.answered

theorem prompts_concat_jump (path : List (Event × Bool)) (target : String) (choices : Choices)
    (choice : Bool) :
    prompts (path ++ [(.directive (.jump target (some choices)), choice)]) =
      prompts path ++ [(choices, choice)] := by
  simp [prompts, Event.choices?]

theorem passed_concat_jump (path : List (Event × Bool)) (target : String)
    (choices : Option Choices) (choice : Bool) :
    passed (path ++ [(.directive (.jump target choices), choice)]) = passed path := by
  simp [passed, Event.passage?]

theorem Told.choiceAt {target : String} {choices : Choices} (h : Told choose before path p.session)
    (run : (Play.choiceAt choose (.directive (.jump target (some choices)))).run p = .ok choice q) :
    Told choose before (path ++ [(.directive (.jump target (some choices)), choice)]) q.session := by
  cases choose with
  | some first =>
    cases run
    refine ⟨h.thresholds, ?_, ?_⟩
    · rw [passed_concat_jump]
      exact h.passages
    · rw [prompts_concat_jump]
      refine ⟨h.answered.1, fun prompt hprompt => ?_⟩
      rcases List.mem_append.1 hprompt with hearlier | hlast
      · exact h.answered.2 prompt hearlier
      · rw [List.mem_singleton.1 hlast]
  | none =>
    obtain ⟨_, p', hnote, hask⟩ := exists_of_run_bind run
    cases hnote
    obtain ⟨session, hasked, rfl⟩ := exists_of_run_lift hask
    obtain ⟨rfl, hsession, hthresholds, hpassages⟩ := Prompt.of_run_ask hasked
    have hother : Journal.tellsPassage (recordText "vn_play" .info
        "A conditional jump was found, choose 1 or 2.") = false :=
      Journal.tellsPassage_of_message (by decide)
    have hnoted := h.note hother
    refine ⟨hthresholds.trans hnoted.thresholds, ?_, ?_⟩
    · rw [passed_concat_jump]
      exact hpassages.trans hnoted.passages
    · rw [prompts_concat_jump, hsession]
      exact hnoted.answered.next choices

theorem Told.present (draws : ∀ f, Session.IsQuiet (r.draw f)) (h : Told choose before path p.session)
    (run : (present r out choose drawn event).run p = .ok choice q) :
    Told choose before (path ++ [(event, choice)]) q.session := by
  cases hrenderable : event.isRenderable with
  | true =>
    rw [present_of_isRenderable hrenderable] at run
    obtain ⟨hit, p', hrender, hchoice⟩ := exists_of_run_bind run
    have hrendered := h.quiet ((Stage.quiet_renderCached draws _).of_ok hrender)
    cases event with
    | dialogue speaker lines =>
      obtain ⟨_, p'', hnote, hfalse⟩ := exists_of_run_bind hchoice
      cases hnote
      cases hfalse
      exact (hrendered.note (tellsPassage_of_level (by decide))).silent rfl rfl false
    | directive d =>
      cases d with
      | jump target choices =>
        cases choices with
        | some choices => exact hrendered.choiceAt hchoice
        | none => cases hrenderable
      | «show» | hide | background | «attribute» | custom => cases hrenderable
  | false =>
    have hchoices := Event.choices?_of_not_isRenderable hrenderable
    cases event with
    | dialogue speaker lines => cases hrenderable
    | directive d =>
      cases d with
      | custom name arguments =>
        obtain ⟨_, p', hnote, hfalse⟩ := exists_of_run_bind run
        obtain ⟨session, hnoted, rfl⟩ := exists_of_run_lift hnote
        cases hfalse
        exact h.noteIgnored name arguments hnoted
      | jump | «show» | hide | background | «attribute» =>
        simp only [Play.present, hrenderable, Bool.false_eq_true, if_false] at run
        cases run
        exact h.silent rfl hchoices false

/-- On its course a play says what its route asks for, and nothing else of that kind. -/
theorem Course.told (draws : ∀ f, Session.IsQuiet (r.draw f))
    (h : Course r out choose start path p) : Told choose start.session path p.session := by
  induction h with
  | start => exact told_nil choose start.session
  | turn _ _ present step ih =>
    exact (ih.present draws present).quiet ((Stage.quiet_advance _).of_ok step)

end Play

end VisualNovel
