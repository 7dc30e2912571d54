import VisualNovel.Player.Prompt
import VisualNovel.Proofs.Session.Quiet

/-!
# What a prompt reads and shows

A prompt reads the lines up to the first one that decides, and no further. It shows its box once, and
once more for each line that it rejects.
-/
namespace VisualNovel

open Session (Quiet)

namespace Prompt

variable {c : Choices} {s t : Session} {first : Bool}

def behind (c : Choices) (console : Console) : Console where
  input := (settle (lines console.input)).unread.flatten
  output := console.output ++
    String.join (List.replicate ((settle (lines console.input)).rejected + 1) (box c))

/-- Prompts put one after the other, from a console on: the choices that they offer and the answers that
they get. -/
inductive Asked (before : Console) : List (Choices × Bool) → Console → Prop where
  | start : Asked before [] before
  | next {prompts : List (Choices × Bool)} {console : Console} (c : Choices) :
      Asked before prompts console →
        Asked before (prompts ++ [(c, (settle (lines console.input)).first)]) (behind c console)

/-- How choices are made: by prompts, or all in the way that was chosen beforehand, while nothing is read
or shown. -/
def Answered (choose : Option Bool) (before : Console) (prompts : List (Choices × Bool))
    (after : Console) : Prop :=
  match choose with
  | none => Asked before prompts after
  | some first => after = before ∧ ∀ prompt ∈ prompts, prompt.2 = first

/-- A journal with one more error for each of a number of rejections, if errors are written at all. -/
def rejections (n : Nat) (j : Journal) : Journal :=
  { j with
    written := j.written ++ List.replicate (if j.thresholds.enabled "vn_play" .error then n else 0)
      (Journal.recordText "vn_play" .error rejection) }

theorem rejections_record (n : Nat) (j : Journal) :
    rejections n (j.record "vn_play" .error rejection) = rejections (n + 1) j := by
  cases henabled : j.thresholds.enabled "vn_play" .error <;>
    simp [rejections, Journal.record, Journal.write, henabled, List.replicate_succ]

theorem passages_rejections (n : Nat) (j : Journal) : (rejections n j).passages = j.passages := by
  have hrejected : Journal.tellsPassage (Journal.recordText "vn_play" .error rejection) = false :=
    Journal.tellsPassage_of_level (by decide)
  rw [Journal.passages, rejections, List.filter_append, List.filter_replicate, hrejected]
  simp [Journal.passages]

theorem run_rejections (c : Choices) (indices : List Nat) (s : Session) :
    (ForIn.forIn indices PUnit.unit fun _ _ => do
      Session.note "vn_play" .error rejection
      Session.print (box c)
      pure (ForInStep.yield PUnit.unit) : Action PUnit).run s =
        .ok PUnit.unit { s with
          journal := rejections indices.length s.journal
          console := { s.console with
            output := s.console.output ++ String.join (List.replicate indices.length (box c)) } } := by
  induction indices generalizing s with
  | nil => simp [rejections]
  | cons i rest ih =>
    simp only [List.forIn_cons, bind_assoc, pure_bind, EStateM.run_bind, Session.run_note,
      Session.run_print, ih, rejections_record]
    simp [List.replicate_succ, String.append_assoc]

theorem run_ask_of_narrow (narrow : boxWidth c < 5) (s : Session) :
    (ask c).run s = .error .narrowPrompt s := by
  simp only [ask, narrow, if_true, EStateM.run_bind, Session.run_throw]

/-- A prompt whose box has room goes on to behind the line that decides. -/
theorem run_ask_of_wide (wide : ¬boxWidth c < 5) (s : Session) :
    (ask c).run s = .ok (settle (lines s.console.input)).first { s with
      journal := rejections (settle (lines s.console.input)).rejected s.journal
      console := behind c s.console } := by
  rw [ask]
  simp only [wide, if_false]
  rw [EStateM.run_bind, EStateM.run_get]
  simp only [EStateM.run_bind, Session.run_print, run_rejections, EStateM.run_modify,
    EStateM.run_pure, List.length_range]
  simp [behind, List.replicate_succ, String.append_assoc]

/-- A prompt that gets its answer has gone on to behind the line that decides. -/
theorem of_run_ask (h : (ask c).run s = .ok first t) :
    first = (settle (lines s.console.input)).first ∧
      t = { s with journal := t.journal, console := behind c s.console } ∧
      t.journal.thresholds = s.journal.thresholds ∧
      t.journal.passages = s.journal.passages := by
  by_cases hnarrow : boxWidth c < 5
  · rw [run_ask_of_narrow hnarrow] at h
    cases h
  · rw [run_ask_of_wide hnarrow] at h
    cases h
    exact ⟨rfl, rfl, rfl, passages_rejections _ _⟩

end Prompt

end VisualNovel
