import VisualNovel.Player.Prompt
import VisualNovel.Proofs.Session.Alike

/-!
# Asking side by side

Asking for a choice reads and writes nothing but the console. Sessions that correspond in a way that
does not see the journal are asked alike as long as they share the console.
-/
namespace VisualNovel

/-- A correspondence of sessions that share the console and differ in the journal as they like. -/
structure Converses (S : Session → Session → Prop) : Prop where
  journal : ∀ {p q} journal journal', S p q → S { p with journal } { q with journal := journal' }
  console : ∀ {p q} console, S p q → S { p with console } { q with console }
  same : ∀ {p q}, S p q → p.console = q.console

namespace Converses

variable {S : Session → Session → Prop} {p q : Session} {α : Type}

/-- How two operations end that give one value and leave sessions that correspond. -/
abbrev Both (S : Session → Session → Prop) :
    EStateM.Result Failure Session α → EStateM.Result Failure Session α → Prop :=
  Alike S fun x y p q => x = y ∧ S p q

variable (h : Converses S)

include h

theorem note (hpq : S p q) (module : String) (level : Journal.Level) (message : String) :
    Both S ((Session.note module level message).run p) ((Session.note module level message).run q) :=
  ⟨rfl, h.journal _ _ hpq⟩

theorem print (hpq : S p q) (text : String) :
    Both S ((Session.print text).run p) ((Session.print text).run q) := by
  have hprinted := h.console { p.console with output := p.console.output ++ text } hpq
  refine ⟨rfl, ?_⟩
  change S _ { q with console := { q.console with output := q.console.output ++ text } }
  rw [← h.same hpq]
  exact hprinted

omit h in
/-- Every round of a loop ends alike, and so does the loop. -/
theorem forIn {ι : Type} {round : ι → Action Unit} (indices : List ι)
    (hround : ∀ i p q, S p q → Both S ((round i).run p) ((round i).run q)) (hpq : S p q) :
    Both S
      ((ForIn.forIn indices PUnit.unit fun i _ => do
        round i
        Pure.pure (ForInStep.yield PUnit.unit) : Action PUnit).run p)
      ((ForIn.forIn indices PUnit.unit fun i _ => do
        round i
        Pure.pure (ForInStep.yield PUnit.unit) : Action PUnit).run q) := by
  induction indices generalizing p q with
  | nil => exact ⟨rfl, hpq⟩
  | cons i rest ih =>
    simp only [List.forIn_cons, bind_assoc, pure_bind]
    apply (hround i p q hpq).bind
    rintro _ _ p q ⟨-, hpq⟩
    exact ih hpq

theorem ask (hpq : S p q) (c : Choices) :
    Both S ((Prompt.ask c).run p) ((Prompt.ask c).run q) := by
  rw [Prompt.ask]
  by_cases hnarrow : Prompt.boxWidth c < 5
  · simp only [hnarrow, if_true, EStateM.run_bind, Session.run_throw]
    exact ⟨rfl, hpq⟩
  simp only [hnarrow, if_false]
  rw [EStateM.run_bind, EStateM.run_bind, EStateM.run_get, EStateM.run_get]
  simp only [h.same hpq]
  generalize Prompt.settle (Prompt.lines q.console.input) = answer
  apply (h.print hpq _).bind
  rintro _ _ p q ⟨-, hpq⟩
  have hreject : ∀ (_ : Nat) p q, S p q →
      Both S
        ((do Session.note "vn_play" .error Prompt.rejection; Session.print (Prompt.box c)).run p)
        ((do Session.note "vn_play" .error Prompt.rejection; Session.print (Prompt.box c)).run q) := by
    intro _ p q hpq
    apply (h.note hpq _ _ _).bind
    rintro _ _ p q ⟨-, hpq⟩
    exact h.print hpq _
  have hloop := forIn (List.range answer.rejected) hreject hpq
  simp only [bind_assoc] at hloop
  apply hloop.bind
  rintro _ _ p q ⟨-, hpq⟩
  have hread := h.console { p.console with input := answer.unread.flatten } hpq
  refine ⟨rfl, ?_⟩
  change S _ { q with console := { q.console with input := answer.unread.flatten } }
  rw [← h.same hpq]
  exact hread

end Converses

end VisualNovel
