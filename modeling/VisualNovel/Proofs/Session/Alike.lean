import VisualNovel.Proofs.Session.Action

/-!
# Operations that end alike

Two operations end alike if both succeed or both fail for the same reason, in results that correspond.
Operations that follow each other end alike if their parts do.
-/
namespace VisualNovel

variable {σ τ α β α' β' : Type} {failed failed' : σ → τ → Prop} {done : α → β → σ → τ → Prop}
  {done' : α' → β' → σ → τ → Prop}

/-- Both operations fail for the same reason in states related by `failed`, or both succeed with
values and states related by `done`. -/
def Alike (failed : σ → τ → Prop) (done : α → β → σ → τ → Prop) :
    EStateM.Result Failure σ α → EStateM.Result Failure τ β → Prop
  | .ok x p, .ok y q => done x y p q
  | .error e p, .error f q => e = f ∧ failed p q
  | _, _ => False

namespace Alike

variable {a : EStateM Failure σ α} {b : EStateM Failure τ β} {f : α → EStateM Failure σ α'}
  {g : β → EStateM Failure τ β'} {p p' : σ} {q q' : τ}

/-- Both operations have succeeded, or both have failed for the same reason. -/
theorem cases {r : EStateM.Result Failure σ α} {s : EStateM.Result Failure τ β}
    (h : Alike failed done r s) :
    (∃ x p y q, r = .ok x p ∧ s = .ok y q ∧ done x y p q) ∨
      ∃ e p q, r = .error e p ∧ s = .error e q ∧ failed p q := by
  cases r with
  | ok x p =>
    cases s with
    | ok y q => exact Or.inl ⟨x, p, y, q, rfl, rfl, h⟩
    | error f q => exact h.elim
  | error e p =>
    cases s with
    | ok y q => exact h.elim
    | error f q =>
      obtain ⟨rfl, hfailed⟩ := h
      exact Or.inr ⟨e, p, q, rfl, rfl, hfailed⟩

theorem bind_of_run (h : Alike failed done (a.run p) (b.run q))
    (hf : ∀ x y p' q', a.run p = .ok x p' → b.run q = .ok y q' → done x y p' q' →
      Alike failed done' ((f x).run p') ((g y).run q')) :
    Alike failed done' ((a >>= f).run p) ((b >>= g).run q) := by
  rw [EStateM.run_bind, EStateM.run_bind]
  obtain ⟨x, p', y, q', ha, hb, hdone⟩ | ⟨e, p', q', ha, hb, hfailed⟩ := h.cases
  · rw [ha, hb]
    exact hf x y p' q' ha hb hdone
  · rw [ha, hb]
    exact ⟨rfl, hfailed⟩

theorem bind (h : Alike failed done (a.run p) (b.run q))
    (hf : ∀ x y p' q', done x y p' q' → Alike failed done' ((f x).run p') ((g y).run q')) :
    Alike failed done' ((a >>= f).run p) ((b >>= g).run q) :=
  h.bind_of_run fun x y p' q' _ _ hdone => hf x y p' q' hdone

theorem imp {r : EStateM.Result Failure σ α} {s : EStateM.Result Failure τ β}
    {done' : α → β → σ → τ → Prop} (h : Alike failed done r s)
    (hfailed : ∀ p q, failed p q → failed' p q) (hdone : ∀ x y p q, done x y p q → done' x y p q) :
    Alike failed' done' r s := by
  obtain ⟨x, p, y, q, rfl, rfl, hok⟩ | ⟨e, p, q, rfl, rfl, herror⟩ := h.cases
  · exact hdone x y p q hok
  · exact ⟨rfl, hfailed p q herror⟩

/-- If the first operation succeeds, so does the second. -/
theorem exists_of_ok {x : α} (h : Alike failed done (a.run p) (b.run q))
    (ha : a.run p = .ok x p') : ∃ y q', b.run q = .ok y q' ∧ done x y p' q' := by
  obtain ⟨x', p'', y, q', hp, hq, hdone⟩ | ⟨e, p'', q', hp, -⟩ := h.cases
  · rw [ha] at hp
    cases hp
    exact ⟨y, q', hq, hdone⟩
  · rw [ha] at hp
    cases hp

/-- If the second operation succeeds, so does the first. -/
theorem exists_of_ok_right {y : β} (h : Alike failed done (a.run p) (b.run q))
    (hb : b.run q = .ok y q') : ∃ x p', a.run p = .ok x p' ∧ done x y p' q' := by
  obtain ⟨x, p', y', q'', hp, hq, hdone⟩ | ⟨e, p', q'', -, hq, -⟩ := h.cases
  · rw [hb] at hq
    cases hq
    exact ⟨x, p', hp, hdone⟩
  · rw [hb] at hq
    cases hq

end Alike

end VisualNovel
