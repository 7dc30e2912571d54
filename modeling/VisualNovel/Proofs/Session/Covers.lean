import VisualNovel.Proofs.Session.Alike

/-!
# Operations that succeed where others do

An operation covers another one if it succeeds whenever the other does, with a result that corresponds.
Nothing is said where the other operation fails. Operations that follow each other cover what their
parts cover.
-/
namespace VisualNovel

variable {σ τ α β α' β' : Type} {done : α → β → σ → τ → Prop} {done' : α' → β' → σ → τ → Prop}

/-- Where the first operation succeeds, the second one does, with values and states related by
`done`. -/
def Covers (done : α → β → σ → τ → Prop) (r : EStateM.Result Failure σ α)
    (s : EStateM.Result Failure τ β) : Prop :=
  ∀ x p, r = .ok x p → ∃ y q, s = .ok y q ∧ done x y p q

theorem Alike.covers {failed : σ → τ → Prop} {r : EStateM.Result Failure σ α}
    {s : EStateM.Result Failure τ β} (h : Alike failed done r s) : Covers done r s := by
  intro x p hr
  obtain ⟨x', p', y, q, hr', hs, hdone⟩ | ⟨e, p', q, hr', -⟩ := h.cases
  · rw [hr'] at hr
    cases hr
    exact ⟨y, q, hs, hdone⟩
  · rw [hr'] at hr
    cases hr

namespace Covers

variable {a : EStateM Failure σ α} {b : EStateM Failure τ β} {f : α → EStateM Failure σ α'}
  {g : β → EStateM Failure τ β'} {p : σ} {q : τ}

theorem bind_of_run (h : Covers done (a.run p) (b.run q))
    (hf : ∀ x y p' q', a.run p = .ok x p' → b.run q = .ok y q' → done x y p' q' →
      Covers done' ((f x).run p') ((g y).run q')) :
    Covers done' ((a >>= f).run p) ((b >>= g).run q) := by
  intro z p'' hz
  obtain ⟨x, p', ha, hfx⟩ := exists_of_run_bind hz
  obtain ⟨y, q', hb, hdone⟩ := h x p' ha
  obtain ⟨w, q'', hgy, hdone'⟩ := hf x y p' q' ha hb hdone z p'' hfx
  refine ⟨w, q'', ?_, hdone'⟩
  rw [EStateM.run_bind, hb]
  exact hgy

theorem bind (h : Covers done (a.run p) (b.run q))
    (hf : ∀ x y p' q', done x y p' q' → Covers done' ((f x).run p') ((g y).run q')) :
    Covers done' ((a >>= f).run p) ((b >>= g).run q) :=
  h.bind_of_run fun x y p' q' _ _ hdone => hf x y p' q' hdone

theorem imp {r : EStateM.Result Failure σ α} {s : EStateM.Result Failure τ β}
    {done' : α → β → σ → τ → Prop} (h : Covers done r s)
    (hdone : ∀ x y p q, done x y p q → done' x y p q) : Covers done' r s := by
  intro x p hr
  obtain ⟨y, q, hs, hxy⟩ := h x p hr
  exact ⟨y, q, hs, hdone x y p q hxy⟩

theorem of_ok {x : α} {y : β} (h : done x y p q) :
    Covers done (.ok x p : EStateM.Result Failure σ α) (.ok y q : EStateM.Result Failure τ β) := by
  rintro _ _ ⟨⟩
  exact ⟨y, q, rfl, h⟩

theorem of_error {e : Failure} {s : EStateM.Result Failure τ β} :
    Covers done (.error e p : EStateM.Result Failure σ α) s := by
  rintro _ _ ⟨⟩

end Covers

end VisualNovel
