import VisualNovel.Session.Basic

/-!
# What actions do to a session

Each basic action run on a session, as an equation.
-/
namespace VisualNovel

theorem exists_of_bind {ε α β : Type} {x : Except ε α} {f : α → Except ε β} {b : β}
    (h : x >>= f = .ok b) : ∃ a, x = .ok a ∧ f a = .ok b := by
  cases x with
  | error e => cases h
  | ok a => exact ⟨a, rfl, h⟩

theorem bind_of_ok {ε α β : Type} {x : Except ε α} {f : α → Except ε β} {a : α} (h : x = .ok a) :
    x >>= f = f a := by
  rw [h]
  rfl

/-- Where one operation follows another and succeeds, both have succeeded. -/
theorem exists_of_run_bind {σ α β : Type} {a : EStateM Failure σ α} {f : α → EStateM Failure σ β}
    {y : β} {s t : σ} (h : (a >>= f).run s = .ok y t) :
    ∃ x u, a.run s = .ok x u ∧ (f x).run u = .ok y t := by
  rw [EStateM.run_bind] at h
  cases ha : a.run s with
  | error e u =>
    rw [ha] at h
    cases h
  | ok x u =>
    rw [ha] at h
    exact ⟨x, u, rfl, h⟩

namespace Session

variable {α : Type}

@[simp]
theorem run_throw (e : Failure) (s : Session) : (throw e : Action α).run s = .error e s :=
  rfl

@[simp]
theorem run_note (module : String) (level : Journal.Level) (message : String) (s : Session) :
    (note module level message).run s =
      .ok () { s with journal := s.journal.record module level message } :=
  rfl

@[simp]
theorem run_consult (look : FileTree → Except FileError α) (s : Session) :
    (consult look).run s =
      match look s.files with
      | .ok a => .ok a s
      | .error e => .error (.file e) s := by
  simp only [consult, EStateM.run_bind, EStateM.run_get]
  cases look s.files <;> rfl

@[simp]
theorem run_alter (change : FileTree → Except FileError FileTree) (s : Session) :
    (alter change).run s =
      match change s.files with
      | .ok files => .ok () { s with files }
      | .error e => .error (.file e) s := by
  simp only [alter, EStateM.run_bind, run_consult]
  cases change s.files <;> rfl

@[simp]
theorem run_print (text : String) (s : Session) :
    (print text).run s =
      .ok () { s with console := { s.console with output := s.console.output ++ text } } :=
  rfl

@[simp]
theorem run_attempt (r : Except Failure α) (s : Session) :
    (attempt r).run s =
      match r with
      | .ok a => .ok a s
      | .error e => .error e s := by
  cases r <;> rfl

theorem eq_of_run_attempt {r : Except Failure α} {a : α} {s t : Session}
    (h : (attempt r).run s = .ok a t) : r = .ok a ∧ t = s := by
  rw [run_attempt] at h
  cases r with
  | ok b =>
    cases h
    exact ⟨rfl, rfl⟩
  | error e => cases h

end Session

end VisualNovel
