import VisualNovel.Proofs.Frame.Channel

/-!
# What a check of settings says

A document is checked field by field. The check succeeds exactly if every field does, and then each
value is the one that the document gives for its key, or the default where the key is missing. A check
that fails says why: its list of issues is never empty.
-/
namespace VisualNovel

variable {α β : Type}

namespace Checked

variable {f : Checked (α → β)} {x : Checked α} {a : α} {b : β} {key : String}

theorem apply_eq_ok_iff : apply f x = .ok b ↔ ∃ g a, f = .ok g ∧ x = .ok a ∧ g a = b := by
  cases f <;> cases x <;> simp [apply]

theorem under_eq_ok_iff : under key x = .ok a ↔ x = .ok a := by
  cases x with
  | ok b => exact Iff.rfl
  | error issues => exact iff_of_false (fun h => nomatch h) (fun h => nomatch h)

/-- If a check fails, it names an issue. -/
def Explains (x : Checked α) : Prop :=
  x ≠ .error []

@[simp] theorem explains_ok : Explains (.ok a : Checked α) := by
  simp [Explains]

@[simp] theorem explains_fail (kind : IssueKind) : Explains (fail kind : Checked α) := by
  simp [Explains, fail]

theorem Explains.apply (hf : Explains f) (hx : Explains x) : Explains (apply f x) := by
  cases f with
  | ok g =>
    cases x with
    | ok a => exact explains_ok
    | error issues => simpa [Explains, Checked.apply] using hx
  | error issues =>
    cases x with
    | ok a => simpa [Explains, Checked.apply] using hf
    | error more =>
      simp only [Explains, ne_eq, Except.error.injEq] at hf
      simp [Explains, Checked.apply, hf]

theorem Explains.under (hx : Explains x) : Explains (x.under key) := by
  cases x with
  | ok a => exact explains_ok
  | error issues =>
    intro h
    have none : issues.map _ = [] := Except.error.inj h
    rw [List.map_eq_nil_iff] at none
    exact hx (by rw [none])

theorem Explains.map {g : α → β} (hx : Explains x) : Explains (x.map g) := by
  cases x with
  | ok a => exact explains_ok
  | error issues => simpa [Explains, Except.map] using hx

end Checked

namespace Settings

open Checked

variable {es : Entries} {d : Datum} {key : String} {check : Datum → Checked α} {a : α}

/-- The value of a key passes a check and gives `a`, or the key is missing and `a` stands for it. -/
def Gives (es : Entries) (key : String) (check : Datum → Checked α) (default : Option α) (a : α) :
    Prop :=
  match Datum.value? key es with
  | some d => check d = .ok a
  | none => default = some a

theorem gives_of_value? {default : Option α} (value : Datum.value? key es = some d)
    (passes : check d = .ok a) : Gives es key check default a := by
  rw [Gives, value]
  exact passes

/-- What holds of a default and of everything that passes the check holds of what is given. -/
theorem Gives.of_forall {default : Option α} {p : α → Prop} (gives : Gives es key check default a)
    (known : ∀ b, default = some b → p b) (checked : ∀ d b, check d = .ok b → p b) : p a := by
  rw [Gives] at gives
  split at gives
  · exact checked _ _ gives
  · exact known _ gives

theorem field_eq_ok_iff {default : Option α} :
    field es key check default = .ok a ↔ Gives es key check default a := by
  rw [field.eq_def, Gives]
  cases Datum.value? key es with
  | some d => exact under_eq_ok_iff
  | none =>
    cases default with
    | none => simp [under_eq_ok_iff, fail]
    | some b => simp

theorem explains_field (default : Option α) (explains : ∀ d, Explains (check d)) :
    Explains (field es key check default) := by
  rw [field.eq_def]
  cases Datum.value? key es with
  | some d => exact (explains d).under
  | none =>
    cases default with
    | none => exact (explains_fail .missing).under
    | some b => exact explains_ok

theorem recordOf_eq_ok_iff {record : String} {check : Entries → Checked α} :
    recordOf record check d = .ok a ↔ ∃ es, d = .map es ∧ check es = .ok a := by
  rw [recordOf.eq_def]
  split
  · simp
  · rename_i hmap
    simp only [fail, reduceCtorEq, false_iff, not_exists, not_and]
    exact fun es h => absurd h (hmap es)

theorem explains_recordOf {record : String} {check : Entries → Checked α}
    (explains : ∀ es, Explains (check es)) (d : Datum) : Explains (recordOf record check d) := by
  rw [recordOf.eq_def]
  split
  · exact explains _
  · exact explains_fail _

theorem refusing_eq_ok_iff {issues : List Issue} {x : Checked α} :
    refusing issues x = .ok a ↔ issues = [] ∧ x = .ok a := by
  cases x <;> cases issues <;> simp [refusing]

theorem explains_refusing {x : Checked α} (issues : List Issue) (hx : Explains x) :
    Explains (refusing issues x) := by
  cases x with
  | ok a => cases issues <;> simp [Explains, refusing]
  | error e =>
    simp only [Explains, ne_eq, Except.error.injEq] at hx
    cases issues <;> simp [Explains, refusing, hx]

/-! ## Scalars -/

theorem explains_readPlain (s : List Char) : Explains (readPlain s) := by
  simp only [readPlain]
  split
  · simp
  · split <;> simp

theorem explains_integerOfText (s : String) : Explains (integerOfText s) := by
  simp only [integerOfText]
  split
  · simp
  · split
    · exact explains_readPlain _
    · simp

theorem explains_integerOfReal (x : Number.Binary64) : Explains (integerOfReal x) := by
  rw [integerOfReal]
  split
  · simp
  · split
    · simp
    · split <;> simp

theorem explains_integer (d : Datum) : Explains (integer d) := by
  rw [integer.eq_def]
  split
  · split
    · simp
    · exact explains_integerOfText _
  · simp
  · split
    · simp
    · simp
    · exact explains_integerOfReal _
    · simp

theorem explains_integerThat (test : Int → Option IssueKind) (d : Datum) :
    Explains (integerThat test d) := by
  have hinteger := explains_integer d
  rw [integerThat]
  cases hd : integer d with
  | error e =>
    rw [hd] at hinteger
    exact hinteger
  | ok i =>
    simp only
    split <;> simp

theorem integerThat_eq_ok_iff {test : Int → Option IssueKind} {i : Int} :
    integerThat test d = .ok i ↔ integer d = .ok i ∧ test i = none := by
  rw [integerThat]
  cases integer d with
  | error e => simp
  | ok j =>
    simp only [Except.ok.injEq]
    cases htest : test j with
    | some kind =>
      simp only [fail, reduceCtorEq, false_iff, not_and]
      rintro rfl
      simp [htest]
    | none =>
      simp only [Except.ok.injEq]
      constructor
      · rintro rfl
        exact ⟨rfl, htest⟩
      · exact And.left

theorem greaterThan_eq_none_iff {bound i : Int} : greaterThan bound i = none ↔ bound < i := by
  rw [greaterThan]
  split <;> simp <;> omega

theorem positive_eq_none_iff {i : Int} : positive i = none ↔ 0 < i := by
  rw [positive]
  split <;> simp <;> omega

theorem explains_truthOfInteger (i : Int) : Explains (truthOfInteger i) := by
  rw [truthOfInteger]
  split
  · simp
  · split <;> simp

theorem explains_truthOfText (s : String) : Explains (truthOfText s) := by
  simp only [truthOfText]
  split
  · simp
  · split <;> simp

theorem explains_truth (d : Datum) : Explains (truth d) := by
  rw [truth.eq_def]
  split
  · split
    · simp
    · exact explains_truthOfText _
  · simp
  · split
    · simp
    · split
      · exact explains_truthOfInteger _
      · simp
    · split
      · exact explains_truthOfInteger _
      · simp
    · simp

theorem explains_text (d : Datum) : Explains (text d) := by
  rw [text]
  split <;> simp

theorem explains_optionalText (d : Datum) : Explains (optionalText d) := by
  rw [optionalText.eq_def]
  split
  · simp
  · exact (explains_text _).map

theorem explains_channel (d : Datum) : Explains (channel d) :=
  (explains_integerThat _ d).map

end Settings

end VisualNovel
