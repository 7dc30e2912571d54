import VisualNovel.Journal.Logger
import VisualNovel.Proofs.Text.Moderate

/-!
# One record for a message

A logger writes one record for a message of a level that is enabled and nothing otherwise. The record
shows the template as it is, filled with the arguments, or followed by them where they do not fit. The
message is lost only if a number is out of range: one that filling gets to, such as a width for which
there is no room, or one of too many digits among arguments that do not fit.
-/
namespace VisualNovel.Journal

open VisualNovel.Text VisualNovel.Text.Template

/-- What the record of a message says, where there is `room` for less than so many characters. -/
inductive Says (room : Nat) (template : String) (args : List Argument) (text : String) : Prop where
  | bare (none : args = []) (same : text = template) : Says room template args text
  | filled (some : args ≠ [])
      (reaches : Reaches room ⟨args, template.toList⟩ text.toList ⟨[], []⟩) : Says room template args text
  | beside (some : args ≠ []) (misfits : Misfits room template args)
      (writable : Argument.areWritable args = true)
      (followed : text = template ++ " " ++ Argument.tuple args) : Says room template args text

/-- Why a message is lost. -/
inductive Lost (room : Nat) (template : String) (args : List Argument) : RangeError → Prop where
  | exceeds {e} (some : args ≠ []) (exceeds : Exceeds room template args e) : Lost room template args e
  | unwritable (misfits : Misfits room template args)
      (unwritable : Argument.areWritable args = false) : Lost room template args .digits

variable {template text : String} {args : List Argument} {e : RangeError} {room limit : Nat}

theorem message_eq_ok_iff : message room template args = .ok text ↔ Says room template args text := by
  by_cases none : args = []
  · subst none
    constructor
    · intro h
      cases h
      exact .bare rfl rfl
    · rintro (⟨-, rfl⟩ | ⟨some, -⟩ | ⟨some, -⟩)
      · rfl
      · exact absurd rfl some
      · exact absurd rfl some
  · rw [message, if_neg (by simpa using none)]
    constructor
    · intro h
      split at h
      · next s filled =>
        cases h
        exact .filled none (fill_eq_ok_iff.1 filled)
      · next misfits =>
        split at h
        · next writable =>
          cases h
          exact .beside none (fill_eq_mismatch_iff.1 misfits) writable rfl
        · cases h
      · cases h
    · rintro (⟨rfl, -⟩ | ⟨-, reaches⟩ | ⟨-, misfits, writable, rfl⟩)
      · exact absurd rfl none
      · rw [fill_eq_ok_iff.2 reaches]
      · rw [fill_eq_mismatch_iff.2 misfits]
        exact if_pos writable

theorem message_eq_error_iff : message room template args = .error e ↔ Lost room template args e := by
  by_cases none : args = []
  · subst none
    refine iff_of_false (fun h => by cases h) ?_
    rintro (⟨some, -⟩ | ⟨-, unwritable⟩)
    · exact some rfl
    · cases unwritable
  · rw [message, if_neg (by simpa using none)]
    constructor
    · intro h
      split at h
      · cases h
      · next misfits =>
        split at h
        · cases h
        · next unwritable =>
          cases h
          exact .unwritable (fill_eq_mismatch_iff.1 misfits) (by simpa using unwritable)
      · next exceeds =>
        cases h
        exact .exceeds none (fill_eq_range_iff.1 exceeds)
    · rintro (⟨-, exceeds⟩ | ⟨misfits, unwritable⟩)
      · rw [fill_eq_range_iff.2 exceeds]
      · rw [fill_eq_mismatch_iff.2 misfits]
        exact if_neg (by simp [unwritable])

/-- Logging leaves the journal alone if the level is not enabled, and else writes one record, unless the
message is lost. -/
theorem log_settles (room : Nat) (g : Logger) (j : Journal) (level : Level) (template : String)
    (args : List Argument) :
    (∀ j', g.log room j level template args = .ok j' ↔
      g.enabled j.thresholds level = false ∧ j' = j ∨
      g.enabled j.thresholds level = true ∧ ∃ text, Says room template args text ∧
        j' = ⟨j.thresholds, j.written ++ [recordText g.module level text]⟩) ∧
    ∀ e, g.log room j level template args = .error e ↔
      g.enabled j.thresholds level = true ∧ Lost room template args e := by
  rw [Logger.log]
  cases enabled : g.enabled j.thresholds level with
  | false => simp [eq_comm]
  | true =>
    simp only [if_true, ← message_eq_ok_iff, ← message_eq_error_iff]
    cases message room template args <;> simp [Except.map, write, eq_comm]

theorem areWritable_iff : Argument.areWritable args = true ↔ ∀ a ∈ args, a.isWritable = true := by
  induction args with
  | nil => simp [Argument.areWritable]
  | cons a args ih => simp [Argument.areWritable, ih]

/-- No message of moderate numbers is lost. -/
theorem not_lost (admits : Admits room limit) (moderate : ∀ a ∈ args, a.Moderate)
    (short : HasNumbersBelow limit template.toList) : ¬Lost room template args e := by
  rintro (⟨-, exceeds⟩ | ⟨-, unwritable⟩)
  · exact not_exceeds admits moderate short exceeds
  · rw [areWritable_iff.2 fun a ha => (moderate a ha).writable] at unwritable
    cases unwritable

/-- A message of moderate numbers has a text for its record. -/
theorem exists_says (admits : Admits room limit) (moderate : ∀ a ∈ args, a.Moderate)
    (short : HasNumbersBelow limit template.toList) : ∃ text, Says room template args text := by
  cases formed : message room template args with
  | ok text => exact ⟨text, message_eq_ok_iff.1 formed⟩
  | error e => exact absurd (message_eq_error_iff.1 formed) (not_lost admits moderate short)

/-- An error for which the level is enabled and that is not written: no character has the code that the
template is to show. -/
theorem exists_log_lost :
    (Logger.named "m").enabled {} .error = true ∧
      ∀ room, (Logger.named "m").log room {} .error "%c" [.integer 1114112] = .error .codePoint :=
  ⟨by decide +kernel, fun _ => rfl⟩

end VisualNovel.Journal
