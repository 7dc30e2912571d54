import Mathlib.Algebra.Group.Nat.Defs
import VisualNovel.Text.Blank
import VisualNovel.Text.Digit

/-!
# The digits of a number

What the decimal digits of a number are, beyond that they read back as the number: there is always
one, they are ASCII digits and nothing else, and a small number has few of them.
-/
namespace VisualNovel.Text

theorem not_isBlank_of_isAsciiDigit {c : Char} (h : isAsciiDigit c = true) :
    isBlank c = false := by
  simp only [isAsciiDigit, Bool.and_eq_true, decide_eq_true_eq, Char.le_def, UInt32.le_iff_toNat_le]
    at h
  have h9 : ('9' : Char).val.toNat = 57 := rfl
  have h0 : ('0' : Char).val.toNat = 48 := rfl
  simp only [isBlank, Char.toNat, Bool.or_eq_false_iff, Bool.and_eq_false_iff, beq_eq_false_iff_ne,
    decide_eq_false_iff_not]
  omega

theorem not_mem_of_digits {digits : List Char} {c : Char} (h : digits.all isAsciiDigit = true)
    (hc : isAsciiDigit c = false) : c ∉ digits := by
  intro hmem
  rw [List.all_eq_true.1 h c hmem] at hc
  cases hc

theorem not_mem_natDigits {c : Char} (hc : isAsciiDigit c = false) (n : Nat) :
    c ∉ natDigits 10 n :=
  not_mem_of_digits (all_isAsciiDigit_natDigits n) hc

theorem natDigits_ne_nil (n : Nat) : natDigits 10 n ≠ [] := by
  rw [natDigits_ten]
  split
  · exact List.cons_ne_nil _ _
  · exact List.append_ne_nil_of_right_ne_nil _ (List.cons_ne_nil _ _)

theorem length_natDigits_le {n k : Nat} (h : n < 10 ^ (k + 1)) :
    (natDigits 10 n).length ≤ k + 1 := by
  induction k generalizing n with
  | zero =>
    rw [natDigits_ten, if_pos (by omega)]
    exact Nat.le_refl _
  | succ k ih =>
    rw [natDigits_ten]
    split
    · simp
    · have hn : n / 10 < 10 ^ (k + 1) := by
        rw [Nat.pow_succ] at h
        omega
      have := ih hn
      rw [List.length_append, List.length_singleton]
      omega

end VisualNovel.Text
