import Mathlib.Tactic.Ring
import VisualNovel.Number.Binary64

/-!
# Rounding to binary64

A quotient `n / d` of units is rounded to a multiple of a power of two, the spacing of the numbers
where the quotient lies. Below two to the power of 53 spacings the result is off by less than one of
them, a multiple of the spacing is kept, and the quotient is rounded beyond every number exactly if it
is at least `firstBeyond` ones.
-/
namespace VisualNovel.Number.Binary64

variable {n d m k : Nat}

theorem roundDiv_cases (n d : Nat) :
    roundDiv n d = n / d ∧ 2 * (n % d) ≤ d ∨ roundDiv n d = n / d + 1 ∧ d ≤ 2 * (n % d) := by
  simp only [roundDiv]
  split
  · exact .inr ⟨rfl, by omega⟩
  · exact .inl ⟨rfl, by omega⟩

theorem div_le_roundDiv (n d : Nat) : n / d ≤ roundDiv n d := by
  have := roundDiv_cases n d
  omega

theorem roundDiv_le (n d : Nat) : roundDiv n d ≤ n / d + 1 := by
  have := roundDiv_cases n d
  omega

theorem roundDiv_mul_self (hd : 0 < d) (m : Nat) : roundDiv (m * d) d = m := by
  simp [roundDiv, Nat.mul_div_cancel m hd, Nat.ne_of_gt hd]

/-- A tie above an odd number goes up, so the half is reached exactly. -/
theorem lt_roundDiv_iff (hd : 0 < d) (odd : k % 2 = 1) (h : n / (2 * d) ≤ k) :
    k < roundDiv n (2 * d) ↔ (2 * k + 1) * d ≤ n := by
  have hdiv := Nat.div_add_mod n (2 * d)
  have hmod := Nat.mod_lt n (Nat.mul_pos Nat.two_pos hd)
  constructor
  · intro hk
    obtain ⟨hround, hrest⟩ | ⟨hround, hrest⟩ := roundDiv_cases n (2 * d)
    · omega
    · have hq : n / (2 * d) = k := by omega
      rw [hq] at hdiv
      have hsplit : 2 * d * k + d = (2 * k + 1) * d := by ring
      omega
  · intro hk
    have hq : n / (2 * d) = k := by
      apply Nat.le_antisymm h
      rw [Nat.le_div_iff_mul_le (Nat.mul_pos Nat.two_pos hd)]
      calc
        k * (2 * d) ≤ (2 * k + 1) * d := by
          have hsplit : (2 * k + 1) * d = k * (2 * d) + d := by ring
          omega
        _ ≤ n := hk
    have hrest : d ≤ n % (2 * d) := by
      have hsplit : (2 * k + 1) * d = 2 * d * (n / (2 * d)) + d := by
        rw [hq]
        ring
      omega
    simp only [roundDiv, hq]
    rw [if_pos (by omega)]
    omega

/-- The power of two that the spacing is: so many units lie between two numbers near `n / d`. -/
def spacingExponent (n d : Nat) : Nat :=
  (n / d).log2 - 52

def spacing (n d : Nat) : Nat :=
  2 ^ spacingExponent n d

theorem spacing_pos (n d : Nat) : 0 < spacing n d :=
  Nat.two_pow_pos _

theorem div_lt_spacing (n d : Nat) : n / d < 2 ^ 53 * spacing n d := by
  rw [spacing, ← Nat.pow_add]
  apply Nat.lt_of_lt_of_le Nat.lt_log2_self
  apply Nat.pow_le_pow_right Nat.two_pos
  rw [spacingExponent]
  omega

theorem spacing_le_div (h : spacingExponent n d ≠ 0) : 2 ^ 52 * spacing n d ≤ n / d := by
  rw [spacingExponent] at h
  have hq : n / d ≠ 0 := by
    intro hzero
    simp [hzero] at h
  calc
    2 ^ 52 * spacing n d = 2 ^ (52 + ((n / d).log2 - 52)) := by
      rw [spacing, spacingExponent, ← Nat.pow_add]
    _ = 2 ^ (n / d).log2 := by
      congr 1
      omega
    _ ≤ n / d := Nat.log2_self_le hq

theorem spacing_le (n d : Nat) : spacing n d ≤ n / d / 2 ^ 52 + 1 := by
  by_cases h : spacingExponent n d = 0
  · rw [spacing, h]
    exact Nat.le_add_left 1 _
  · have hle := spacing_le_div h
    generalize n / d = q at hle ⊢
    omega

def significand (n d : Nat) : Nat :=
  roundDiv n (d * spacing n d)

theorem div_mul_spacing (n d : Nat) : n / (d * spacing n d) = n / d / spacing n d :=
  (Nat.div_div_eq_div_mul n d _).symm

theorem significand_le (n d : Nat) : significand n d ≤ 2 * fractionSpan := by
  have hlt : n / d / spacing n d < 2 ^ 53 := by
    rw [Nat.div_lt_iff_lt_mul (spacing_pos n d)]
    exact div_lt_spacing n d
  have hround := roundDiv_le n (d * spacing n d)
  rw [div_mul_spacing] at hround
  rw [significand, fractionSpan]
  omega

theorem fractionSpan_le_significand (h : spacingExponent n d ≠ 0) :
    fractionSpan ≤ significand n d := by
  have hle : 2 ^ 52 ≤ n / d / spacing n d := by
    rw [Nat.le_div_iff_mul_le (spacing_pos n d)]
    exact spacing_le_div h
  have hround := div_le_roundDiv n (d * spacing n d)
  rw [div_mul_spacing] at hround
  rw [significand, fractionSpan]
  omega

theorem nearestBits_eq (n d : Nat) :
    nearestBits n d = min (spacingExponent n d * fractionSpan + significand n d) infinityBits :=
  rfl

theorem unitsOf_mul_add {e : Nat} (hm : m < fractionSpan) :
    unitsOf (e * fractionSpan + m) = if e = 0 then m else (fractionSpan + m) * 2 ^ (e - 1) := by
  have hspan : 0 < fractionSpan := by decide
  have hdiv : (e * fractionSpan + m) / fractionSpan = e := by
    rw [Nat.add_comm, Nat.add_mul_div_right m e hspan, Nat.div_eq_of_lt hm, Nat.zero_add]
  have hmod : (e * fractionSpan + m) % fractionSpan = m := by
    rw [Nat.mul_comm, Nat.mul_add_mod, Nat.mod_eq_of_lt hm]
  rw [unitsOf, hdiv, hmod]
  rfl

/-- Magnitude bits stand for as many spacings as the significand says, also where the significand has
run over to the next exponent. -/
theorem unitsOf_add {e r : Nat} (hr : r ≤ 2 * fractionSpan) (he : e ≠ 0 → fractionSpan ≤ r) :
    unitsOf (e * fractionSpan + r) = r * 2 ^ e := by
  by_cases hsmall : r < fractionSpan
  · have hzero : e = 0 := by omega
    subst hzero
    rw [unitsOf_mul_add hsmall, if_pos rfl, Nat.pow_zero, Nat.mul_one]
  · obtain ⟨m, rfl⟩ := Nat.exists_eq_add_of_le (Nat.le_of_not_lt hsmall)
    by_cases hfull : m = fractionSpan
    · have hsplit : e * fractionSpan + (fractionSpan + m) = (e + 2) * fractionSpan + 0 := by
        rw [hfull]
        ring
      rw [hsplit, unitsOf_mul_add (by decide), if_neg (by omega), hfull]
      show (fractionSpan + 0) * 2 ^ (e + 1) = (fractionSpan + fractionSpan) * 2 ^ e
      ring
    · have hsplit : e * fractionSpan + (fractionSpan + m) = (e + 1) * fractionSpan + m := by ring
      rw [hsplit, unitsOf_mul_add (by omega), if_neg (by omega), Nat.add_sub_cancel]

theorem unitsOf_nearestBits (finite : nearestBits n d < infinityBits) :
    unitsOf (nearestBits n d) = significand n d * spacing n d := by
  rw [nearestBits_eq] at finite ⊢
  rw [Nat.min_eq_left (by omega)]
  exact unitsOf_add (significand_le n d) fractionSpan_le_significand

theorem unitsOf_nearestBits_le (finite : nearestBits n d < infinityBits) :
    unitsOf (nearestBits n d) ≤ n / d + n / d / 2 ^ 52 + 1 := by
  have hround := roundDiv_le n (d * spacing n d)
  rw [div_mul_spacing] at hround
  calc
    unitsOf (nearestBits n d) = significand n d * spacing n d := unitsOf_nearestBits finite
    _ ≤ (n / d / spacing n d + 1) * spacing n d := Nat.mul_le_mul_right _ hround
    _ = n / d / spacing n d * spacing n d + spacing n d := Nat.succ_mul _ _
    _ ≤ n / d + spacing n d := Nat.add_le_add_right (Nat.div_mul_le_self _ _) _
    _ ≤ n / d + n / d / 2 ^ 52 + 1 := by
      have := spacing_le n d
      omega

theorem le_unitsOf_nearestBits (finite : nearestBits n d < infinityBits) :
    n / d ≤ unitsOf (nearestBits n d) + n / d / 2 ^ 52 := by
  have hround := div_le_roundDiv n (d * spacing n d)
  rw [div_mul_spacing] at hround
  have hmul : n / d / spacing n d * spacing n d ≤ significand n d * spacing n d :=
    Nat.mul_le_mul_right _ hround
  have hrest := Nat.div_add_mod' (n / d) (spacing n d)
  have hlt := Nat.mod_lt (n / d) (spacing_pos n d)
  have hspacing := spacing_le n d
  rw [unitsOf_nearestBits finite]
  omega

/-- A multiple of a power of two with at most 53 binary digits in front of it is kept. -/
theorem unitsOf_nearestBits_of_mul (hd : 0 < d) (hm : m < 2 ^ 53) (hn : n = d * (m * 2 ^ k))
    (finite : nearestBits n d < infinityBits) : unitsOf (nearestBits n d) = m * 2 ^ k := by
  have hexponent : spacingExponent n d ≤ k := by
    rw [spacingExponent, hn, Nat.mul_div_cancel_left _ hd]
    by_cases hzero : m * 2 ^ k = 0
    · simp [hzero]
    · have hlog : (m * 2 ^ k).log2 < 53 + k := by
        rw [Nat.log2_lt hzero, Nat.pow_add]
        exact Nat.mul_lt_mul_of_pos_right hm (Nat.two_pow_pos k)
      omega
  obtain ⟨i, hi⟩ := Nat.exists_eq_add_of_le hexponent
  have hpower : 2 ^ k = 2 ^ i * spacing n d := by
    rw [hi, Nat.pow_add, spacing, Nat.mul_comm]
  have hsplit : n = m * 2 ^ i * (d * spacing n d) := by
    rw [hpower] at hn
    calc
      n = d * (m * (2 ^ i * spacing n d)) := hn
      _ = m * 2 ^ i * (d * spacing n d) := by ring
  have hround := roundDiv_mul_self (Nat.mul_pos hd (spacing_pos n d)) (m * 2 ^ i)
  rw [← hsplit] at hround
  rw [unitsOf_nearestBits finite, significand, hround, hpower, Nat.mul_assoc]

/-- A result is not below an exponent `t + 3` exactly if the quotient is not below the middle between
the last number of the exponent `t + 2` and the next power of two, which is the even neighbour. -/
theorem bits_lt_iff (hd : 0 < d) (t : Nat) :
    spacingExponent n d * fractionSpan + significand n d < (t + 3) * fractionSpan ↔
      n < d * ((2 ^ 54 - 1) * 2 ^ t) := by
  have hspan : 0 < fractionSpan := by decide
  -- far from the edge the spacing alone decides, since a significand stays within a factor of two
  obtain hlow | hedge | hhigh : spacingExponent n d ≤ t ∨ spacingExponent n d = t + 1 ∨
      t + 2 ≤ spacingExponent n d := by omega
  · have hbits : spacingExponent n d * fractionSpan ≤ t * fractionSpan :=
      Nat.mul_le_mul_right _ hlow
    have hsignificand := significand_le n d
    have hquotient : n < d * (2 ^ 53 * spacing n d) := by
      rw [Nat.mul_comm, ← Nat.div_lt_iff_lt_mul hd]
      exact div_lt_spacing n d
    have hspacing : spacing n d ≤ 2 ^ t := Nat.pow_le_pow_right Nat.two_pos hlow
    have hbound : d * (2 ^ 53 * spacing n d) ≤ d * ((2 ^ 54 - 1) * 2 ^ t) :=
      Nat.mul_le_mul_left d (Nat.mul_le_mul (by decide) hspacing)
    refine iff_of_true ?_ (Nat.lt_of_lt_of_le hquotient hbound)
    rw [Nat.add_mul]
    omega
  · have hspacing : d * spacing n d = 2 * (d * 2 ^ t) := by
      rw [spacing, hedge, Nat.pow_succ]
      ring
    have hquotient : n / (2 * (d * 2 ^ t)) ≤ 2 ^ 53 - 1 := by
      rw [← hspacing, div_mul_spacing]
      apply Nat.le_sub_one_of_lt
      rw [Nat.div_lt_iff_lt_mul (spacing_pos n d)]
      exact div_lt_spacing n d
    have hround := lt_roundDiv_iff (Nat.mul_pos hd (Nat.two_pow_pos t)) (by decide) hquotient
    rw [← hspacing] at hround
    have hsplit : (2 * (2 ^ 53 - 1) + 1) * (d * 2 ^ t) = d * ((2 ^ 54 - 1) * 2 ^ t) :=
      Nat.mul_left_comm _ _ _
    have hfull : 2 ^ 53 - 1 < significand n d ↔ 2 * fractionSpan ≤ significand n d := Iff.rfl
    rw [hsplit, ← significand, hfull] at hround
    have hlt : n < d * ((2 ^ 54 - 1) * 2 ^ t) ↔ ¬2 * fractionSpan ≤ significand n d :=
      Nat.not_le.symm.trans (not_congr hround).symm
    rw [hedge, hlt, Nat.add_mul, Nat.add_mul]
    omega
  · have hbits : (t + 2) * fractionSpan ≤ spacingExponent n d * fractionSpan :=
      Nat.mul_le_mul_right _ hhigh
    have hsignificand : fractionSpan ≤ significand n d := fractionSpan_le_significand (by omega)
    have hquotient : d * (2 ^ 52 * spacing n d) ≤ n := by
      rw [Nat.mul_comm, ← Nat.le_div_iff_mul_le hd]
      exact spacing_le_div (by omega)
    have hspacing : 2 ^ (t + 2) ≤ spacing n d := Nat.pow_le_pow_right Nat.two_pos hhigh
    have hbound : d * ((2 ^ 54 - 1) * 2 ^ t) ≤ d * (2 ^ 52 * spacing n d) := by
      apply Nat.mul_le_mul_left d
      rw [Nat.pow_add] at hspacing
      omega
    refine iff_of_false ?_ (Nat.not_lt.2 (Nat.le_trans hbound hquotient))
    rw [Nat.add_mul] at hbits ⊢
    omega

/-- The least whole number that is rounded beyond every number: the middle between the greatest number
and two to the power of 1024, as a product with small exponents. -/
def firstBeyond : Nat :=
  (2 ^ 54 - 1) * (2 ^ 97) ^ 10

theorem two_pow_le_firstBeyond : 2 ^ 53 ≤ firstBeyond := by
  decide +kernel

theorem mul_pow_mul_pow (m a i b j : Nat) :
    m * (2 ^ a) ^ i * (2 ^ b) ^ j = m * 2 ^ (a * i + b * j) := by
  rw [Nat.pow_add, Nat.pow_mul, Nat.pow_mul, Nat.mul_assoc]

theorem exists_firstBeyond_mul_unitsPerOne :
    ∃ t, t + 3 = 2047 ∧ firstBeyond * unitsPerOne = (2 ^ 54 - 1) * 2 ^ t :=
  ⟨97 * 10 + 179 * 6, rfl, mul_pow_mul_pow (2 ^ 54 - 1) 97 10 179 6⟩

theorem exists_unitsPerOne_eq : ∃ k, unitsPerOne = 2 ^ (k + 1) := by
  refine ⟨1073, ?_⟩
  rw [show 1073 + 1 = 179 * 6 from rfl, Nat.pow_mul]
  rfl

/-- The result is finite exactly if the quotient is less than `firstBeyond` ones. -/
theorem nearestBits_lt_iff (hd : 0 < d) :
    nearestBits n d < infinityBits ↔ n < d * (firstBeyond * unitsPerOne) := by
  obtain ⟨t, ht, hbeyond⟩ := exists_firstBeyond_mul_unitsPerOne
  rw [hbeyond, ← bits_lt_iff hd t, ht, nearestBits_eq, infinityBits]
  omega

end VisualNovel.Number.Binary64
