import VisualNovel.Proofs.Number.Rounding

/-!
# Integers times numbers

Which integers and which products are finite, and what is left of them without their fractions. An
integer is a number unless it is beyond every number, a product of finite numbers is finite unless it
is beyond every number, and only a finite number has an integer part.
-/
namespace VisualNovel.Number.Binary64

variable {n d m : Nat} {x y : Binary64} {i : Int}

theorem infinityBits_lt_signBit : infinityBits < signBit := by
  decide

theorem nearestBits_le (n d : Nat) : nearestBits n d ≤ infinityBits :=
  Nat.min_le_right _ _

theorem toNat_ofMagnitude (negative : Bool) (h : m < signBit) :
    (ofMagnitude negative m).bits.toNat = m + if negative then signBit else 0 := by
  have hsign : signBit = 0x8000000000000000 := rfl
  rw [ofMagnitude, UInt64.toNat_ofNat_of_lt']
  show _ < 0x10000000000000000
  split <;> omega

theorem magnitudeBits_ofMagnitude (negative : Bool) (h : m < signBit) :
    (ofMagnitude negative m).magnitudeBits = m := by
  rw [magnitudeBits, toNat_ofMagnitude negative h]
  cases negative
  · exact Nat.mod_eq_of_lt h
  · rw [if_pos rfl, Nat.add_mod_right, Nat.mod_eq_of_lt h]

theorem isNegative_ofMagnitude (negative : Bool) (h : m < signBit) :
    (ofMagnitude negative m).isNegative = negative := by
  rw [isNegative, toNat_ofMagnitude negative h]
  cases negative
  · simpa using h
  · simp

def IsFinite (x : Binary64) : Prop :=
  x.magnitudeBits < infinityBits

instance (x : Binary64) : Decidable x.IsFinite :=
  inferInstanceAs (Decidable (x.magnitudeBits < infinityBits))

theorem IsFinite.isNaN_eq (h : x.IsFinite) : x.isNaN = false :=
  decide_eq_false (Nat.not_lt.2 (Nat.le_of_lt h))

theorem IsFinite.isInfinite_eq (h : x.IsFinite) : x.isInfinite = false :=
  beq_false_of_ne (Nat.ne_of_lt h)

def nearest (negative : Bool) (n d : Nat) : Binary64 :=
  ofMagnitude negative (nearestBits n d)

theorem nearestBits_lt_signBit (n d : Nat) : nearestBits n d < signBit :=
  Nat.lt_of_le_of_lt (nearestBits_le n d) infinityBits_lt_signBit

@[simp]
theorem magnitudeBits_nearest (negative : Bool) (n d : Nat) :
    (nearest negative n d).magnitudeBits = nearestBits n d :=
  magnitudeBits_ofMagnitude negative (nearestBits_lt_signBit n d)

@[simp]
theorem isNegative_nearest (negative : Bool) (n d : Nat) :
    (nearest negative n d).isNegative = negative :=
  isNegative_ofMagnitude negative (nearestBits_lt_signBit n d)

theorem units_nearest (negative : Bool) (n d : Nat) :
    (nearest negative n d).units = unitsOf (nearestBits n d) := by
  rw [units, magnitudeBits_nearest]

theorem units_nearest_le {negative : Bool} (finite : (nearest negative n d).IsFinite) :
    (nearest negative n d).units ≤ n / d + n / d / 2 ^ 52 + 1 := by
  rw [IsFinite, magnitudeBits_nearest] at finite
  rw [units_nearest]
  exact unitsOf_nearestBits_le finite

theorem le_units_nearest {negative : Bool} (finite : (nearest negative n d).IsFinite) :
    n / d ≤ (nearest negative n d).units + n / d / 2 ^ 52 := by
  rw [IsFinite, magnitudeBits_nearest] at finite
  rw [units_nearest]
  exact le_unitsOf_nearestBits finite

theorem units_nearest_of_mul {negative : Bool} {k : Nat} (finite : (nearest negative n d).IsFinite)
    (hd : 0 < d) (hm : m < 2 ^ 53) (hn : n = d * (m * 2 ^ k)) :
    (nearest negative n d).units = m * 2 ^ k := by
  rw [IsFinite, magnitudeBits_nearest] at finite
  rw [units_nearest]
  exact unitsOf_nearestBits_of_mul hd hm hn finite

theorem isFinite_nearest_iff {negative : Bool} (hd : 0 < d) :
    (nearest negative n d).IsFinite ↔ n < d * (firstBeyond * unitsPerOne) := by
  rw [IsFinite, magnitudeBits_nearest, nearestBits_lt_iff hd]

theorem isInfinite_nearest_iff {negative : Bool} :
    (nearest negative n d).isInfinite = true ↔ ¬(nearest negative n d).IsFinite := by
  have hle := nearestBits_le n d
  rw [isInfinite, IsFinite, magnitudeBits_nearest, beq_iff_eq]
  omega

theorem unitsPerOne_pos : 0 < unitsPerOne := by
  decide +kernel

theorem IsFinite.units_lt (h : x.IsFinite) : x.units < firstBeyond * unitsPerOne := by
  obtain ⟨t, ht, hbeyond⟩ := exists_firstBeyond_mul_unitsPerOne
  have hspan : 0 < fractionSpan := by decide
  have hexponent : x.magnitudeBits / fractionSpan < 2047 := by
    rwa [Nat.div_lt_iff_lt_mul hspan]
  have hfraction := Nat.mod_lt x.magnitudeBits hspan
  have hsplit := Nat.div_add_mod' x.magnitudeBits fractionSpan
  rw [hbeyond, units, ← hsplit, unitsOf_mul_add hfraction]
  generalize x.magnitudeBits / fractionSpan = e at hexponent ⊢
  generalize x.magnitudeBits % fractionSpan = r at hfraction ⊢
  have hone : 1 ≤ 2 ^ t := Nat.two_pow_pos t
  rw [fractionSpan] at hfraction ⊢
  split
  · omega
  · have hpower : 2 ^ (e - 1) ≤ 2 ^ (t + 1) := Nat.pow_le_pow_right Nat.two_pos (by omega)
    calc
      (0x10000000000000 + r) * 2 ^ (e - 1) ≤ (2 ^ 53 - 1) * 2 ^ (t + 1) :=
        Nat.mul_le_mul (by omega) hpower
      _ = (2 ^ 54 - 2) * 2 ^ t := by
        rw [Nat.pow_succ]
        omega
      _ < (2 ^ 54 - 1) * 2 ^ t := by omega

theorem exists_ofInt?_iff : (∃ x, ofInt? i = some x) ↔ i.natAbs < firstBeyond := by
  have hfinite : (nearest (i < 0) (i.natAbs * unitsPerOne) 1).IsFinite ↔
      i.natAbs < firstBeyond := by
    rw [isFinite_nearest_iff Nat.one_pos, Nat.one_mul, Nat.mul_lt_mul_right unitsPerOne_pos]
  rw [← hfinite]
  change (∃ x, (if (nearest _ _ _).isInfinite = true then none else some _) = some x) ↔ _
  by_cases h : (nearest (i < 0) (i.natAbs * unitsPerOne) 1).IsFinite
  · rw [if_neg (fun hinfinite => isInfinite_nearest_iff.1 hinfinite h)]
    exact iff_of_true ⟨_, rfl⟩ h
  · rw [if_pos (isInfinite_nearest_iff.2 h)]
    exact iff_of_false (by simp) h

theorem eq_nearest_of_ofInt? (h : ofInt? i = some x) :
    x = nearest (i < 0) (i.natAbs * unitsPerOne) 1 ∧ x.IsFinite := by
  change (if (nearest _ _ _).isInfinite = true then none else some _) = some x at h
  split at h
  · cases h
  · rename_i hinfinite
    cases h
    refine ⟨rfl, Decidable.not_not.1 fun hnot => hinfinite (isInfinite_nearest_iff.2 hnot)⟩

theorem units_le_of_ofInt? (number : ofInt? i = some x) :
    x.units ≤ i.natAbs * unitsPerOne + i.natAbs * unitsPerOne / 2 ^ 52 + 1 := by
  obtain ⟨rfl, hfinite⟩ := eq_nearest_of_ofInt? number
  have hle := units_nearest_le hfinite
  rwa [Nat.div_one] at hle

theorem le_units_of_ofInt? (number : ofInt? i = some x) :
    i.natAbs * unitsPerOne ≤ x.units + i.natAbs * unitsPerOne / 2 ^ 52 := by
  obtain ⟨rfl, hfinite⟩ := eq_nearest_of_ofInt? number
  have hle := le_units_nearest hfinite
  rwa [Nat.div_one] at hle

theorem exists_ofInt?_of_small (small : i.natAbs < 2 ^ 53) :
    ∃ x, ofInt? i = some x ∧ x.IsFinite ∧ x.units = i.natAbs * unitsPerOne := by
  obtain ⟨x, number⟩ := exists_ofInt?_iff.2 (Nat.lt_of_lt_of_le small two_pow_le_firstBeyond)
  obtain ⟨hx, hfinite⟩ := eq_nearest_of_ofInt? number
  obtain ⟨k, hk⟩ := exists_unitsPerOne_eq
  refine ⟨x, number, hfinite, ?_⟩
  subst hx
  rw [units_nearest_of_mul hfinite Nat.one_pos small (by rw [hk, Nat.one_mul]), hk]

theorem mul_eq_nearest (hx : x.IsFinite) (hy : y.IsFinite) :
    x.mul y = nearest (x.isNegative != y.isNegative) (x.units * y.units) unitsPerOne := by
  simp only [mul, hx.isNaN_eq, hy.isNaN_eq, hx.isInfinite_eq, hy.isInfinite_eq, Bool.or_self,
    Bool.false_eq_true, if_false]
  rfl

theorem not_isFinite_nan (negative : Bool) : ¬(nan negative).IsFinite := by
  cases negative <;> decide

theorem not_isFinite_infinity (negative : Bool) : ¬(infinity negative).IsFinite := by
  cases negative <;> decide

theorem IsFinite.of_mul (hx : x.IsFinite) (h : (x.mul y).IsFinite) : y.IsFinite := by
  by_cases hnan : y.isNaN = true
  · rw [mul, hnan, Bool.or_true, if_pos rfl] at h
    exact absurd h (not_isFinite_nan false)
  · by_cases hinfinite : y.isInfinite = true
    · simp only [mul, hx.isNaN_eq, hnan, hinfinite, Bool.or_true, Bool.or_self, if_true,
        Bool.false_eq_true, if_false] at h
      split at h
      · exact absurd h (not_isFinite_nan true)
      · exact absurd h (not_isFinite_infinity _)
    · simp only [isNaN, isInfinite, decide_eq_true_eq, beq_iff_eq] at hnan hinfinite
      rw [IsFinite]
      omega

theorem isFinite_mul_iff (hx : x.IsFinite) :
    (x.mul y).IsFinite ↔
      y.IsFinite ∧ x.units * y.units < unitsPerOne * (firstBeyond * unitsPerOne) := by
  constructor
  · intro h
    have hy := hx.of_mul h
    rw [mul_eq_nearest hx hy, isFinite_nearest_iff unitsPerOne_pos] at h
    exact ⟨hy, h⟩
  · rintro ⟨hy, h⟩
    rwa [mul_eq_nearest hx hy, isFinite_nearest_iff unitsPerOne_pos]

theorem units_mul_le (hx : x.IsFinite) (finite : (x.mul y).IsFinite) :
    (x.mul y).units ≤
      x.units * y.units / unitsPerOne + x.units * y.units / unitsPerOne / 2 ^ 52 + 1 := by
  have hy := hx.of_mul finite
  rw [mul_eq_nearest hx hy] at finite ⊢
  exact units_nearest_le finite

theorem le_units_mul (hx : x.IsFinite) (finite : (x.mul y).IsFinite) :
    x.units * y.units / unitsPerOne ≤
      (x.mul y).units + x.units * y.units / unitsPerOne / 2 ^ 52 := by
  have hy := hx.of_mul finite
  rw [mul_eq_nearest hx hy] at finite ⊢
  exact le_units_nearest finite

theorem units_mul_of_mul {k : Nat} (hx : x.IsFinite) (finite : (x.mul y).IsFinite)
    (hm : m < 2 ^ 53) (product : x.units * y.units = unitsPerOne * (m * 2 ^ k)) :
    (x.mul y).units = m * 2 ^ k := by
  have hy := hx.of_mul finite
  rw [mul_eq_nearest hx hy] at finite ⊢
  exact units_nearest_of_mul finite unitsPerOne_pos hm product

theorem truncate_eq (h : x.IsFinite) :
    x.truncate = .ok (if x.isNegative then -(x.units / unitsPerOne : Nat)
      else (x.units / unitsPerOne : Nat)) := by
  simp only [truncate, h.isNaN_eq, h.isInfinite_eq, Bool.false_eq_true, if_false]

theorem exists_truncate_iff : (∃ j, x.truncate = .ok j) ↔ x.IsFinite := by
  constructor
  · rintro ⟨j, hj⟩
    rw [truncate] at hj
    split at hj
    · cases hj
    · rename_i hnan
      split at hj
      · cases hj
      · rename_i hinfinite
        simp only [isNaN, isInfinite, decide_eq_true_eq, beq_iff_eq] at hnan hinfinite
        rw [IsFinite]
        omega
  · intro h
    exact ⟨_, truncate_eq h⟩

end VisualNovel.Number.Binary64
