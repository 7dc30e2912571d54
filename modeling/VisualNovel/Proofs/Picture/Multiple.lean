import VisualNovel.Picture.Scene
import VisualNovel.Proofs.Number.Product

/-!
# Multiples of pixels

A font shrinks, a line is spaced and a picture is stretched in the same way: a whole number of pixels
is multiplied with a number, and the fraction is dropped. There is a result unless the pixels or the
product are beyond every number.
-/
namespace VisualNovel

open VisualNovel.Number
open VisualNovel.Number.Binary64

variable {pixels part : Int} {x y : Binary64}

theorem wholeMultiple_of_number (number : ofInt? pixels = some x) :
    wholeMultiple pixels y = (x.mul y).truncate.mapError .noInteger := by
  rw [wholeMultiple, number, Option.elim_some]

theorem exists_wholeMultiple_iff :
    (∃ part, wholeMultiple pixels y = .ok part) ↔
      ∃ x, ofInt? pixels = some x ∧ (x.mul y).IsFinite := by
  constructor
  · rintro ⟨part, hpart⟩
    rw [wholeMultiple] at hpart
    cases hnumber : ofInt? pixels with
    | none =>
      rw [hnumber] at hpart
      cases hpart
    | some x =>
      rw [hnumber, Option.elim_some] at hpart
      refine ⟨x, rfl, exists_truncate_iff.1 ?_⟩
      cases htruncate : (x.mul y).truncate with
      | error e =>
        rw [htruncate] at hpart
        cases hpart
      | ok j => exact ⟨j, rfl⟩
  · rintro ⟨x, hx, hfinite⟩
    rw [wholeMultiple_of_number hx, truncate_eq hfinite]
    exact ⟨_, rfl⟩

theorem exists_map_wholeMultiple_iff (f : Int → Int) :
    (∃ part, (wholeMultiple pixels y).map f = .ok part) ↔
      ∃ x, ofInt? pixels = some x ∧ (x.mul y).IsFinite := by
  rw [← exists_wholeMultiple_iff]
  cases wholeMultiple pixels y with
  | error e => exact iff_of_false (by rintro ⟨part, ⟨⟩⟩) (by rintro ⟨part, ⟨⟩⟩)
  | ok part => exact iff_of_true ⟨f part, rfl⟩ ⟨part, rfl⟩

theorem wholeMultiple_eq (number : ofInt? pixels = some x) (finite : (x.mul y).IsFinite)
    (notNegative : 0 ≤ pixels) (positive : y.isNegative = false) :
    wholeMultiple pixels y = .ok ((x.mul y).units / unitsPerOne : Nat) := by
  obtain ⟨hx, hfinite⟩ := eq_nearest_of_ofInt? number
  have hy := hfinite.of_mul finite
  have hsign : (x.mul y).isNegative = false := by
    rw [mul_eq_nearest hfinite hy, isNegative_nearest, positive, hx, isNegative_nearest]
    simpa using notNegative
  rw [wholeMultiple_of_number number, truncate_eq finite, hsign]
  rfl

variable {distance below : Int}

theorem isFinite_threeHalves : (ofRatio false 3 2).IsFinite := by
  decide +kernel

theorem isNegative_threeHalves : (ofRatio false 3 2).isNegative = false := by
  decide +kernel

theorem units_threeHalves : 2 * (ofRatio false 3 2).units = 3 * unitsPerOne := by
  decide +kernel

theorem mul_threeHalves_div (x : Binary64) :
    x.units * (ofRatio false 3 2).units / unitsPerOne = 3 * x.units / 2 := by
  rw [← Nat.mul_div_mul_left _ _ Nat.two_pos, Nat.mul_left_comm, units_threeHalves, ← Nat.mul_assoc,
    Nat.mul_div_mul_right _ _ unitsPerOne_pos, Nat.mul_comm]

/-- One and a half times a distance is exact, but for the fraction, as long as three times the distance
is. -/
theorem Scene.oneAndHalf_of_small (notNegative : 0 ≤ distance) (small : 3 * distance < 2 ^ 53) :
    oneAndHalf distance = .ok (3 * distance / 2) := by
  have hbeyond := two_pow_le_firstBeyond
  obtain ⟨x, number, hx, hunits⟩ := exists_ofInt?_of_small (show distance.natAbs < 2 ^ 53 by omega)
  obtain ⟨k, hk⟩ := exists_unitsPerOne_eq
  have hproduct : x.units * (ofRatio false 3 2).units =
      unitsPerOne * (3 * distance.natAbs * 2 ^ k) := by
    have htwice : 2 * (x.units * (ofRatio false 3 2).units) =
        2 * (unitsPerOne * (3 * distance.natAbs * 2 ^ k)) := by
      rw [Nat.mul_left_comm, units_threeHalves, hunits, hk, Nat.pow_succ]
      ring
    omega
  have hfinite : (x.mul (ofRatio false 3 2)).IsFinite := by
    refine (isFinite_mul_iff hx).2 ⟨isFinite_threeHalves, ?_⟩
    rw [hproduct]
    apply Nat.mul_lt_mul_of_pos_left _ unitsPerOne_pos
    rw [hk]
    calc
      3 * distance.natAbs * 2 ^ k < firstBeyond * 2 ^ k :=
        Nat.mul_lt_mul_of_pos_right (by omega) (Nat.two_pow_pos k)
      _ ≤ firstBeyond * 2 ^ (k + 1) :=
        Nat.mul_le_mul_left _ (Nat.pow_le_pow_right Nat.two_pos (Nat.le_succ k))
  have hwhole : ((3 * distance.natAbs / 2 : Nat) : Int) = 3 * distance / 2 := by omega
  rw [oneAndHalf, wholeMultiple_eq number hfinite notNegative isNegative_threeHalves,
    units_mul_of_mul hx hfinite (by omega) hproduct, hk, Nat.pow_succ, Nat.mul_comm _ (2 ^ k),
    Nat.mul_div_mul_left _ _ (Nat.two_pow_pos k), hwhole]

/-- One and a half times a distance is not less than it, however it is rounded. -/
theorem Scene.le_of_oneAndHalf (notNegative : 0 ≤ distance) (h : oneAndHalf distance = .ok below) :
    distance ≤ below := by
  rw [oneAndHalf] at h
  obtain ⟨x, number, hfinite⟩ := exists_wholeMultiple_iff.1 ⟨below, h⟩
  rw [wholeMultiple_eq number hfinite notNegative isNegative_threeHalves] at h
  have hbelow := Except.ok.inj h
  obtain ⟨-, hx⟩ := eq_nearest_of_ofInt? number
  have hunits := le_units_of_ofInt? number
  have hproduct := le_units_mul hx hfinite
  rw [mul_threeHalves_div] at hproduct
  have hle : distance.natAbs ≤ (x.mul (ofRatio false 3 2)).units / unitsPerOne := by
    rw [Nat.le_div_iff_mul_le unitsPerOne_pos]
    generalize distance.natAbs * unitsPerOne = a at hunits ⊢
    omega
  omega

end VisualNovel
