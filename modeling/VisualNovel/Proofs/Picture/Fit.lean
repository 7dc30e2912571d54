import VisualNovel.Proofs.Picture.Multiple
import VisualNovel.Proofs.Session.Action

/-!
# Shrinking a font

A font of more than eight pixels shrinks to a smaller one of at least eight, whatever its size, so the
sizes that a font goes through are a strictly falling list that ends at eight. The size that is taken
is the first one of the list at which the text is low enough, and the last one if there is none.
-/
namespace VisualNovel.Fit

open VisualNovel.Number
open VisualNovel.Number.Binary64

variable {size next : Int} {x : Binary64} {sizes : List Int}

theorem isFinite_factor : factor.IsFinite := by
  decide +kernel

theorem isNegative_factor : factor.isNegative = false := by
  decide +kernel

-- One of the five hundredths is left for the rounding of the factor and one for that of the product.
theorem units_factor_le : 100 * factor.units ≤ 96 * unitsPerOne := by
  decide +kernel

theorem le_unitsPerOne : 1000 ≤ unitsPerOne := by
  decide +kernel

/-- A number times the factor is smaller than it, but for the rounding. -/
theorem mul_factor (hx : x.IsFinite) :
    (x.mul factor).IsFinite ∧ 100 * (x.mul factor).units ≤ 97 * x.units + 100 := by
  have hle : x.units * factor.units ≤ x.units * unitsPerOne := by
    have := units_factor_le
    exact Nat.mul_le_mul_left _ (by omega)
  have hfinite : (x.mul factor).IsFinite := by
    refine (isFinite_mul_iff hx).2 ⟨isFinite_factor, ?_⟩
    calc
      x.units * factor.units ≤ x.units * unitsPerOne := hle
      _ < firstBeyond * unitsPerOne * unitsPerOne :=
        Nat.mul_lt_mul_of_pos_right hx.units_lt unitsPerOne_pos
      _ = unitsPerOne * (firstBeyond * unitsPerOne) := Nat.mul_comm _ _
  have hquotient : 100 * (x.units * factor.units / unitsPerOne) ≤ 96 * x.units := by
    apply Nat.le_of_mul_le_mul_right _ unitsPerOne_pos
    calc
      100 * (x.units * factor.units / unitsPerOne) * unitsPerOne ≤
          100 * (x.units * factor.units) := by
        rw [Nat.mul_assoc]
        exact Nat.mul_le_mul_left _ (Nat.div_mul_le_self _ _)
      _ = x.units * (100 * factor.units) := Nat.mul_left_comm _ _ _
      _ ≤ x.units * (96 * unitsPerOne) := Nat.mul_le_mul_left _ units_factor_le
      _ = 96 * x.units * unitsPerOne := by ring
  have hunits := units_mul_le hx hfinite
  refine ⟨hfinite, ?_⟩
  generalize x.units * factor.units / unitsPerOne = q at hquotient hunits
  omega

/-- A size of more than eight shrinks: the rounding does not make up for the five hundredths that are
taken away. -/
theorem exists_shrink (number : ofInt? size = some x) (h : least < size) :
    ∃ next, shrink size = .ok next ∧ least ≤ next ∧ next < size := by
  rw [least] at h
  obtain ⟨hx, hfinite⟩ := eq_nearest_of_ofInt? number
  obtain ⟨hproduct, hunits⟩ := mul_factor hfinite
  have hnear := units_le_of_ofInt? number
  have hone := le_unitsPerOne
  have hsize : 9 * unitsPerOne ≤ size.natAbs * unitsPerOne := Nat.mul_le_mul_right _ (by omega)
  have hsmaller : (x.mul factor).units / unitsPerOne < size.natAbs := by
    rw [Nat.div_lt_iff_lt_mul unitsPerOne_pos]
    omega
  have hshrink : shrink size = .ok (max least ((x.mul factor).units / unitsPerOne : Nat)) := by
    rw [shrink, wholeMultiple_eq number hproduct (by omega) isNegative_factor]
    rfl
  refine ⟨_, hshrink, Int.le_max_left _ _, ?_⟩
  rw [least]
  omega

theorem shrink_lt (large : least < size) (h : shrink size = .ok next) : next < size := by
  have hshrinks : ∃ next, shrink size = .ok next := ⟨next, h⟩
  rw [shrink, exists_map_wholeMultiple_iff] at hshrinks
  obtain ⟨x, number, -⟩ := hshrinks
  obtain ⟨smaller, hshrink, -, hlt⟩ := exists_shrink number large
  rw [h] at hshrink
  cases hshrink
  exact hlt

/-- The size that is taken fits, unless it does not shrink any more. -/
theorem fits_of_sizeFrom {size : Int} {fits : Int → Bool}
    (h : sizeFrom shrink fits size = .ok next) (large : least < next) : fits next = true := by
  rw [sizeFrom] at h
  by_cases hfits : fits size = true
  · rw [if_pos hfits] at h
    cases h
    exact hfits
  · rw [if_neg hfits] at h
    by_cases hsmall : size ≤ least
    · rw [dif_pos hsmall] at h
      cases h
      exact absurd large (Int.not_lt.2 hsmall)
    · rw [dif_neg hsmall] at h
      cases hshrink : shrink size with
      | error e =>
        rw [hshrink] at h
        cases h
      | ok smaller =>
        have hlt := shrink_lt (Int.not_le.1 hsmall) hshrink
        simp only [hshrink, dif_pos hlt] at h
        have := toNat_lt_of_least hsmall hlt
        exact fits_of_sizeFrom h large
termination_by size.toNat

/-- The lines of a text that is set are those of its font, and they are low enough unless the font has
eight pixels or less. -/
theorem lines_of_fit {path : Option String} {text : String} {boxWidth boxHeight : Int} {font : Font}
    {lines : List String} (h : fit path text boxWidth boxHeight size = .ok (font, lines)) :
    font.path = path ∧ lines = font.wrap text boxWidth ∧
      (least < font.pixels → lines.length * font.lineHeight ≤ boxHeight) := by
  rw [fit] at h
  obtain ⟨pixels, hsize, hpair⟩ := exists_of_bind h
  obtain ⟨rfl, rfl⟩ := Prod.mk.inj (Except.ok.inj hpair)
  refine ⟨rfl, rfl, fun large => ?_⟩
  exact of_decide_eq_true (fits_of_sizeFrom hsize large)

/-- The sizes that a font goes through from a given one on: each is followed by the next smaller one,
and one of at most eight pixels is the last. -/
inductive Descends : Int → List Int → Prop where
  | least {size : Int} (small : size ≤ least) : Descends size [size]
  | step {size next : Int} {sizes : List Int} (large : least < size)
      (shrunk : shrink size = .ok next) (rest : Descends next sizes) :
      Descends size (size :: sizes)

theorem number_of_shrink (number : ∃ x, ofInt? size = some x) (h : least ≤ next)
    (smaller : next < size) : ∃ x, ofInt? next = some x := by
  rw [exists_ofInt?_iff] at number ⊢
  rw [least] at h
  omega

theorem exists_descends {size : Int} (number : ∃ x, ofInt? size = some x) : ∃ sizes, Descends size sizes := by
  by_cases hsmall : size ≤ least
  · exact ⟨_, .least hsmall⟩
  · have hlarge : least < size := Int.not_le.1 hsmall
    obtain ⟨x, hx⟩ := number
    obtain ⟨next, hshrink, hle, hlt⟩ := exists_shrink hx hlarge
    have := toNat_lt_of_least hsmall hlt
    obtain ⟨sizes, hsizes⟩ := exists_descends (number_of_shrink ⟨x, hx⟩ hle hlt)
    exact ⟨_, .step hlarge hshrink hsizes⟩
termination_by size.toNat

theorem Descends.exists_eq_cons (h : Descends size sizes) : ∃ smaller, sizes = size :: smaller := by
  cases h <;> exact ⟨_, rfl⟩

theorem Descends.unique {sizes' : List Int} (h : Descends size sizes) (h' : Descends size sizes') :
    sizes = sizes' := by
  induction h generalizing sizes' with
  | least small =>
    cases h' with
    | least => rfl
    | step large => exact absurd large (Int.not_lt.2 small)
  | step large shrunk rest ih =>
    cases h' with
    | least small => exact absurd large (Int.not_lt.2 small)
    | step _ shrunk' rest' =>
      rw [shrunk] at shrunk'
      cases shrunk'
      rw [ih rest']

theorem Descends.isChain (h : Descends size sizes) (number : ∃ x, ofInt? size = some x) :
    sizes.IsChain (· > ·) := by
  induction h with
  | least small => exact .singleton _
  | step large shrunk rest ih =>
    obtain ⟨x, hx⟩ := number
    obtain ⟨next, hshrink, hle, hlt⟩ := exists_shrink hx large
    rw [shrunk] at hshrink
    cases hshrink
    have hrest := ih (number_of_shrink ⟨x, hx⟩ hle hlt)
    obtain ⟨smaller, rfl⟩ := rest.exists_eq_cons
    exact .cons_cons hlt hrest

theorem Descends.getLast?_eq (h : Descends size sizes) (number : ∃ x, ofInt? size = some x) :
    sizes.getLast? = some (min size Fit.least) := by
  induction h with
  | least small => rw [List.getLast?_singleton, Int.min_eq_left small]
  | step large shrunk rest ih =>
    obtain ⟨x, hx⟩ := number
    obtain ⟨next, hshrink, hle, hlt⟩ := exists_shrink hx large
    rw [shrunk] at hshrink
    cases hshrink
    have hlast := ih (number_of_shrink ⟨x, hx⟩ hle hlt)
    rw [List.getLast?_cons, hlast, Option.getD_some, Int.min_eq_right hle,
      Int.min_eq_right (Int.le_of_lt large)]

/-- The size that is taken is the first one of the list that fits, or else the last one. -/
theorem Descends.sizeFrom_eq (h : Descends size sizes) (number : ∃ x, ofInt? size = some x)
    (fits : Int → Bool) :
    sizeFrom shrink fits size = .ok ((sizes.find? fits).getD (min size Fit.least)) := by
  induction h with
  | @least size small =>
    rw [sizeFrom, List.find?_singleton]
    by_cases hfits : fits size = true
    · rw [if_pos hfits, if_pos hfits, Option.getD_some]
    · rw [if_neg hfits, dif_pos small, if_neg hfits, Option.getD_none, Int.min_eq_left small]
  | @step size next sizes large shrunk rest ih =>
    obtain ⟨x, hx⟩ := number
    obtain ⟨smaller, hshrink, hle, hlt⟩ := exists_shrink hx large
    rw [shrunk] at hshrink
    cases hshrink
    rw [sizeFrom, List.find?_cons]
    by_cases hfits : fits size = true
    · rw [if_pos hfits, hfits]
      rfl
    · have hrest := ih (number_of_shrink ⟨x, hx⟩ hle hlt)
      rw [Int.min_eq_right hle] at hrest
      rw [if_neg hfits, dif_neg (Int.not_le.2 large), shrunk, Bool.eq_false_iff.2 hfits]
      simp only [dif_pos hlt]
      rw [hrest, Int.min_eq_right (Int.le_of_lt large)]

/-- Every text can be set. -/
theorem exists_fit (number : ∃ x, ofInt? size = some x) (path : Option String) (text : String)
    (boxWidth boxHeight : Int) :
    ∃ font lines, fit path text boxWidth boxHeight size = .ok (font, lines) := by
  obtain ⟨sizes, hsizes⟩ := exists_descends number
  rw [fit, hsizes.sizeFrom_eq number]
  exact ⟨_, _, rfl⟩

/-- A font shrinks through strictly falling sizes that end at eight, or it does not shrink; a text is
set in the first of these sizes in which it is low enough, and in the last one if there is none. -/
theorem fit_first_low (number : ∃ x, ofInt? size = some x) :
    ∃ sizes, Descends size sizes ∧ sizes.IsChain (· > ·) ∧
      sizes.getLast? = some (min size least) ∧
      ∀ path text boxWidth boxHeight,
        let low (pixels : Int) : Bool := isLow ⟨path, pixels⟩ text boxWidth boxHeight
        let font : Font := ⟨path, (sizes.find? low).getD (min size least)⟩
        fit path text boxWidth boxHeight size = .ok (font, font.wrap text boxWidth) := by
  obtain ⟨sizes, hsizes⟩ := exists_descends number
  refine ⟨sizes, hsizes, hsizes.isChain number, hsizes.getLast?_eq number, ?_⟩
  intro path text boxWidth boxHeight low font
  rw [fit, hsizes.sizeFrom_eq number]
  rfl

/-- At twelve pixels the words take four lines, at eleven and ten two lines that are too high. -/
theorem fit_first_low_shrunk :
    (∃ x, ofInt? 12 = some x) ∧ Descends 12 [12, 11, 10, 9, 8] ∧
      fit none "aa bb cc dd" 28 21 12 = .ok (⟨none, 9⟩, ["aa bb", "cc dd"]) := by
  have number : ∃ x, ofInt? 12 = some x := exists_ofInt?_iff.2 (by decide +kernel)
  have hlist : Descends 12 [12, 11, 10, 9, 8] :=
    .step (by decide) (by decide +kernel) (.step (by decide) (by decide +kernel)
      (.step (by decide) (by decide +kernel) (.step (by decide) (by decide +kernel)
        (.least (by decide)))))
  obtain ⟨sizes, hsizes, -, -, hfit⟩ := fit_first_low number
  obtain rfl := hsizes.unique hlist
  refine ⟨number, hlist, (hfit none "aa bb cc dd" 28 21).trans ?_⟩
  decide

end VisualNovel.Fit
