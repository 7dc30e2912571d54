/-!
# Fields

Cutting a text at a separator character. `splitAll` keeps empty fields, so a text with `n`
separators has `n + 1` fields and joining the fields with the separator gives the text back.
-/
namespace VisualNovel.Text

/-- The fields between the separators, empty ones included. -/
def splitAll (sep : Char) : List Char → List (List Char)
  | [] => [[]]
  | c :: r =>
    if c = sep then [] :: splitAll sep r
    else
      match splitAll sep r with
      | [] => [[c]]
      | f :: fs => (c :: f) :: fs

theorem splitAll_ne_nil (sep : Char) (s : List Char) : splitAll sep s ≠ [] := by
  cases s with
  | nil => simp [splitAll]
  | cons c r =>
    simp only [splitAll]
    split
    · simp
    · split <;> simp

theorem splitAll_cons_sep (sep : Char) (r : List Char) :
    splitAll sep (sep :: r) = [] :: splitAll sep r := by
  simp [splitAll]

theorem splitAll_cons_of_ne {sep c : Char} (h : c ≠ sep) (r : List Char) :
    ∃ f fs, splitAll sep r = f :: fs ∧ splitAll sep (c :: r) = (c :: f) :: fs := by
  cases hs : splitAll sep r with
  | nil => exact absurd hs (splitAll_ne_nil sep r)
  | cons f fs => exact ⟨f, fs, rfl, by simp [splitAll, h, hs]⟩

theorem intercalate_splitAll (sep : Char) (s : List Char) :
    [sep].intercalate (splitAll sep s) = s := by
  induction s with
  | nil => rfl
  | cons c r ih =>
    by_cases h : c = sep
    · subst h
      rw [splitAll_cons_sep]
      cases hs : splitAll c r with
      | nil => exact absurd hs (splitAll_ne_nil c r)
      | cons f fs =>
        rw [hs] at ih
        simpa [List.intercalate] using ih
    · obtain ⟨f, fs, hr, hc⟩ := splitAll_cons_of_ne h r
      rw [hc]
      rw [hr] at ih
      cases fs <;> simp_all [List.intercalate]

theorem not_mem_of_mem_splitAll {sep : Char} {s f : List Char} (h : f ∈ splitAll sep s) :
    sep ∉ f := by
  induction s generalizing f with
  | nil => simp_all [splitAll]
  | cons c r ih =>
    by_cases hc : c = sep
    · subst hc
      rw [splitAll_cons_sep, List.mem_cons] at h
      rcases h with rfl | h
      · simp
      · exact ih h
    · obtain ⟨g, gs, hr, hs⟩ := splitAll_cons_of_ne hc r
      rw [hs, List.mem_cons] at h
      rcases h with rfl | h
      · have := ih (f := g) (by simp [hr])
        simp [this, Ne.symm hc]
      · exact ih (by simp [hr, h])

/-- Cuts at the first separator: what stands before it and what stands after it. -/
def splitFirst (sep : Char) : List Char → Option (List Char × List Char)
  | [] => none
  | c :: r => if c = sep then some ([], r) else (splitFirst sep r).map fun (a, b) => (c :: a, b)

/-- There is a first separator exactly if the text holds one, and the parts put around it give the
text back. -/
theorem splitFirst_eq_some_iff {sep : Char} {s a b : List Char} :
    splitFirst sep s = some (a, b) ↔ sep ∉ a ∧ s = a ++ sep :: b := by
  induction s generalizing a with
  | nil => simp [splitFirst]
  | cons c r ih =>
    by_cases h : c = sep
    · subst h
      cases a with
      | nil => simp [splitFirst, eq_comm]
      | cons d a =>
        simp [splitFirst]
        intro h1 h2 h3
        exact absurd h3 h1
    · cases a with
      | nil => simp [splitFirst, h]
      | cons d a =>
        simp only [splitFirst, h, if_false, Option.map_eq_some_iff]
        constructor
        · rintro ⟨⟨x, y⟩, hx, heq⟩
          simp only [Prod.mk.injEq, List.cons.injEq] at heq
          obtain ⟨⟨rfl, rfl⟩, rfl⟩ := heq
          obtain ⟨hn, rfl⟩ := ih.1 hx
          exact ⟨by simp [hn, Ne.symm h], rfl⟩
        · rintro ⟨hn, heq⟩
          simp only [List.cons_append, List.cons.injEq] at heq
          obtain ⟨rfl, rfl⟩ := heq
          refine ⟨(a, b), ih.2 ⟨by simp_all, rfl⟩, rfl⟩

theorem splitFirst_eq_none_iff {sep : Char} {s : List Char} :
    splitFirst sep s = none ↔ sep ∉ s := by
  induction s with
  | nil => simp [splitFirst]
  | cons c r ih =>
    by_cases h : c = sep
    · simp [splitFirst, h]
    · simp [splitFirst, h, ih, Ne.symm h]

/-- Cuts at the last separator: what stands before it and what stands after it. -/
def splitLast (sep : Char) : List Char → Option (List Char × List Char)
  | [] => none
  | c :: r =>
    match splitLast sep r with
    | some (a, b) => some (c :: a, b)
    | none => if c = sep then some ([], r) else none

theorem splitLast_eq_none_iff {sep : Char} {s : List Char} :
    splitLast sep s = none ↔ sep ∉ s := by
  induction s with
  | nil => simp [splitLast]
  | cons c r ih =>
    cases hr : splitLast sep r with
    | none =>
      by_cases h : c = sep
      · simp [splitLast, hr, h]
      · simp [splitLast, hr, h, ih.1 hr, Ne.symm h]
    | some p =>
      have : sep ∈ r := by
        by_cases h : sep ∈ r
        · exact h
        · rw [ih.2 h] at hr
          cases hr
      simp [splitLast, hr, this]

/-- There is a last separator exactly if the text holds one. -/
theorem splitLast_eq_some_iff {sep : Char} {s a b : List Char} :
    splitLast sep s = some (a, b) ↔ sep ∉ b ∧ s = a ++ sep :: b := by
  induction s generalizing a b with
  | nil => simp [splitLast]
  | cons c r ih =>
    cases hr : splitLast sep r with
    | none =>
      have hn := splitLast_eq_none_iff.1 hr
      cases a with
      | nil =>
        by_cases h : c = sep
        · subst h
          simp only [splitLast, hr, if_true, List.nil_append, List.cons.injEq, true_and,
            Option.some.injEq, Prod.mk.injEq]
          constructor
          · rintro rfl
            exact ⟨hn, rfl⟩
          · rintro ⟨-, h⟩
            exact h
        · simp [splitLast, hr, h]
      | cons d a =>
        have : r ≠ a ++ sep :: b := by
          rintro rfl
          simp at hn
        by_cases h : c = sep <;> simp [splitLast, hr, h, this]
    | some p =>
      obtain ⟨x, y⟩ := p
      obtain ⟨hy, hxy⟩ := ih.1 hr
      cases a with
      | nil =>
        simp only [splitLast, hr, Option.some.injEq, Prod.mk.injEq, reduceCtorEq, false_and,
          List.nil_append, List.cons.injEq, false_iff, not_and]
        rintro hb rfl rfl
        simp [hxy] at hb
      | cons d a =>
        simp only [splitLast, hr, Option.some.injEq, Prod.mk.injEq, List.cons.injEq,
          List.cons_append]
        constructor
        · rintro ⟨⟨rfl, rfl⟩, rfl⟩
          exact ⟨hy, rfl, hxy⟩
        · rintro ⟨hb, rfl, hr'⟩
          have := ih.2 ⟨hb, hr'⟩
          rw [hr] at this
          simp only [Option.some.injEq, Prod.mk.injEq] at this
          simp [this]

def fields (sep : Char) (s : String) : List String :=
  (splitAll sep s.toList).map String.ofList

end VisualNovel.Text
