import VisualNovel.Text.Field

/-!
# Fields of joined texts

Cutting a text at a separator and joining fields with it are inverse to each other on fields that do
not hold the separator.
-/
namespace VisualNovel.Text

theorem splitAll_append_cons (sep : Char) (a b : List Char) :
    splitAll sep (a ++ sep :: b) = splitAll sep a ++ splitAll sep b := by
  induction a with
  | nil => rw [List.nil_append, splitAll_cons_sep, splitAll, List.cons_append, List.nil_append]
  | cons c a ih =>
    by_cases hc : c = sep
    · subst hc
      rw [List.cons_append, splitAll_cons_sep, splitAll_cons_sep, ih, List.cons_append]
    · obtain ⟨f, fs, ha, hca⟩ := splitAll_cons_of_ne hc a
      obtain ⟨g, gs, hb, hcb⟩ := splitAll_cons_of_ne hc (a ++ sep :: b)
      rw [ih, ha, List.cons_append, List.cons.injEq] at hb
      obtain ⟨rfl, rfl⟩ := hb
      rw [List.cons_append, hcb, hca, List.cons_append]

theorem splitAll_of_not_mem {sep : Char} {a : List Char} (h : sep ∉ a) : splitAll sep a = [a] := by
  induction a with
  | nil => rfl
  | cons c a ih =>
    rw [List.mem_cons, not_or] at h
    obtain ⟨f, fs, ha, hca⟩ := splitAll_cons_of_ne (Ne.symm h.1) a
    rw [ih h.2, List.cons.injEq] at ha
    obtain ⟨rfl, rfl⟩ := ha
    exact hca

theorem splitAll_intercalate {sep : Char} {fs : List (List Char)} (h : ∀ f ∈ fs, sep ∉ f)
    (some : fs ≠ []) : splitAll sep ([sep].intercalate fs) = fs := by
  induction fs with
  | nil => exact absurd rfl some
  | cons f fs ih =>
    have hf : splitAll sep f = [f] := splitAll_of_not_mem (h f List.mem_cons_self)
    by_cases hfs : fs = []
    · subst hfs
      simpa [List.intercalate] using hf
    · rw [List.intercalate_cons_of_ne_nil hfs, List.append_assoc, List.singleton_append,
        splitAll_append_cons, hf, ih (fun g hg => h g (List.mem_cons_of_mem _ hg)) hfs,
        List.singleton_append]

/-- The fields of a text are the only ones without the separator that are the text when joined. -/
theorem splitAll_eq_iff {sep : Char} {s : List Char} {fs : List (List Char)} :
    splitAll sep s = fs ↔ fs ≠ [] ∧ (∀ f ∈ fs, sep ∉ f) ∧ [sep].intercalate fs = s := by
  constructor
  · rintro rfl
    exact ⟨splitAll_ne_nil sep s, fun f => not_mem_of_mem_splitAll, intercalate_splitAll sep s⟩
  · rintro ⟨some, apart, rfl⟩
    exact splitAll_intercalate apart some

theorem mem_of_mem_splitAll {sep c : Char} {s f : List Char} (h : f ∈ splitAll sep s)
    (hc : c ∈ f) : c ∈ s := by
  rw [← intercalate_splitAll sep s]
  generalize splitAll sep s = fs at h
  induction fs with
  | nil => cases h
  | cons g fs ih =>
    by_cases hfs : fs = []
    · subst hfs
      rw [List.mem_singleton.1 h] at hc
      simpa [List.intercalate] using hc
    · rw [List.intercalate_cons_of_ne_nil hfs, List.mem_append, List.mem_append]
      rcases List.mem_cons.1 h with rfl | h
      · exact Or.inl (Or.inl hc)
      · exact Or.inr (ih h)

/-- Characters that are no separators may be left out before the text is cut or after that. -/
theorem splitAll_filter {sep : Char} {p : Char → Bool} (h : p sep = true) (s : List Char) :
    splitAll sep (s.filter p) = (splitAll sep s).map (List.filter p) := by
  induction s with
  | nil => rfl
  | cons c r ih =>
    by_cases hc : c = sep
    · subst hc
      rw [List.filter_cons_of_pos h, splitAll_cons_sep, splitAll_cons_sep, ih]
      rfl
    · obtain ⟨f, fs, hr, hcr⟩ := splitAll_cons_of_ne hc r
      rw [hr, List.map_cons] at ih
      rw [hcr, List.map_cons]
      by_cases hp : p c = true
      · obtain ⟨g, gs, hkept, hall⟩ := splitAll_cons_of_ne hc (r.filter p)
        rw [ih, List.cons.injEq] at hkept
        obtain ⟨rfl, rfl⟩ := hkept
        rw [List.filter_cons_of_pos hp, hall, List.filter_cons_of_pos hp]
      · rw [List.filter_cons_of_neg hp, ih, List.filter_cons_of_neg hp]

/-- Of two different characters in a text, one stands in front of the other. -/
theorem append_cons_cases {c d : Char} {s t u v : List Char} (hne : c ≠ d)
    (h : s ++ c :: t = u ++ d :: v) :
    (∃ m, u = s ++ c :: m ∧ t = m ++ d :: v) ∨ ∃ m, s = u ++ d :: m ∧ v = m ++ c :: t := by
  rcases List.append_eq_append_iff.1 h with ⟨m, rfl, hm⟩ | ⟨m, rfl, hm⟩
  · rcases List.cons_eq_append_iff.1 hm with ⟨-, hcons⟩ | ⟨m, rfl, rfl⟩
    · exact absurd (List.cons.inj hcons).1.symm hne
    · exact Or.inl ⟨m, rfl, rfl⟩
  · rcases List.cons_eq_append_iff.1 hm with ⟨-, hcons⟩ | ⟨m, rfl, rfl⟩
    · exact absurd (List.cons.inj hcons).1 hne
    · exact Or.inr ⟨m, rfl, rfl⟩

theorem not_mem_of_mem_fields {sep : Char} {s f : String} (h : f ∈ fields sep s) :
    sep ∉ f.toList := by
  obtain ⟨g, hg, rfl⟩ := List.mem_map.1 h
  rw [String.toList_ofList]
  exact not_mem_of_mem_splitAll hg

theorem fields_append_cons (sep : Char) (a b : String) :
    fields sep (a ++ String.singleton sep ++ b) = fields sep a ++ fields sep b := by
  simp only [fields, String.toList_append, String.toList_singleton, List.append_assoc,
    List.singleton_append, splitAll_append_cons, List.map_append]

theorem fields_inj {sep : Char} {s t : String} (h : fields sep s = fields sep t) : s = t := by
  have hsplit : splitAll sep s.toList = splitAll sep t.toList := by
    refine (List.map_inj_right fun a b hab => ?_).1 h
    exact String.ofList_injective hab
  rw [← String.toList_inj, ← intercalate_splitAll sep s.toList, hsplit, intercalate_splitAll]

theorem fields_of_not_mem {sep : Char} {s : String} (h : sep ∉ s.toList) : fields sep s = [s] := by
  rw [fields, splitAll_of_not_mem h, List.map_singleton, String.ofList_toList]

end VisualNovel.Text
