import VisualNovel.Text.Blank

/-!
# Trimmed texts

A text is trimmed exactly if neither of its ends is blank, so that trimming a text once more changes
nothing.
-/
namespace VisualNovel.Text

theorem isPrefix_dropEndWhile {α : Type} (p : α → Bool) (s : List α) : dropEndWhile p s <+: s := by
  obtain ⟨t, hs, -⟩ := exists_eq_dropEndWhile_append p s
  exact ⟨t, hs.symm⟩

theorem dropEndWhile_eq_self_iff {α : Type} {p : α → Bool} {s : List α} :
    dropEndWhile p s = s ↔ ∀ c, s.getLast? = some c → p c = false := by
  constructor
  · intro h c hc
    rw [← h] at hc
    exact not_of_mem_getLast?_dropEndWhile hc
  · intro h
    obtain rfl | ⟨t, c, rfl⟩ := List.eq_nil_or_concat s
    · rfl
    · rw [List.concat_eq_append] at h ⊢
      rw [dropEndWhile_append_singleton, h c (by simp)]
      rfl

variable {p : Char → Bool} {s : List Char}

theorem mem_of_mem_stripWhile {c : Char} (h : c ∈ stripWhile p s) : c ∈ s :=
  (List.dropWhile_sublist p).subset ((isPrefix_dropEndWhile p _).subset h)

/-- What is stripped does not begin with a character that would be removed. -/
theorem not_of_head?_stripWhile {c : Char} (h : (stripWhile p s).head? = some c) : p c = false := by
  have hhead : (s.dropWhile p).head? = some c := by
    obtain ⟨t, ht⟩ := isPrefix_dropEndWhile p (s.dropWhile p)
    rw [← ht, List.head?_append, show (dropEndWhile p (s.dropWhile p)).head? = some c from h]
    rfl
  have hnot := List.head?_dropWhile_not p s
  rw [hhead] at hnot
  simpa using hnot

theorem head?_stripWhile {c : Char} (h : s.head? = some c) (hc : p c = false) :
    (stripWhile p s).head? = some c := by
  obtain ⟨r, rfl⟩ := List.head?_eq_some_iff.1 h
  rw [stripWhile, List.dropWhile_cons_of_neg (by simp [hc]), dropEndWhile]
  cases dropEndWhile p r <;> simp [hc]

/-- What a text begins with decides its first character behind those that would be removed. -/
theorem head?_dropWhile_append {c : Char} (h : (stripWhile p s).head? = some c) (t : List Char) :
    ((s ++ t).dropWhile p).head? = some c := by
  obtain ⟨u, hu⟩ := isPrefix_dropEndWhile p (s.dropWhile p)
  obtain ⟨r, hr⟩ := List.head?_eq_some_iff.1 h
  rw [show dropEndWhile p (s.dropWhile p) = c :: r from hr] at hu
  rw [List.dropWhile_append, ← hu]
  simp

theorem stripWhile_eq_self_iff :
    stripWhile p s = s ↔
      (∀ c, s.head? = some c → p c = false) ∧ ∀ c, s.getLast? = some c → p c = false := by
  constructor
  · intro h
    rw [← h]
    exact ⟨fun c hc => not_of_head?_stripWhile hc, fun c hc => not_of_mem_getLast?_dropEndWhile hc⟩
  · rintro ⟨hhead, hlast⟩
    have hkeep : s.dropWhile p = s := by
      cases s with
      | nil => rfl
      | cons c r => exact List.dropWhile_cons_of_neg (by simp [hhead c rfl])
    rw [stripWhile, hkeep, dropEndWhile_eq_self_iff]
    exact hlast

theorem stripWhile_stripWhile (p : Char → Bool) (s : List Char) :
    stripWhile p (stripWhile p s) = stripWhile p s :=
  stripWhile_eq_self_iff.2
    ⟨fun _ h => not_of_head?_stripWhile h, fun _ h => not_of_mem_getLast?_dropEndWhile h⟩

/-- What is stripped stands between two runs of characters that are removed. -/
theorem exists_eq_stripWhile (p : Char → Bool) (s : List Char) :
    ∃ lead trail, s = lead ++ (stripWhile p s ++ trail) ∧ (∀ c ∈ lead, p c = true) ∧
      ∀ c ∈ trail, p c = true := by
  obtain ⟨trail, hs, htrail⟩ := exists_eq_dropEndWhile_append p (s.dropWhile p)
  refine ⟨s.takeWhile p, trail, ?_, List.all_eq_true.1 List.all_takeWhile, htrail⟩
  rw [stripWhile, ← hs, List.takeWhile_append_dropWhile]

theorem dropEndWhile_eq_nil {α : Type} {p : α → Bool} {s : List α} (h : ∀ c ∈ s, p c = true) :
    dropEndWhile p s = [] := by
  induction s with
  | nil => rfl
  | cons c r ih =>
    rw [List.forall_mem_cons] at h
    simp only [dropEndWhile, ih h.2, h.1, if_true]

theorem dropEndWhile_append_cons {α : Type} {p : α → Bool} {c : α} (hc : p c = false)
    (a b : List α) : dropEndWhile p (a ++ c :: b) = a ++ c :: dropEndWhile p b := by
  induction a with
  | nil =>
    simp only [List.nil_append, dropEndWhile, hc, Bool.false_eq_true, if_false]
    cases dropEndWhile p b <;> rfl
  | cons d a ih =>
    rw [List.cons_append, dropEndWhile, ih]
    cases a <;> rfl

/-- Stripping works on both sides of a character that would not be removed. -/
theorem stripWhile_append_cons {c : Char} (hc : p c = false) (a b : List Char) :
    stripWhile p (a ++ c :: b) = a.dropWhile p ++ c :: dropEndWhile p b := by
  have hfront : (a ++ c :: b).dropWhile p = a.dropWhile p ++ c :: b := by
    rw [List.dropWhile_append]
    split
    · rename_i hempty
      rw [List.isEmpty_iff.1 hempty, List.dropWhile_cons_of_neg (by simp [hc])]
      rfl
    · rfl
  rw [stripWhile, hfront, dropEndWhile_append_cons hc]

theorem dropEndWhile_append {α : Type} {p : α → Bool} {trail : List α}
    (h : ∀ c ∈ trail, p c = true) (s : List α) :
    dropEndWhile p (s ++ trail) = dropEndWhile p s := by
  induction s with
  | nil => exact dropEndWhile_eq_nil h
  | cons c r ih => simp only [List.cons_append, dropEndWhile, ih]

/-- What would be removed at the ends of a text is of no account around it. -/
theorem stripWhile_append {lead trail : List Char} (hlead : ∀ c ∈ lead, p c = true)
    (htrail : ∀ c ∈ trail, p c = true) (s : List Char) :
    stripWhile p (lead ++ (s ++ trail)) = stripWhile p s := by
  rw [stripWhile, List.dropWhile_append_of_pos hlead, List.dropWhile_append]
  split
  · rename_i hempty
    have hs : s.dropWhile p = [] := List.isEmpty_iff.1 hempty
    have hdropped : trail.dropWhile p = [] := by
      rw [← List.append_nil trail, List.dropWhile_append_of_pos htrail, List.dropWhile_nil]
    rw [stripWhile, hs, hdropped]
  · rw [dropEndWhile_append htrail, stripWhile]

theorem trim_eq_self_iff {s : String} : trim s = s ↔ trimChars s.toList = s.toList := by
  rw [trim, ← String.toList_inj, String.toList_ofList]

end VisualNovel.Text
