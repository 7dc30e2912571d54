/-!
# Keyed lists

Lists of keys with values, where the first entry of a key counts. Looking a key up after a value was
replaced or an entry taken out gives the new value, nothing, or what was there before.
-/
namespace VisualNovel.Keyed

variable {α β : Type} [BEq α]

theorem map_replace_eq_self (key : α) (value : β) (entries : List (α × β))
    (h : (entries.any fun e => e.1 == key) = false) :
    (entries.map fun e => if e.1 == key then (key, value) else e) = entries := by
  rw [List.map_congr_left (g := id) fun e he => ?_, List.map_id]
  have := List.any_eq_false.1 h e he
  simp [this]

variable [LawfulBEq α]

theorem lookup_filter_ne (key other : α) (entries : List (α × β)) (h : other ≠ key) :
    (entries.filter fun e => e.1 != key).lookup other = entries.lookup other := by
  induction entries with
  | nil => rfl
  | cons e rest ih =>
    obtain ⟨k, v⟩ := e
    by_cases hk : k = key
    · subst hk
      have hb : (other == k) = false := by simpa using h
      simp [List.lookup_cons, hb, ih]
    · rw [List.filter_cons_of_pos (by simpa using hk), List.lookup_cons, List.lookup_cons, ih]

theorem lookup_map_replace (key other : α) (value : β) (entries : List (α × β))
    (h : (entries.any fun e => e.1 == key) = true) :
    (entries.map fun e => if e.1 == key then (key, value) else e).lookup other =
      if other == key then some value else entries.lookup other := by
  induction entries with
  | nil => simp at h
  | cons e rest ih =>
    obtain ⟨k, v⟩ := e
    by_cases hk : k = key
    · subst hk
      cases hr : rest.any fun e => e.1 == k with
      | true =>
        simp only [List.map_cons, BEq.rfl, if_true, List.lookup_cons, ih hr]
        cases other == k <;> simp
      | false =>
        rw [List.map_cons, map_replace_eq_self k value rest hr]
        simp only [BEq.rfl, if_true, List.lookup_cons]
        cases other == k <;> simp
    · have hb : (k == key) = false := by simpa using hk
      have hr : (rest.any fun e => e.1 == key) = true := by simpa [hb] using h
      simp only [List.map_cons, hb, Bool.false_eq_true, if_false, List.lookup_cons, ih hr]
      by_cases ho : other = key
      · have : (key == k) = false := by simpa using Ne.symm hk
        simp [ho, this]
      · simp [ho]

theorem lookup_eq_none_of_any (key : α) (entries : List (α × β))
    (h : (entries.any fun e => e.1 == key) = false) : entries.lookup key = none := by
  rw [List.lookup_eq_none_iff]
  intro e he
  have := List.any_eq_false.1 h e he
  simp only [beq_iff_eq] at this
  simpa using fun h => this h.symm

end VisualNovel.Keyed
