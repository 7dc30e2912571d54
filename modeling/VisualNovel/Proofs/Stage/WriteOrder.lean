import VisualNovel.Proofs.Stage.AttributeMap

/-!
# The order of two writes

A write is refused exactly if a text stands somewhere on the way to its own place or beyond it. Which
texts there are behind two writes to different places does not depend on their order, and neither does
whether one of them is refused.
-/
namespace VisualNovel.AttributeTree

variable {t u r : AttributeTree} {v w : Write} {p q : List String} {s : String}

/-- Two places of which one lies beyond the other. -/
def Nested (p q : List String) : Prop :=
  p ≠ q ∧ (p <+: q ∨ q <+: p)

theorem nested_comm : Nested p q ↔ Nested q p := by
  rw [Nested, Nested, ne_comm, or_comm]

/-- A text stands in the way of the write. -/
def Refuses (t : AttributeTree) (w : Write) : Prop :=
  ∃ p, (t.textAt? p).isSome = true ∧ Nested p w.target

/-- Two writes one after the other, if neither is refused. -/
def writeBoth (t : AttributeTree) (v w : Write) : Except AttributeConflict AttributeTree := do
  let u ← t.set v.path v.key v.value
  u.set w.path w.key w.value

theorem exists_follow?_of_textAt? (h : t.textAt? (p ++ q) = some s) (hq : q ≠ []) :
    ∃ c, t.follow? p = some (.tree c) := by
  induction p generalizing t with
  | nil => exact ⟨t, rfl⟩
  | cons k p ih =>
    rw [List.cons_append] at h
    cases hget : t.get? k with
    | none => simp [textAt?_cons_of_none hget] at h
    | some a =>
      cases a with
      | value v => simp [textAt?_cons_of_value hget, hq] at h
      | tree c =>
        rw [textAt?_cons_of_tree hget] at h
        rw [follow?_cons_of_tree hget]
        exact ih h

theorem textAt?_eq_none_of_follow? {c : AttributeTree} (h : t.follow? p = some (.tree c)) :
    t.textAt? p = none := by
  rw [textAt?, h]

/-- A write is refused exactly if a text stands in its way. -/
theorem exists_set_error_iff (ht : t.WellFormed) :
    (∃ cause, t.set w.path w.key w.value = .error cause) ↔ t.Refuses w := by
  constructor
  · rintro ⟨cause, hcause⟩
    have hconflicts := set_eq_error_iff.1 hcause
    cases cause with
    | valueOnPath p =>
      obtain ⟨-, hstart, s, hs⟩ := hconflicts
      refine ⟨p, by simp [hs], ?_, Or.inl (hstart.trans (List.prefix_append ..))⟩
      rintro rfl
      have hlength := hstart.length_le
      simp only [Write.target, List.length_append, List.length_singleton] at hlength
      omega
    | treeAtKey =>
      obtain ⟨c, hc⟩ : ∃ c, t.follow? w.target = some (.tree c) := hconflicts
      obtain ⟨q, s, hs⟩ := ht.exists_text_below (by simp [Write.target]) hc
      refine ⟨w.target ++ q, by simp [hs], ?_, Or.inr (List.prefix_append ..)⟩
      intro heq
      rw [heq, textAt?_eq_none_of_follow? hc] at hs
      cases hs
  · rintro ⟨p, hp, hne, hnested⟩
    obtain ⟨s, hs⟩ := Option.isSome_iff_exists.1 hp
    rcases hnested with hstart | ⟨q, rfl⟩
    · refine ⟨.valueOnPath p, set_eq_error_iff.2 ⟨?_, ?_, s, hs⟩⟩
      · rintro rfl
        cases hs
      · exact (List.prefix_concat_iff.1 hstart).resolve_left hne
    · have hq : q ≠ [] := by
        rintro rfl
        simp at hne
      exact ⟨.treeAtKey, set_eq_error_iff.2 (exists_follow?_of_textAt? hs hq)⟩

/-- Behind a write that is not refused, another one is refused if it was before or if its place lies
beyond that of the first or short of it. -/
theorem refuses_iff_of_set (h : t.set v.path v.key v.value = .ok u) :
    u.Refuses w ↔ t.Refuses w ∨ Nested v.target w.target := by
  have htext : ∀ p, (u.textAt? p).isSome = true ↔ p = v.target ∨ (t.textAt? p).isSome = true := by
    intro p
    have hset : u.textAt? p = if p = v.target then some v.value else t.textAt? p := textAt?_set h p
    rw [hset]
    split <;> simp [*]
  simp only [Refuses, htext]
  constructor
  · rintro ⟨p, rfl | hp, hnested⟩
    · exact Or.inr hnested
    · exact Or.inl ⟨p, hp, hnested⟩
  · rintro (⟨p, hp, hnested⟩ | hnested)
    · exact ⟨p, Or.inr hp, hnested⟩
    · exact ⟨v.target, Or.inl rfl, hnested⟩

theorem exists_of_writeBoth (h : t.writeBoth v w = .ok r) :
    ∃ u, t.set v.path v.key v.value = .ok u ∧ u.set w.path w.key w.value = .ok r := by
  rw [writeBoth] at h
  cases hv : t.set v.path v.key v.value with
  | error e => simp [hv, bind, Except.bind] at h
  | ok u => exact ⟨u, rfl, by simpa [hv, bind, Except.bind] using h⟩

/-- One of two writes is refused if one of them is refused on its own, or if the one has its place
beyond that of the other. -/
theorem exists_writeBoth_error_iff (ht : t.WellFormed) :
    (∃ e, t.writeBoth v w = .error e) ↔
      t.Refuses v ∨ t.Refuses w ∨ Nested v.target w.target := by
  rw [← exists_set_error_iff (w := v) ht, writeBoth]
  cases hv : t.set v.path v.key v.value with
  | error e => simp [bind, Except.bind]
  | ok u =>
    have hu : u.WellFormed := ht.set hv
    simp [bind, Except.bind, exists_set_error_iff hu, refuses_iff_of_set hv]

/-- Behind two writes there are the texts that they bring and those that were there before. -/
theorem textAt?_writeBoth (h : t.writeBoth v w = .ok r) (p : List String) :
    r.textAt? p =
      if p = w.target then some w.value else if p = v.target then some v.value else t.textAt? p := by
  obtain ⟨u, hv, hw⟩ := exists_of_writeBoth h
  rw [textAt?_set hw, textAt?_set hv]
  rfl

/-- Two writes to different places can be exchanged: either both orders succeed, with trees that are the
same, or both fail. -/
theorem writeBoth_comm (writes : List Write) (v w : Write) (apart : v.target ≠ w.target) :
    (∀ r, (build writes).writeBoth v w = .ok r →
      ∃ s, (build writes).writeBoth w v = .ok s ∧ r.same s = true) ∧
    ((∃ e, (build writes).writeBoth v w = .error e) ↔
      ∃ e, (build writes).writeBoth w v = .error e) := by
  have ht := wellFormed_build writes
  have hfails : (∃ e, (build writes).writeBoth v w = .error e) ↔
      ∃ e, (build writes).writeBoth w v = .error e := by
    rw [exists_writeBoth_error_iff ht, exists_writeBoth_error_iff ht, nested_comm, or_left_comm]
  refine ⟨fun r hr => ?_, hfails⟩
  cases hs : (build writes).writeBoth w v with
  | error e =>
    obtain ⟨f, hf⟩ := hfails.2 ⟨e, hs⟩
    rw [hr] at hf
    cases hf
  | ok s =>
    refine ⟨s, rfl, (same_iff_textAt? ?_ ?_).2 fun p => ?_⟩
    · obtain ⟨u, hv, hw⟩ := exists_of_writeBoth hr
      exact (ht.set hv).set hw
    · obtain ⟨u, hw, hv⟩ := exists_of_writeBoth hs
      exact (ht.set hw).set hv
    · rw [textAt?_writeBoth hr, textAt?_writeBoth hs]
      by_cases hp : p = w.target
      · simp [hp, apart.symm]
      · simp [hp]

/-- Two writes below a node that exists give trees whose entries stand in different orders. A text and a
tree at one place are refused in either order. -/
theorem writeBoth_comm_siblings :
    (Write.mk "a.b" "c" "1").target ≠ (Write.mk "a" "y" "2").target ∧
      (∃ r s, (build [⟨"a", "x", "0"⟩]).writeBoth ⟨"a.b", "c", "1"⟩ ⟨"a", "y", "2"⟩ = .ok r ∧
        (build [⟨"a", "x", "0"⟩]).writeBoth ⟨"a", "y", "2"⟩ ⟨"a.b", "c", "1"⟩ = .ok s ∧
        r ≠ s ∧ r.same s = true) ∧
      (build []).writeBoth ⟨"a", "b", "1"⟩ ⟨"a.b", "c", "2"⟩ = .error (.valueOnPath ["a", "b"]) ∧
      ∃ e, (build []).writeBoth ⟨"a.b", "c", "2"⟩ ⟨"a", "b", "1"⟩ = .error e := by
  have hapart : (Write.mk "a.b" "c" "1").target ≠ (Write.mk "a" "y" "2").target := by decide
  have hfails : (build []).writeBoth ⟨"a", "b", "1"⟩ ⟨"a.b", "c", "2"⟩ =
      .error (.valueOnPath ["a", "b"]) := rfl
  obtain ⟨s, hs, hsame⟩ := (writeBoth_comm [⟨"a", "x", "0"⟩] ⟨"a.b", "c", "1"⟩ ⟨"a", "y", "2"⟩
    hapart).1 _ rfl
  refine ⟨hapart, ⟨_, s, rfl, hs, ?_, hsame⟩, hfails, ?_⟩
  · rintro rfl
    cases hs
  · exact (writeBoth_comm [] ⟨"a", "b", "1"⟩ ⟨"a.b", "c", "2"⟩ (by decide)).2.1 ⟨_, hfails⟩

end VisualNovel.AttributeTree
