import VisualNovel.Stage.Cast

/-!
# The order of the cast

A cast is in order if every priority can be read and none is higher than one before it. Showing a
sprite keeps the order, hiding one does too, and ordering the cast anew gives it back whatever it was
before. Ordering fails exactly if a priority cannot be read.
-/
namespace VisualNovel.Cast

variable {ε : Type} {priorityOf other : String → Except ε Int} {c d : Cast} {sprite : Sprite}

/-- Every priority can be read and none is higher than one before it. -/
structure OrderedBy (priorityOf : String → Except ε Int) (c : Cast) : Prop where
  readable : ∀ s ∈ c, ∃ i, priorityOf s.name = .ok i
  descending : c.Pairwise fun a b =>
    ∀ i j, priorityOf a.name = .ok i → priorityOf b.name = .ok j → j ≤ i

theorem orderedBy_nil : OrderedBy priorityOf [] :=
  ⟨fun s hs => (by cases hs), List.Pairwise.nil⟩

/-- The order depends on the names of the sprites and their priorities only. -/
theorem orderedBy_iff_names :
    OrderedBy priorityOf c ↔
      (∀ n ∈ c.names, ∃ i, priorityOf n = .ok i) ∧
        c.names.Pairwise fun a b => ∀ i j, priorityOf a = .ok i → priorityOf b = .ok j → j ≤ i := by
  rw [names, List.pairwise_map]
  constructor
  · rintro ⟨hreadable, hdescending⟩
    refine ⟨fun n hn => ?_, hdescending⟩
    obtain ⟨s, hs, rfl⟩ := List.mem_map.1 hn
    exact hreadable s hs
  · rintro ⟨hreadable, hdescending⟩
    exact ⟨fun s hs => hreadable s.name (List.mem_map_of_mem hs), hdescending⟩

theorem OrderedBy.congr (h : OrderedBy priorityOf c)
    (same : ∀ s ∈ c, other s.name = priorityOf s.name) : OrderedBy other c := by
  refine ⟨fun s hs => ?_, h.descending.imp_of_mem fun {a b} ha hb hab i j hi hj => ?_⟩
  · rw [same s hs]
    exact h.readable s hs
  · rw [same a ha] at hi
    rw [same b hb] at hj
    exact hab i j hi hj

theorem OrderedBy.sublist (h : OrderedBy priorityOf c) (hd : d.Sublist c) :
    OrderedBy priorityOf d :=
  ⟨fun s hs => h.readable s (hd.subset hs), h.descending.sublist hd⟩

theorem OrderedBy.dismiss (h : OrderedBy priorityOf c) (name : String) :
    OrderedBy priorityOf (c.dismiss name) :=
  h.sublist List.eraseP_sublist

theorem OrderedBy.insert (h : OrderedBy priorityOf c) {p : Int}
    (hp : priorityOf sprite.name = .ok p) (hd : insert priorityOf p sprite c = .ok d) :
    OrderedBy priorityOf d := by
  induction c generalizing d with
  | nil =>
    cases hd
    refine ⟨fun s hs => ?_, List.pairwise_singleton _ _⟩
    rw [List.mem_singleton.1 hs]
    exact ⟨p, hp⟩
  | cons s rest ih =>
    obtain ⟨i, hi⟩ := h.readable s List.mem_cons_self
    obtain ⟨hfirst, -⟩ := List.pairwise_cons.1 h.descending
    have hrest : OrderedBy priorityOf rest := h.sublist (List.sublist_cons_self s rest)
    simp only [Cast.insert, hi, bind, Except.bind] at hd
    split at hd
    · rename_i hle
      cases hd
      refine ⟨fun a ha => ?_, List.pairwise_cons.2 ⟨fun b hb j k hj hk => ?_, h.descending⟩⟩
      · rcases List.mem_cons.1 ha with rfl | ha
        · exact ⟨p, hp⟩
        · exact h.readable a ha
      · rw [hp, Except.ok.injEq] at hj
        subst hj
        rcases List.mem_cons.1 hb with rfl | hb
        · rw [hi, Except.ok.injEq] at hk
          omega
        · have := hfirst b hb i k hi hk
          omega
    · rename_i hlt
      cases hr : Cast.insert priorityOf p sprite rest with
      | error e =>
        rw [hr] at hd
        cases hd
      | ok w =>
        rw [hr] at hd
        cases hd
        have hw := ih hrest hr
        refine ⟨fun a ha => ?_, List.pairwise_cons.2 ⟨fun b hb j k hj hk => ?_, hw.descending⟩⟩
        · rcases List.mem_cons.1 ha with rfl | ha
          · exact ⟨i, hi⟩
          · exact hw.readable a ha
        · rcases List.mem_cons.1 ((perm_of_insert hr).mem_iff.1 hb) with rfl | hb
          · rw [hi, Except.ok.injEq] at hj
            rw [hp, Except.ok.injEq] at hk
            omega
          · exact hfirst b hb j k hj hk

theorem names_replace (c : Cast) (sprite : Sprite) :
    names (c.map fun s => if s.name = sprite.name then sprite else s) = c.names := by
  rw [names, names, List.map_map]
  refine List.map_congr_left fun s _ => ?_
  rw [Function.comp_apply]
  split
  · rename_i h
    exact h.symm
  · rfl

/-- What showing a sprite comes to: it takes the place of the one of its name, or it is put among the
others. -/
theorem present_cases (h : c.present priorityOf sprite = .ok d) :
    sprite.name ∈ c.names ∧ d = c.map (fun s => if s.name = sprite.name then sprite else s) ∨
      sprite.name ∉ c.names ∧ ∃ p, priorityOf sprite.name = .ok p ∧
        insert priorityOf p sprite c = .ok d := by
  rw [present] at h
  split at h
  · rename_i hshown
    cases h
    exact Or.inl ⟨contains_iff.1 hshown, rfl⟩
  · rename_i hnew
    right
    refine ⟨fun hmem => hnew (contains_iff.2 hmem), ?_⟩
    cases hp : priorityOf sprite.name with
    | error e =>
      rw [hp] at h
      cases h
    | ok p =>
      rw [hp] at h
      exact ⟨p, rfl, h⟩

theorem OrderedBy.present (h : OrderedBy priorityOf c)
    (hd : c.present priorityOf sprite = .ok d) : OrderedBy priorityOf d := by
  rcases present_cases hd with ⟨-, rfl⟩ | ⟨-, p, hp, hinsert⟩
  · rw [orderedBy_iff_names, names_replace]
    exact orderedBy_iff_names.1 h
  · exact h.insert hp hinsert

theorem withPriorities_cons (priorityOf : String → Except ε Int) (s : Sprite) (c : Cast) :
    withPriorities priorityOf (s :: c) =
      match priorityOf s.name with
      | .error e => .error e
      | .ok i => (withPriorities priorityOf c).map ((i, s) :: ·) := by
  rw [withPriorities, List.mapM_cons]
  cases priorityOf s.name with
  | error e => rfl
  | ok i =>
    change (withPriorities priorityOf c >>= fun r => pure ((i, s) :: r)) = _
    cases withPriorities priorityOf c <;> rfl

theorem of_withPriorities {ranked : List (Int × Sprite)}
    (h : withPriorities priorityOf c = .ok ranked) :
    ranked.map Prod.snd = c ∧ ∀ r ∈ ranked, priorityOf r.2.name = .ok r.1 := by
  induction c generalizing ranked with
  | nil =>
    cases h
    exact ⟨rfl, fun r hr => by cases hr⟩
  | cons s rest ih =>
    rw [withPriorities_cons] at h
    cases hi : priorityOf s.name with
    | error e =>
      rw [hi] at h
      cases h
    | ok i =>
      rw [hi] at h
      cases hrest : withPriorities priorityOf rest with
      | error e =>
        rw [hrest] at h
        cases h
      | ok w =>
        rw [hrest] at h
        cases h
        obtain ⟨hmap, hread⟩ := ih hrest
        refine ⟨by rw [List.map_cons, hmap], fun r hr => ?_⟩
        rcases List.mem_cons.1 hr with rfl | hr
        · exact hi
        · exact hread r hr

theorem exists_of_withPriorities_error {e : ε} (h : withPriorities priorityOf c = .error e) :
    ∃ s ∈ c, priorityOf s.name = .error e := by
  induction c with
  | nil => cases h
  | cons s rest ih =>
    rw [withPriorities_cons] at h
    cases hi : priorityOf s.name with
    | error f =>
      rw [hi] at h
      cases h
      exact ⟨s, List.mem_cons_self, hi⟩
    | ok i =>
      rw [hi] at h
      cases hrest : withPriorities priorityOf rest with
      | error f =>
        rw [hrest] at h
        cases h
        obtain ⟨a, ha, hae⟩ := ih hrest
        exact ⟨a, List.mem_cons_of_mem _ ha, hae⟩
      | ok w =>
        rw [hrest] at h
        cases h

theorem orderedBy_resort (h : c.resort priorityOf = .ok d) :
    OrderedBy priorityOf d ∧ d.Perm c := by
  rw [resort] at h
  cases hranked : withPriorities priorityOf c with
  | error e =>
    rw [hranked] at h
    cases h
  | ok ranked =>
    rw [hranked] at h
    cases h
    obtain ⟨hmap, hread⟩ := of_withPriorities hranked
    have hperm := List.mergeSort_perm ranked fun a b => decide (b.1 ≤ a.1)
    have hsorted : (ranked.mergeSort fun a b => decide (b.1 ≤ a.1)).Pairwise
        fun a b => decide (b.1 ≤ a.1) = true := by
      apply List.pairwise_mergeSort
      · intro a b c hab hbc
        rw [decide_eq_true_eq] at *
        omega
      · intro a b
        rw [Bool.or_eq_true, decide_eq_true_eq, decide_eq_true_eq]
        omega
    refine ⟨⟨fun s hs => ?_, ?_⟩, ?_⟩
    · obtain ⟨r, hr, rfl⟩ := List.mem_map.1 hs
      exact ⟨r.1, hread r (hperm.mem_iff.1 hr)⟩
    · rw [List.pairwise_map]
      refine hsorted.imp_of_mem fun {a b} ha hb hab i j hi hj => ?_
      rw [hread a (hperm.mem_iff.1 ha), Except.ok.injEq] at hi
      rw [hread b (hperm.mem_iff.1 hb), Except.ok.injEq] at hj
      rw [← hi, ← hj]
      exact of_decide_eq_true hab
    · rw [← hmap]
      exact hperm.map Prod.snd

/-- Ordering the cast fails only with the failure of one of the priorities. -/
theorem exists_of_resort_error {e : ε} (h : c.resort priorityOf = .error e) :
    ∃ s ∈ c, priorityOf s.name = .error e := by
  rw [resort] at h
  cases hranked : withPriorities priorityOf c with
  | error f =>
    rw [hranked] at h
    cases h
    exact exists_of_withPriorities_error hranked
  | ok ranked =>
    rw [hranked] at h
    cases h

theorem readable_of_resort (h : c.resort priorityOf = .ok d) :
    ∀ s ∈ c, ∃ i, priorityOf s.name = .ok i := by
  obtain ⟨hordered, hperm⟩ := orderedBy_resort h
  exact fun s hs => hordered.readable s (hperm.mem_iff.2 hs)

theorem nodup_names_present (h : c.names.Nodup) (hd : c.present priorityOf sprite = .ok d) :
    d.names.Nodup := by
  rcases present_cases hd with ⟨-, rfl⟩ | ⟨hnew, p, -, hinsert⟩
  · rwa [names_replace]
  · have hperm := (perm_of_insert hinsert).map Sprite.name
    exact hperm.nodup_iff.2 (List.nodup_cons.2 ⟨hnew, h⟩)

/-- Showing a sprite takes the place of the sprite of its name alone. -/
theorem mem_present (hd : c.present priorityOf sprite = .ok d) {s : Sprite} :
    s ∈ d ↔ s = sprite ∨ s ∈ c ∧ s.name ≠ sprite.name := by
  rcases present_cases hd with ⟨hshown, rfl⟩ | ⟨hnew, p, -, hinsert⟩
  · rw [List.mem_map]
    constructor
    · rintro ⟨a, ha, rfl⟩
      by_cases h : a.name = sprite.name <;> simp [h, ha]
    · rintro (rfl | ⟨hs, hne⟩)
      · obtain ⟨old, hold, hname⟩ := List.mem_map.1 hshown
        exact ⟨old, hold, if_pos hname⟩
      · exact ⟨s, hs, if_neg hne⟩
  · rw [(perm_of_insert hinsert).mem_iff, List.mem_cons]
    apply or_congr_right
    rw [iff_self_and]
    rintro hs hname
    exact hnew (hname ▸ List.mem_map_of_mem hs)

theorem mem_dismiss (unique : c.names.Nodup) {name : String} {s : Sprite} :
    s ∈ c.dismiss name ↔ s ∈ c ∧ s.name ≠ name := by
  by_cases h : s.name = name
  · have hgone : name ∉ (c.dismiss name).names := by
      rw [names_dismiss]
      exact unique.not_mem_erase
    subst h
    exact iff_of_false (fun hs => hgone (List.mem_map_of_mem hs)) fun hs => hs.2 rfl
  · have hne : ¬(s.name == name) = true := by simpa using h
    rw [and_iff_left h]
    exact List.mem_eraseP_of_neg hne

/-- Whether a sprite may stand where it stands with the priority `i`: none before it is lower and none
behind it is higher. -/
def Fits (priorityOf : String → Except ε Int) (c : Cast) (sprite : Sprite) (i : Int) : Prop :=
  ∃ front back, c = front ++ sprite :: back ∧
    (∀ s ∈ front, ∀ j, priorityOf s.name = .ok j → i ≤ j) ∧
      ∀ s ∈ back, ∀ j, priorityOf s.name = .ok j → j ≤ i

theorem name_ne_of_nodup {front back : Cast} (h : (names (front ++ sprite :: back)).Nodup) :
    ∀ s, s ∈ front ∨ s ∈ back → s.name ≠ sprite.name := by
  rw [names, List.map_append, List.map_cons, List.nodup_append, List.nodup_cons] at h
  obtain ⟨-, ⟨hback, -⟩, hdisjoint⟩ := h
  rintro s (hs | hs) heq
  · exact hdisjoint s.name (List.mem_map_of_mem hs) sprite.name List.mem_cons_self heq
  · rw [← heq] at hback
    exact hback (List.mem_map_of_mem hs)

/-- A cast stays in order under a new priority of one of its sprites exactly if that can be read and
the sprite fits where it stands. -/
theorem OrderedBy.update_iff (h : OrderedBy priorityOf c) (unique : c.names.Nodup)
    (hs : sprite ∈ c) (same : ∀ n, n ≠ sprite.name → other n = priorityOf n) :
    OrderedBy other c ↔ ∃ i, other sprite.name = .ok i ∧ Fits priorityOf c sprite i := by
  constructor
  · intro hother
    obtain ⟨i, hi⟩ := hother.readable sprite hs
    obtain ⟨front, back, rfl⟩ := List.append_of_mem hs
    have hne := name_ne_of_nodup unique
    obtain ⟨-, hbehind, hbefore⟩ := List.pairwise_append.1 hother.descending
    refine ⟨i, hi, front, back, rfl, fun s hsf j hj => ?_, fun s hsb j hj => ?_⟩
    · rw [← same s.name (hne s (Or.inl hsf))] at hj
      exact hbefore s hsf sprite List.mem_cons_self j i hj hi
    · rw [← same s.name (hne s (Or.inr hsb))] at hj
      exact (List.pairwise_cons.1 hbehind).1 s hsb i j hi hj
  · rintro ⟨i, hi, front, back, rfl, hfront, hback⟩
    have hne := name_ne_of_nodup unique
    have hold : OrderedBy priorityOf (front ++ back) :=
      h.sublist ((List.Sublist.refl front).append (List.sublist_cons_self sprite back))
    have hrest : OrderedBy other (front ++ back) :=
      hold.congr fun s hs => same s.name (hne s (List.mem_append.1 hs))
    obtain ⟨hfronts, hbacks, hacross⟩ := List.pairwise_append.1 hrest.descending
    refine ⟨fun s hs => ?_, List.pairwise_append.2 ⟨hfronts,
      List.pairwise_cons.2 ⟨fun b hb j k hj hk => ?_, hbacks⟩, fun a ha b hb j k hj hk => ?_⟩⟩
    · rcases List.mem_append.1 hs with hs | hs
      · exact hrest.readable s (List.mem_append_left _ hs)
      · rcases List.mem_cons.1 hs with rfl | hs
        · exact ⟨i, hi⟩
        · exact hrest.readable s (List.mem_append_right _ hs)
    · rw [hi, Except.ok.injEq] at hj
      rw [same b.name (hne b (Or.inr hb))] at hk
      have := hback b hb k hk
      omega
    · rcases List.mem_cons.1 hb with rfl | hb
      · rw [same a.name (hne a (Or.inl ha))] at hj
        rw [hi, Except.ok.injEq] at hk
        have := hfront a ha j hj
        omega
      · exact hacross a ha b hb j k hj hk

end VisualNovel.Cast
