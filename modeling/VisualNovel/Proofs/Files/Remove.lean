import VisualNovel.Proofs.Files.Change

/-!
# Removing files

A file that is removed takes nothing else with it: whatever stands in the tree afterwards stood there
before, and every directory that a path leads to is still found.
-/
namespace VisualNovel.FileTree

variable {t u : FileTree} {path : String} {l f : Location}

theorem lookup_filter_isPrefixOf (entries : List (Location × Entry)) :
    (entries.filter fun p => !f.isPrefixOf p.1).lookup l =
      if f.isPrefixOf l then none else entries.lookup l := by
  induction entries with
  | nil => simp
  | cons p rest ih =>
    obtain ⟨m, e⟩ := p
    by_cases hm : l = m
    · subst hm
      cases hf : f.isPrefixOf l with
      | true =>
        rw [List.filter_cons_of_neg (by simp [hf]), ih, hf]
        simp only [if_true]
      | false =>
        rw [List.filter_cons_of_pos (by simp [hf]), List.lookup_cons_self, List.lookup_cons_self]
        rfl
    · have hb : (l == m) = false := beq_eq_false_iff_ne.2 hm
      cases hf : f.isPrefixOf m with
      | true => rw [List.filter_cons_of_neg (by simp [hf]), ih, List.lookup_cons, hb]
      | false =>
        rw [List.filter_cons_of_pos (by simp [hf]), List.lookup_cons, List.lookup_cons, hb, ih]

theorem get?_drop_of_not_below (h : ¬f <+: l) : (t.drop f).get? l = t.get? l := by
  have hb : f.isPrefixOf l = false := by
    rwa [← Bool.not_eq_true, List.isPrefixOf_iff_prefix]
  rw [get?, get?, drop, lookup_filter_isPrefixOf, hb]
  rfl

/-- What stands in the tree after something was dropped stood there before. -/
theorem get?_of_get?_drop {e : Entry} (h : (t.drop f).get? l = some e) : t.get? l = some e := by
  rw [get?, drop, lookup_filter_isPrefixOf] at h
  rw [get?]
  split
  · rename_i habove
    rw [if_pos habove] at h
    exact h
  · rename_i habove
    rw [if_neg habove] at h
    split at h
    · cases h
    · exact h

theorem get?_drop_self {c : Content} (h : t.get? l = some (.file c)) : (t.drop l).get? l = none := by
  have hbelow : l.isPrefixOf t.home = false := not_above_of_get?_ne (by simp [h])
  have hself : l.isPrefixOf l = true := List.isPrefixOf_iff_prefix.2 List.prefix_rfl
  have hhome : (t.drop l).home = t.home := rfl
  rw [get?, hhome, hbelow, drop, lookup_filter_isPrefixOf, hself]
  rfl

theorem remove_eq_ok_iff :
    t.remove path = .ok u ↔
      ∃ l c, t.locate path = .ok l ∧ t.get? l = some (.file c) ∧ endsInSlash path = false ∧
        u = t.drop l := by
  rw [remove]
  constructor
  · intro h
    cases hfind : t.find path with
    | error e =>
      rw [hfind] at h
      cases h
    | ok found =>
      obtain ⟨l, e⟩ := found
      rw [hfind] at h
      cases e with
      | directory => cases h
      | file c =>
        cases h
        obtain ⟨hlocate, hl, hslash⟩ := find_file_iff.1 hfind
        exact ⟨l, c, hlocate, hl, hslash, rfl⟩
  · rintro ⟨l, c, hlocate, hl, hslash, rfl⟩
    rw [find_file_iff.2 ⟨hlocate, hl, hslash⟩]
    rfl

/-- Above a location there are directories only. -/
def Hangs (t : FileTree) (l : Location) : Prop :=
  ∀ m, m <+: l → m ≠ l → t.get? m = some .directory

theorem Hangs.turn (h : t.Hangs l) (hl : t.get? l = some .directory) (part : List Char) :
    t.Hangs (turn l part) := by
  have hall : ∀ m, m <+: l → t.get? m = some .directory := by
    intro m hm
    by_cases hne : m = l
    · rw [hne]
      exact hl
    · exact h m hm hne
  rw [FileTree.turn]
  split
  · exact h
  · split
    · intro m hm _
      exact hall m (hm.trans (List.dropLast_prefix l))
    · intro m hm hne
      rcases List.prefix_concat_iff.1 hm with heq | hm
      · exact absurd heq hne
      · exact hall m hm

theorem hangs_origin (t : FileTree) (path : String) : t.Hangs (origin t.home path) := by
  intro m hm _
  apply get?_of_above
  rw [List.isPrefixOf_iff_prefix]
  rw [origin] at hm
  split at hm
  · exact hm.trans List.nil_prefix
  · exact hm

theorem Hangs.not_above (h : t.Hangs l) (hl : t.get? l = some .directory) {c : Content}
    (hf : t.get? f = some (.file c)) : ¬f <+: l := by
  intro hprefix
  by_cases hne : f = l
  · rw [hne, hl] at hf
    cases hf
  · rw [h f hprefix hne] at hf
    cases hf

theorem walk_drop {c : Content} (hf : t.get? f = some (.file c)) {loc : Location}
    {parts : List (List Char)} (hloc : t.Hangs loc) (h : t.walk loc parts = .ok l) :
    (t.drop f).walk loc parts = .ok l ∧ t.Hangs l := by
  induction parts generalizing loc with
  | nil =>
    cases h
    exact ⟨rfl, hloc⟩
  | cons part rest ih =>
    obtain ⟨hdirectory, hname, hrest⟩ := walk_cons_eq_ok_iff.1 h
    obtain ⟨hwalk, hl⟩ := ih (hloc.turn hdirectory part) hrest
    refine ⟨walk_cons_eq_ok_iff.2 ⟨?_, hname, hwalk⟩, hl⟩
    rw [get?_drop_of_not_below (hloc.not_above hdirectory hf)]
    exact hdirectory

theorem isDirectory_of_remove {directory : String} (h : t.remove path = .ok u)
    (hdirectory : t.isDirectory directory = true) : u.isDirectory directory = true := by
  obtain ⟨f, c, -, hf, -, rfl⟩ := remove_eq_ok_iff.1 h
  obtain ⟨l, hlocate, hl⟩ := isDirectory_iff.1 hdirectory
  obtain ⟨hfault, hempty, hlong, hwalk⟩ := locate_eq_ok_iff.1 hlocate
  obtain ⟨hwalk', hhangs⟩ := walk_drop hf (hangs_origin t directory) hwalk
  refine isDirectory_iff.2 ⟨l, locate_eq_ok_iff.2 ⟨hfault, hempty, hlong, hwalk'⟩, ?_⟩
  rw [get?_drop_of_not_below (hhangs.not_above hl hf)]
  exact hl

end VisualNovel.FileTree
