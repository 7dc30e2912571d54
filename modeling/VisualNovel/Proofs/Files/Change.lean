import VisualNovel.Proofs.Files.Path

/-!
# What operations read and change

Every operation first locates the text of a path. A write sets one entry and a copy is a write of
what was read. Making a directory with those above it adds directories with proper names and
nothing else. All of them keep the directories that there are.
-/
namespace VisualNovel.FileTree

open VisualNovel.Text

variable {t u : FileTree} {path : String} {l : Location} {c : Content}

theorem locate_of_find {e : Entry} (h : t.find path = .ok (l, e)) :
    t.locate path = .ok l ∧ t.get? l = some e := by
  rw [find] at h
  cases hl : t.locate path with
  | error f =>
    rw [hl] at h
    cases h
  | ok m =>
    simp only [hl, bind, Except.bind] at h
    cases he : t.get? m with
    | none =>
      rw [he] at h
      cases h
    | some e' =>
      rw [he] at h
      cases e' with
      | file c =>
        simp only at h
        split at h
        · cases h
        · cases h
          exact ⟨rfl, he⟩
      | directory =>
        cases h
        exact ⟨rfl, he⟩

theorem find_directory_iff :
    t.find path = .ok (l, .directory) ↔
      t.locate path = .ok l ∧ t.get? l = some .directory := by
  constructor
  · exact locate_of_find
  · rintro ⟨hl, he⟩
    simp only [find, hl, bind, Except.bind, he]

theorem find_file_iff :
    t.find path = .ok (l, .file c) ↔
      t.locate path = .ok l ∧ t.get? l = some (.file c) ∧ endsInSlash path = false := by
  constructor
  · intro h
    obtain ⟨hl, he⟩ := locate_of_find h
    refine ⟨hl, he, ?_⟩
    simp only [find, hl, bind, Except.bind, he] at h
    split at h
    · cases h
    · rename_i hslash
      exact Bool.eq_false_iff.2 hslash
  · rintro ⟨hl, he, hslash⟩
    simp only [find, hl, bind, Except.bind, he, hslash, Bool.false_eq_true, if_false]

theorem isDirectory_iff :
    t.isDirectory path = true ↔ ∃ l, t.locate path = .ok l ∧ t.get? l = some .directory := by
  rw [isDirectory]
  constructor
  · intro h
    split at h
    · rename_i l hfind
      exact ⟨l, find_directory_iff.1 hfind⟩
    · cases h
  · rintro ⟨l, h⟩
    rw [find_directory_iff.2 h]

theorem isFile_iff :
    t.isFile path = true ↔
      ∃ l c, t.locate path = .ok l ∧ t.get? l = some (.file c) ∧ endsInSlash path = false := by
  rw [isFile]
  constructor
  · intro h
    split at h
    · rename_i l c hfind
      exact ⟨l, c, find_file_iff.1 hfind⟩
    · cases h
  · rintro ⟨l, c, h⟩
    rw [find_file_iff.2 h]

theorem read_eq_ok_iff :
    t.read path = .ok c ↔
      ∃ l, t.locate path = .ok l ∧ t.get? l = some (.file c) ∧ endsInSlash path = false := by
  rw [read]
  constructor
  · intro h
    cases hfind : t.find path with
    | error f =>
      rw [hfind] at h
      cases h
    | ok found =>
      obtain ⟨l, e⟩ := found
      rw [hfind] at h
      cases e with
      | file c' =>
        cases h
        exact ⟨l, find_file_iff.1 hfind⟩
      | directory => cases h
  · rintro ⟨l, h⟩
    rw [find_file_iff.2 h]
    rfl

theorem write_eq_ok_iff :
    t.write path c = .ok u ↔
      ∃ l, t.locate path = .ok l ∧ endsInSlash path = false ∧ t.get? l ≠ some .directory ∧
        u = t.put l (.file c) := by
  rw [write]
  cases hl : t.locate path with
  | error f => simp [bind, Except.bind]
  | ok m =>
    simp only [bind, Except.bind, Except.ok.injEq, exists_eq_left']
    by_cases hslash : endsInSlash path = true
    · simp [hslash]
    by_cases hdirectory : t.get? m = some .directory
    · simp [hdirectory]
    · simp only [hslash, hdirectory, decide_false, Bool.or_self, Bool.false_eq_true, if_false,
        Except.ok.injEq, ne_eq, not_false_eq_true, true_and]
      exact eq_comm

theorem makeDirectory_eq_ok_iff :
    t.makeDirectory path = .ok u ↔
      ∃ l, t.locate path = .ok l ∧ t.get? l = none ∧ u = t.put l .directory := by
  rw [makeDirectory]
  cases hl : t.locate path with
  | error f => simp [bind, Except.bind]
  | ok m =>
    cases he : t.get? m with
    | none => simp [bind, Except.bind, he, eq_comm]
    | some e => simp [bind, Except.bind, he]

theorem home_put (t : FileTree) (l : Location) (e : Entry) : (t.put l e).home = t.home := by
  rw [put]
  split <;> rfl

theorem keeps_put {e : Entry} (hl : t.get? l ≠ some .directory) : Keeps t (t.put l e) := by
  refine ⟨home_put t l e, fun m hm => ?_⟩
  rw [get?_put t l m e (not_above_of_get?_ne hl), if_neg]
  · exact hm
  · rintro rfl
    exact hl hm

theorem Keeps.isDirectory (h : Keeps t u) (hdirectory : t.isDirectory path = true) :
    u.isDirectory path = true := by
  obtain ⟨l, hlocate, hl⟩ := isDirectory_iff.1 hdirectory
  exact isDirectory_iff.2 ⟨l, h.locate hlocate, h.directory hl⟩

theorem keeps_write (h : t.write path c = .ok u) : Keeps t u := by
  obtain ⟨l, -, -, hl, rfl⟩ := write_eq_ok_iff.1 h
  exact keeps_put hl

theorem read_of_write (h : t.write path c = .ok u) : u.read path = .ok c := by
  obtain ⟨l, hlocate, hslash, hl, rfl⟩ := write_eq_ok_iff.1 h
  refine read_eq_ok_iff.2 ⟨l, (keeps_put hl).locate hlocate, ?_, hslash⟩
  rw [get?_put t l l _ (not_above_of_get?_ne hl), if_pos rfl]

theorem get?_of_write_self (h : t.write path c = .ok u) :
    u.get? (destination t.home path) = some (.file c) := by
  obtain ⟨l, hlocate, -, hl, rfl⟩ := write_eq_ok_iff.1 h
  rw [← eq_destination_of_locate hlocate, get?_put t l l _ (not_above_of_get?_ne hl), if_pos rfl]

theorem get?_of_write (h : t.write path c = .ok u) {m : Location}
    (hm : m ≠ destination t.home path) : u.get? m = t.get? m := by
  obtain ⟨l, hlocate, -, hl, rfl⟩ := write_eq_ok_iff.1 h
  rw [get?_put t l m _ (not_above_of_get?_ne hl), if_neg]
  rwa [eq_destination_of_locate hlocate]

theorem read_of_write_of_ne (h : t.write path c = .ok u) {other : String} {c' : Content}
    (hread : t.read other = .ok c') (hne : destination t.home other ≠ destination t.home path) :
    u.read other = .ok c' := by
  obtain ⟨l, hlocate, hfile, hslash⟩ := read_eq_ok_iff.1 hread
  refine read_eq_ok_iff.2 ⟨l, (keeps_write h).locate hlocate, ?_, hslash⟩
  rw [get?_of_write h, hfile]
  rwa [eq_destination_of_locate hlocate]

theorem exists_of_copy {source target : FileName} (h : t.copy source target = .ok u) :
    ∃ c, t.read source.text = .ok c ∧ t.write target.text c = .ok u := by
  rw [copy] at h
  cases hs : t.placeOf source with
  | error f =>
    rw [hs] at h
    cases h
  | ok s =>
    cases hg : t.placeOf target with
    | error f =>
      rw [hs, hg] at h
      cases h
    | ok g =>
      simp only [hs, hg, bind, Except.bind] at h
      split at h
      · cases h
      cases hc : t.read source.text with
      | error f =>
        rw [hc] at h
        cases h
      | ok c =>
        simp only [hc] at h
        split at h
        · split at h <;> cases h
        · exact ⟨c, rfl, h⟩

/-- The second tree has all of the first and beyond that only directories with proper names. -/
structure AddsDirectories (t u : FileTree) : Prop where
  home : u.home = t.home
  get? : ∀ l, u.get? l = t.get? l ∨
    t.get? l = none ∧ u.get? l = some .directory ∧ ∃ m s, l = m ++ [s] ∧ Path.IsName s

theorem AddsDirectories.refl (t : FileTree) : AddsDirectories t t :=
  ⟨rfl, fun _ => Or.inl rfl⟩

theorem AddsDirectories.trans {v : FileTree} (h : AddsDirectories t u)
    (k : AddsDirectories u v) : AddsDirectories t v := by
  refine ⟨k.home.trans h.home, fun l => ?_⟩
  rcases k.get? l with hk | ⟨hnone, hdirectory, hname⟩
  · rw [hk]
    exact h.get? l
  · rcases h.get? l with hh | ⟨-, hu, -⟩
    · exact Or.inr ⟨hh.symm.trans hnone, hdirectory, hname⟩
    · rw [hu] at hnone
      cases hnone

theorem AddsDirectories.keeps (h : AddsDirectories t u) : Keeps t u := by
  refine ⟨h.home, fun l hl => ?_⟩
  rcases h.get? l with hu | ⟨-, hu, -⟩
  · rwa [hu]
  · exact hu

theorem AddsDirectories.get?_file (h : AddsDirectories t u) :
    u.get? l = some (.file c) ↔ t.get? l = some (.file c) := by
  rcases h.get? l with hu | ⟨hnone, hu, -⟩
  · rw [hu]
  · rw [hu, hnone]
    simp

theorem AddsDirectories.read (h : AddsDirectories t u) (hread : t.read path = .ok c) :
    u.read path = .ok c := by
  obtain ⟨l, hlocate, hfile, hslash⟩ := read_eq_ok_iff.1 hread
  exact read_eq_ok_iff.2 ⟨l, h.keeps.locate hlocate, h.get?_file.2 hfile, hslash⟩

theorem addsDirectories_makeDirectory (h : t.makeDirectory path = .ok u) :
    AddsDirectories t u ∧ u.isDirectory path = true := by
  obtain ⟨l, hlocate, hnone, rfl⟩ := makeDirectory_eq_ok_iff.1 h
  have hne : t.get? l ≠ some .directory := by simp [hnone]
  have hget (m : Location) := get?_put t l m .directory (not_above_of_get?_ne hne)
  constructor
  · refine ⟨home_put t l _, fun m => ?_⟩
    rw [hget]
    by_cases hm : m = l
    · subst hm
      rw [if_pos rfl]
      exact Or.inr ⟨hnone, rfl, Path.exists_isName_of_locate hlocate (not_above_of_get?_ne hne)⟩
    · rw [if_neg hm]
      exact Or.inl rfl
  · refine isDirectory_iff.2 ⟨l, (keeps_put hne).locate hlocate, ?_⟩
    rw [hget, if_pos rfl]

theorem addsDirectories_ensureOnly {p : Path} (h : t.ensureOnly p = .ok u) :
    AddsDirectories t u ∧ u.isDirectory p.text = true := by
  rw [ensureOnly] at h
  split at h
  · rename_i hmake
    cases h
    exact addsDirectories_makeDirectory hmake
  · cases h
  · split at h
    · rename_i hdirectory
      cases h
      exact ⟨AddsDirectories.refl t, hdirectory⟩
    · cases h
  · cases h

theorem addsDirectories_ensureParts {root : String} {parts : List String}
    (h : t.ensureParts root parts = .ok u) :
    AddsDirectories t u ∧ u.isDirectory (Path.text ⟨root, parts⟩) = true := by
  induction hn : parts.length generalizing parts u with
  | zero =>
    have hparts : parts = [] := List.length_eq_zero_iff.1 hn
    rw [ensureParts, hparts] at h
    split at h
    · cases h
    · rw [hparts]
      exact addsDirectories_ensureOnly h
  | succ n ih =>
    rw [ensureParts] at h
    split at h
    · split at h
      · cases h
      cases habove : t.ensureParts root parts.dropLast with
      | error f =>
        rw [habove] at h
        cases h
      | ok v =>
        rw [habove] at h
        obtain ⟨hv, -⟩ := ih habove (by rw [List.length_dropLast]; omega)
        obtain ⟨hu, hdirectory⟩ := addsDirectories_ensureOnly h
        exact ⟨hv.trans hu, hdirectory⟩
    · exact addsDirectories_ensureOnly h

theorem addsDirectories_ensureDirectory {p : Path} (h : t.ensureDirectory p = .ok u) :
    AddsDirectories t u ∧ u.isDirectory p.text = true :=
  addsDirectories_ensureParts h

theorem ensureDirectory_of_isDirectory {p : Path} (h : t.isDirectory p.text = true) :
    t.ensureDirectory p = .ok t := by
  have honly : t.ensureOnly p = .ok t := by
    obtain ⟨l, hlocate, hl⟩ := isDirectory_iff.1 h
    have hmake : t.makeDirectory p.text = .error (.refused .exists p.text) := by
      simp only [makeDirectory, hlocate, bind, Except.bind, hl]
    rw [ensureOnly, hmake]
    exact if_pos h
  rw [ensureDirectory, ensureParts, show t.ensureOnly ⟨p.root, p.parts⟩ = .ok t from honly]

theorem get?_ne_none_iff : t.get? l ≠ none ↔ l <+: t.home ∨ ∃ e, (l, e) ∈ t.entries := by
  rw [get?, ← List.isPrefixOf_iff_prefix]
  split
  · rename_i habove
    simp [habove]
  · rename_i habove
    simp only [habove, Bool.false_eq_true, false_or, ne_eq, List.lookup_eq_none_iff,
      Classical.not_forall]
    constructor
    · rintro ⟨⟨m, e⟩, hmem, hsame⟩
      obtain rfl : l = m := by simpa using hsame
      exact ⟨e, hmem⟩
    · rintro ⟨e, hmem⟩
      exact ⟨(l, e), hmem, by simp⟩

theorem exists_mem_of_get?_file (h : t.get? l = some (.file c)) : (l, .file c) ∈ t.entries := by
  rw [get?] at h
  split at h
  · cases h
  · obtain ⟨before, after, hsplit, -⟩ := List.lookup_eq_some_iff.1 h
    rw [hsplit]
    simp

theorem mem_towardsHome_iff {s : String} : s ∈ t.towardsHome l ↔ l ++ [s] <+: t.home := by
  rw [towardsHome]
  cases habove : l.isPrefixOf t.home with
  | true =>
    obtain ⟨below, hhome⟩ := List.isPrefixOf_iff_prefix.1 habove
    rw [← hhome, if_pos rfl, List.drop_left, List.prefix_append_right_inj]
    cases below with
    | nil => simp
    | cons first rest => simp [List.cons_prefix_cons]
  | false =>
    rw [if_neg Bool.false_ne_true]
    simp only [List.not_mem_nil, false_iff]
    intro hbelow
    have hprefix := List.isPrefixOf_iff_prefix.2 ((List.prefix_append l [s]).trans hbelow)
    cases habove.symm.trans hprefix

theorem list_of_isDirectory (hlocate : t.locate path = .ok l) (hl : t.get? l = some .directory) :
    ∃ names, t.list path = .ok names ∧ ∀ s, s ∈ names ↔ t.get? (l ++ [s]) ≠ none := by
  rw [list, find_directory_iff.2 ⟨hlocate, hl⟩]
  refine ⟨_, rfl, fun s => ?_⟩
  rw [List.mem_append, mem_towardsHome_iff, get?_ne_none_iff]
  apply or_congr_right
  simp only [List.mem_filterMap, Bool.and_eq_true, decide_eq_true_eq]
  constructor
  · rintro ⟨⟨m, e⟩, hmem, hlast⟩
    simp only at hlast
    split at hlast
    · rename_i hm
      obtain ⟨front, rfl⟩ := List.getLast?_eq_some_iff.1 hlast
      rw [← hm.1, List.dropLast_concat]
      exact ⟨e, hmem⟩
    · cases hlast
  · rintro ⟨e, hmem⟩
    exact ⟨_, hmem, by simp⟩

end VisualNovel.FileTree
