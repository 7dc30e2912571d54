import VisualNovel.Proofs.Files.Change

/-!
# Trees that differ in reserved places

Two trees that agree at all locations but reserved ones are the same for every path that does not lead
through one: it is found, read and written with the same outcome. What is written in a reserved place
of one of the trees does not matter to the other.
-/
namespace VisualNovel

open VisualNovel.Text

namespace FileTree

variable {reserved : Location → Prop} {t t' u u' : FileTree} {path : String} {c : Content}

/-- The locations on the way along a path text, from where it begins to where it leads. -/
def way (home : Location) (path : String) : List Location :=
  (steps path).scanl turn (origin home path)

/-- A path text leads through no reserved location. -/
def Avoids (reserved : Location → Prop) (home : Location) (path : String) : Prop :=
  ∀ l ∈ way home path, ¬reserved l

/-- Both trees have one working directory and the same entries where nothing is reserved. -/
structure Agree (reserved : Location → Prop) (t u : FileTree) : Prop where
  home : u.home = t.home
  get? : ∀ l, ¬reserved l → u.get? l = t.get? l

theorem mem_scanl_foldl {α β : Type} (f : β → α → β) (b : β) (l : List α) :
    l.foldl f b ∈ l.scanl f b := by
  induction l generalizing b with
  | nil => simp
  | cons a rest ih =>
    rw [List.foldl_cons, List.scanl_cons]
    exact List.mem_cons_of_mem _ (ih (f b a))

theorem Avoids.destination (h : Avoids reserved t.home path) :
    ¬reserved (destination t.home path) :=
  h _ (mem_scanl_foldl turn (origin t.home path) (steps path))

theorem walk_cons (t : FileTree) (loc : Location) (part : List Char) (rest : List (List Char)) :
    t.walk loc (part :: rest) =
      match t.get? loc with
      | none => .error .noEntry
      | some (.file _) => .error .notDirectory
      | some .directory =>
        if longestName < (Utf8.encode part).length then .error .nameTooLong
        else t.walk (turn loc part) rest := by
  rw [walk, turn]
  cases t.get? loc with
  | none => rfl
  | some e =>
    cases e with
    | file c => rfl
    | directory =>
      simp only
      split
      · rfl
      · split
        · rfl
        · split <;> rfl

theorem walk_ne_isDirectory {loc : Location} {parts : List (List Char)} :
    t.walk loc parts ≠ .error .isDirectory := by
  induction parts generalizing loc with
  | nil =>
    intro h
    cases h
  | cons part rest ih =>
    rw [walk_cons]
    cases t.get? loc with
    | none => simp
    | some e =>
      cases e with
      | file c => simp
      | directory =>
        simp only
        split
        · simp
        · exact ih

theorem locate_eq (t : FileTree) (path : String) :
    t.locate path =
      match nameFault? path.toList with
      | some f => .error (.unnameable f)
      | none =>
        if path.toList = [] then .error (.refused .noEntry path)
        else if longestPath < (Utf8.encode path.toList).length then
          .error (.refused .nameTooLong path)
        else (t.walk (origin t.home path) (steps path)).mapError fun f => .refused f path :=
  rfl

theorem locate_ne_isDirectory {other : String} :
    t.locate path ≠ .error (.refused .isDirectory other) := by
  rw [locate_eq]
  split
  · simp
  · split
    · simp
    · split
      · simp
      · have hwalk : t.walk (origin t.home path) (steps path) ≠ .error .isDirectory :=
          walk_ne_isDirectory
        intro h
        cases hw : t.walk (origin t.home path) (steps path) with
        | ok l =>
          rw [hw] at h
          cases h
        | error f =>
          rw [hw] at h hwalk
          cases h
          exact hwalk rfl

namespace Agree

variable (h : Agree reserved t u)

include h

theorem walk {loc : Location} {parts : List (List Char)}
    (avoids : ∀ l ∈ parts.scanl turn loc, ¬reserved l) : u.walk loc parts = t.walk loc parts := by
  induction parts generalizing loc with
  | nil => rfl
  | cons part rest ih =>
    rw [List.scanl_cons, List.forall_mem_cons] at avoids
    rw [walk_cons, walk_cons, h.get? loc avoids.1, ih avoids.2]

theorem locate (avoids : Avoids reserved t.home path) : u.locate path = t.locate path := by
  rw [locate_eq, locate_eq, h.home, h.walk avoids]

theorem get?_of_locate (avoids : Avoids reserved t.home path) {l : Location}
    (hl : t.locate path = .ok l) : u.get? l = t.get? l := by
  rw [eq_destination_of_locate hl]
  exact h.get? _ avoids.destination

theorem find (avoids : Avoids reserved t.home path) : u.find path = t.find path := by
  rw [FileTree.find, FileTree.find, h.locate avoids]
  cases hl : t.locate path with
  | error e => rfl
  | ok l => simp only [bind, Except.bind, h.get?_of_locate avoids hl]

theorem read (avoids : Avoids reserved t.home path) : u.read path = t.read path := by
  rw [FileTree.read, FileTree.read, h.find avoids]

theorem write (avoids : Avoids reserved t.home path) (c : Content) :
    (∃ t' u', t.write path c = .ok t' ∧ u.write path c = .ok u' ∧ Agree reserved t' u') ∨
      ∃ e, t.write path c = .error e ∧ u.write path c = .error e := by
  rw [FileTree.write, FileTree.write, h.locate avoids]
  cases hl : t.locate path with
  | error e => exact Or.inr ⟨e, rfl, rfl⟩
  | ok l =>
    simp only [bind, Except.bind, h.get?_of_locate avoids hl]
    split
    · exact Or.inr ⟨_, rfl, rfl⟩
    · rename_i hfree
      have hne : t.get? l ≠ some .directory := by
        intro hdirectory
        exact hfree (by simp [hdirectory])
      have hune : u.get? l ≠ some .directory := by
        rwa [h.get?_of_locate avoids hl]
      refine Or.inl ⟨_, _, rfl, rfl, ?_, fun m hm => ?_⟩
      · rw [home_put, home_put, h.home]
      · rw [get?_put u l m _ (not_above_of_get?_ne hune), get?_put t l m _ (not_above_of_get?_ne hne),
          h.get? m hm]

theorem symm : Agree reserved u t :=
  ⟨h.home.symm, fun l hl => (h.get? l hl).symm⟩

theorem trans {v : FileTree} (k : Agree reserved u v) : Agree reserved t v :=
  ⟨k.home.trans h.home, fun l hl => (k.get? l hl).trans (h.get? l hl)⟩

theorem write_reserved (hwrite : t.write path c = .ok t')
    (hplace : reserved (destination t.home path)) : Agree reserved t' u := by
  refine ⟨h.home.trans (keeps_write hwrite).home.symm, fun l hl => ?_⟩
  rw [get?_of_write hwrite]
  · exact h.get? l hl
  · rintro rfl
    exact hl hplace

section

variable (free : ∀ l, reserved l → t.get? l ≠ some .directory)

include free

/-- A walk that succeeds looks at nothing but directories, so reserved places that are none do not
matter to it. -/
theorem walk_of_ok {loc l : Location} {parts : List (List Char)} (hwalk : t.walk loc parts = .ok l) :
    u.walk loc parts = .ok l := by
  induction parts generalizing loc with
  | nil => exact hwalk
  | cons part rest ih =>
    obtain ⟨hdirectory, hname, hrest⟩ := walk_cons_eq_ok_iff.1 hwalk
    refine walk_cons_eq_ok_iff.2 ⟨?_, hname, ih hrest⟩
    rw [h.get? loc fun hreserved => free loc hreserved hdirectory]
    exact hdirectory

theorem locate_of_ok {l : Location} (hlocate : t.locate path = .ok l) : u.locate path = .ok l := by
  obtain ⟨hfault, hempty, hlong, hwalk⟩ := locate_eq_ok_iff.1 hlocate
  refine locate_eq_ok_iff.2 ⟨hfault, hempty, hlong, ?_⟩
  rw [h.home]
  exact h.walk_of_ok free hwalk

/-- What is read in one tree is read in the other, unless it stands in a reserved place. -/
theorem read_of_ok (hread : t.read path = .ok c)
    (outside : ∀ l, t.locate path = .ok l → t.get? l = some (.file c) → ¬reserved l) :
    u.read path = .ok c := by
  obtain ⟨l, hlocate, hfile, hslash⟩ := read_eq_ok_iff.1 hread
  refine read_eq_ok_iff.2 ⟨l, h.locate_of_ok free hlocate, ?_, hslash⟩
  rw [h.get? l (outside l hlocate hfile)]
  exact hfile

/-- What is written in one tree can be written in the other, and they agree afterwards. -/
theorem write_of_ok (free' : ∀ l, reserved l → u.get? l ≠ some .directory)
    (hwrite : t.write path c = .ok t') :
    ∃ u', u.write path c = .ok u' ∧ Agree reserved t' u' := by
  obtain ⟨l, hlocate, hslash, hl, rfl⟩ := write_eq_ok_iff.1 hwrite
  have hne : u.get? l ≠ some .directory := by
    by_cases hreserved : reserved l
    · exact free' l hreserved
    · rwa [h.get? l hreserved]
  refine ⟨_, write_eq_ok_iff.2 ⟨l, h.locate_of_ok free hlocate, hslash, hne, rfl⟩, ?_, fun m hm => ?_⟩
  · rw [home_put, home_put, h.home]
  · rw [get?_put u l m _ (not_above_of_get?_ne hne), get?_put t l m _ (not_above_of_get?_ne hl),
      h.get? m hm]

end

end Agree

theorem placeOf_of_locate {name : FileName} {l : Location} (hl : t.locate name.text = .ok l)
    (hslash : endsInSlash name.text = false) :
    t.placeOf name = .ok (if (t.get? l).isSome then some l else none) := by
  simp only [placeOf, FileTree.find, hl, bind, Except.bind]
  cases t.get? l with
  | none => rfl
  | some e =>
    cases e with
    | file c => simp [hslash]
    | directory => rfl

/-- A copy of what can be read, to another place, is a write with all its failures. -/
theorem copy_eq_write {source target : FileName} (hread : t.read source.text = .ok c)
    (apart : destination t.home source.text ≠ destination t.home target.text)
    (hslash : endsInSlash target.text = false) :
    t.copy source target = t.write target.text c := by
  obtain ⟨l, hlocate, hfile, hnoslash⟩ := read_eq_ok_iff.1 hread
  have hsource : t.placeOf source = .ok (some l) := by
    rw [placeOf_of_locate hlocate hnoslash, hfile]
    rfl
  rw [copy, hsource]
  simp only [bind, Except.bind, hread, Option.isSome_some, Bool.true_and, decide_eq_true_eq]
  cases htarget : t.locate target.text with
  | error e =>
    have hwrite : t.write target.text c = .error e := by
      simp only [FileTree.write, htarget, bind, Except.bind]
    have hfind : t.find target.text = .error e := by
      simp only [FileTree.find, htarget, bind, Except.bind]
    rw [placeOf, hfind, hwrite]
    cases e with
    | refused f other =>
      cases f with
      | isDirectory => exact absurd htarget locate_ne_isDirectory
      | noEntry | «exists» | notDirectory | nameTooLong => simp
    | unnameable f | sameFile a b | noDirectory other => simp
  | ok m =>
    have hne : l ≠ m := by
      rw [eq_destination_of_locate hlocate, eq_destination_of_locate htarget]
      exact apart
    have hgoal : ¬some l = (if (t.get? m).isSome then some m else none) := by
      split <;> simp [hne]
    rw [placeOf_of_locate htarget hslash]
    simp only [hgoal, if_false]
    by_cases hdirectory : t.get? m = some .directory
    · have hwrite : t.write target.text c = .error (.refused .isDirectory target.text) := by
        simp [FileTree.write, htarget, bind, Except.bind, hdirectory]
      simp [hwrite, hdirectory]
    · have hwrite : t.write target.text c = .ok (t.put m (.file c)) := by
        simp [FileTree.write, htarget, bind, Except.bind, hdirectory, hslash]
      rw [hwrite]

end FileTree

end VisualNovel
