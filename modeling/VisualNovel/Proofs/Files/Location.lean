import VisualNovel.Files.Tree

/-!
# Where paths lead

A path text that names something leads to a location which depends on the text and the working
directory alone. Walking there asks of every location on the way that it is a directory, and never
looks at the last one, so a walk that succeeds still succeeds as long as directories stay what they
are.
-/
namespace VisualNovel.FileTree

open VisualNovel.Text

def turn (loc : Location) (part : List Char) : Location :=
  if part = ['.'] then loc
  else if part = ['.', '.'] then loc.dropLast
  else loc ++ [String.ofList part]

def origin (home : Location) (path : String) : Location :=
  if path.toList.head? = some '/' then [] else home

def steps (path : String) : List (List Char) :=
  (splitAll '/' path.toList).filter (· ≠ [])

/-- Where a path text leads, whatever stands on the way. -/
def destination (home : Location) (path : String) : Location :=
  (steps path).foldl turn (origin home path)

theorem walk_cons_eq_ok_iff {t : FileTree} {loc l : Location} {part : List Char}
    {rest : List (List Char)} :
    t.walk loc (part :: rest) = .ok l ↔
      t.get? loc = some .directory ∧ (Utf8.encode part).length ≤ longestName ∧
        t.walk (turn loc part) rest = .ok l := by
  rw [walk, turn]
  cases t.get? loc with
  | none => simp
  | some e =>
    cases e with
    | file c => simp
    | directory =>
      by_cases hlong : longestName < (Utf8.encode part).length
      · simp [hlong, Nat.not_le.2 hlong]
      · simp only [if_neg hlong, true_and, Nat.le_of_not_lt hlong]
        split
        · rfl
        · split <;> rfl

theorem eq_foldl_of_walk {t : FileTree} {loc l : Location} {parts : List (List Char)}
    (h : t.walk loc parts = .ok l) : l = parts.foldl turn loc := by
  induction parts generalizing loc with
  | nil => exact (Except.ok.inj h).symm
  | cons part rest ih => exact ih (walk_cons_eq_ok_iff.1 h).2.2

/-- A walk along more parts goes on from where the walk along the first of them leads. -/
theorem walk_append_eq_ok_iff {t : FileTree} {loc l : Location} {parts more : List (List Char)} :
    t.walk loc (parts ++ more) = .ok l ↔
      ∃ m, t.walk loc parts = .ok m ∧ t.walk m more = .ok l := by
  induction parts generalizing loc with
  | nil => simp [walk]
  | cons part rest ih =>
    rw [List.cons_append, walk_cons_eq_ok_iff, ih]
    simp only [walk_cons_eq_ok_iff]
    constructor
    · rintro ⟨hdirectory, hname, m, hm, hl⟩
      exact ⟨m, ⟨hdirectory, hname, hm⟩, hl⟩
    · rintro ⟨m, ⟨hdirectory, hname, hm⟩, hl⟩
      exact ⟨hdirectory, hname, m, hm, hl⟩

theorem walk_singleton_eq_ok_iff {t : FileTree} {loc l : Location} {part : List Char} :
    t.walk loc [part] = .ok l ↔
      t.get? loc = some .directory ∧ (Utf8.encode part).length ≤ longestName ∧
        turn loc part = l := by
  rw [walk_cons_eq_ok_iff, walk, Except.ok.injEq]

theorem nameFault?_eq_none_iff {s : List Char} :
    nameFault? s = none ↔
      ∀ c ∈ s, (isSurrogate (pointOfChar c) && !isByteSurrogate (pointOfChar c)) = false ∧
        c ≠ Char.ofNat 0 := by
  rw [nameFault?]
  cases h : unencodable? s with
  | some u =>
    simp only [reduceCtorEq, false_iff]
    intro hall
    rw [unencodable?_eq_none_iff.2 fun c hc => (hall c hc).1] at h
    cases h
  | none =>
    have hencoded := unencodable?_eq_none_iff.1 h
    constructor
    · intro hnul c hc
      refine ⟨hencoded c hc, ?_⟩
      rintro rfl
      rw [if_pos (by simpa using hc)] at hnul
      cases hnul
    · intro hall
      rw [if_neg]
      intro hnul
      exact (hall _ (by simpa using hnul)).2 rfl

/-- A path text names a location if nothing keeps it from being a name and the walk along it
succeeds. -/
theorem locate_eq_ok_iff {t : FileTree} {path : String} {l : Location} :
    t.locate path = .ok l ↔
      nameFault? path.toList = none ∧ path ≠ "" ∧
        (Utf8.encode path.toList).length ≤ longestPath ∧
          t.walk (origin t.home path) (steps path) = .ok l := by
  simp only [locate]
  cases nameFault? path.toList with
  | some f => simp
  | none =>
    by_cases hempty : path = ""
    · simp [hempty]
    have hlist : path.toList ≠ [] := by simpa using hempty
    by_cases hlong : longestPath < (Utf8.encode path.toList).length
    · simp [hempty, hlong, Nat.not_le.2 hlong]
    · simp only [hlist, if_false, hlong]
      change Except.mapError _ (t.walk (origin t.home path) (steps path)) = _ ↔ _
      cases t.walk (origin t.home path) (steps path) with
      | error f => exact iff_of_false (fun h => by cases h) (fun h => by cases h.2.2.2)
      | ok m =>
        refine ⟨fun h => ⟨trivial, hempty, Nat.le_of_not_lt hlong, ?_⟩, fun h => ?_⟩
        · cases h
          rfl
        · cases h.2.2.2
          rfl

/-- A text that names no file is told apart from all that the files refuse. -/
theorem locate_error_cases {t : FileTree} {path : String} {e : FileError}
    (h : t.locate path = .error e) :
    (∃ fault, nameFault? path.toList = some fault ∧ e = .unnameable fault) ∨
      ∃ fault, e = .refused fault path := by
  simp only [locate] at h
  cases hname : nameFault? path.toList with
  | some fault =>
    rw [hname] at h
    cases h
    exact Or.inl ⟨fault, rfl, rfl⟩
  | none =>
    simp only [hname] at h
    split at h
    · cases h
      exact Or.inr ⟨_, rfl⟩
    split at h
    · cases h
      exact Or.inr ⟨_, rfl⟩
    generalize t.walk _ _ = walked at h
    cases walked with
    | ok l => cases h
    | error fault =>
      cases h
      exact Or.inr ⟨fault, rfl⟩

theorem read_error_cases {t : FileTree} {path : String} {e : FileError}
    (h : t.read path = .error e) :
    (∃ fault, nameFault? path.toList = some fault ∧ e = .unnameable fault) ∨
      ∃ fault, e = .refused fault path := by
  simp only [read, find, bind, Except.bind] at h
  cases hlocate : t.locate path with
  | error f =>
    rw [hlocate] at h
    cases h
    exact locate_error_cases hlocate
  | ok l =>
    -- From here on the files decide, and whatever they answer, they refuse.
    simp only [hlocate] at h
    right
    cases hthere : t.get? l with
    | none =>
      rw [hthere] at h
      cases h
      exact ⟨_, rfl⟩
    | some entry =>
      cases entry with
      | directory =>
        rw [hthere] at h
        cases h
        exact ⟨_, rfl⟩
      | file c =>
        simp only [hthere] at h
        cases hslash : endsInSlash path with
        | true =>
          rw [hslash] at h
          cases h
          exact ⟨_, rfl⟩
        | false =>
          rw [hslash] at h
          cases h

theorem read_of_nameFault {t : FileTree} {path : String} {fault : NameFault}
    (h : nameFault? path.toList = some fault) : t.read path = .error (.unnameable fault) := by
  simp only [read, find, locate, h]
  rfl

theorem eq_destination_of_locate {t : FileTree} {path : String} {l : Location}
    (h : t.locate path = .ok l) : l = destination t.home path :=
  eq_foldl_of_walk (locate_eq_ok_iff.1 h).2.2.2

/-- The second tree has the working directory and all directories of the first. -/
structure Keeps (t u : FileTree) : Prop where
  home : u.home = t.home
  directory : ∀ ⦃l⦄, t.get? l = some .directory → u.get? l = some .directory

theorem Keeps.walk {t u : FileTree} (k : Keeps t u) {loc l : Location}
    {parts : List (List Char)} (h : t.walk loc parts = .ok l) : u.walk loc parts = .ok l := by
  induction parts generalizing loc with
  | nil => exact h
  | cons part rest ih =>
    rw [walk_cons_eq_ok_iff] at h ⊢
    obtain ⟨hdirectory, hname, hrest⟩ := h
    exact ⟨k.directory hdirectory, hname, ih hrest⟩

theorem Keeps.locate {t u : FileTree} (k : Keeps t u) {path : String} {l : Location}
    (h : t.locate path = .ok l) : u.locate path = .ok l := by
  obtain ⟨hfault, hempty, hlong, hwalk⟩ := locate_eq_ok_iff.1 h
  refine locate_eq_ok_iff.2 ⟨hfault, hempty, hlong, ?_⟩
  rw [k.home]
  exact k.walk hwalk

theorem get?_of_above {t : FileTree} {l : Location} (h : l.isPrefixOf t.home = true) :
    t.get? l = some .directory := by
  rw [get?, if_pos h]

theorem get?_home (t : FileTree) : t.get? t.home = some .directory :=
  get?_of_above (List.isPrefixOf_iff_prefix.2 List.prefix_rfl)

theorem not_above_of_get?_ne {t : FileTree} {l : Location} (h : t.get? l ≠ some .directory) :
    l.isPrefixOf t.home = false := by
  cases hp : l.isPrefixOf t.home with
  | false => rfl
  | true => exact absurd (get?_of_above hp) h

end VisualNovel.FileTree
