import VisualNovel.Cache.Basic
import VisualNovel.Proofs.Files.Change
import VisualNovel.Proofs.Session.Action
import VisualNovel.Proofs.Text.Digit

/-!
# The index of a cache

The file of a fingerprint has a name that gives the fingerprint back. Enabling a cache makes its
directory and reads the index from the names of the files in it, so whatever is found afterwards was
named there and every file that names a fingerprint is found.
-/
namespace VisualNovel.RenderCache

open VisualNovel.Text

def drawingName (fingerprint : Nat) : String :=
  natText fingerprint ++ ".png"

theorem fileOf_eq (directory : Path) (n : Nat) :
    fileOf directory n = directory.child (drawingName n) := by
  have hn : ¬((n : Int) < 0) := by omega
  rw [fileOf, intText, if_neg hn, Int.natAbs_natCast]
  rfl

theorem toList_drawingName (n : Nat) :
    (drawingName n).toList = natDigits 10 n ++ ['.', 'p', 'n', 'g'] := by
  rw [drawingName, natText, String.toList_append, String.toList_ofList]
  rfl

theorem isName_drawingName (n : Nat) : Path.IsName (drawingName n) := by
  have hlong : 4 < (drawingName n).toList.length := by
    have := List.length_pos_iff.2 (natDigits_ne_nil n)
    rw [toList_drawingName, List.length_append]
    simp only [List.length_cons, List.length_nil]
    omega
  refine ⟨⟨?_, ?_, ?_⟩, ?_⟩
  · intro h
    simp [h] at hlong
  · intro h
    simp [h] at hlong
  · rw [toList_drawingName, List.mem_append, not_or]
    exact ⟨not_mem_natDigits (by decide) n, by decide⟩
  · intro h
    simp [h] at hlong

theorem name_child (p : Path) {s : String} (hs : Path.IsPart s) : (p.child s).name = s := by
  rw [Path.child_of_isPart p hs, Path.name]
  simp

theorem fingerprintOf?_child (p : Path) (n : Nat) :
    fingerprintOf? (p.child (drawingName n)) = some n := by
  have hsplit : splitLast '.' (drawingName n).toList =
      some (natDigits 10 n, ['p', 'n', 'g']) := by
    rw [toList_drawingName]
    exact splitLast_eq_some_iff.2 ⟨by decide, rfl⟩
  have hstem : (p.child (drawingName n)).stem = natText n := by
    rw [Path.stem, name_child p (isName_drawingName n).toIsPart, hsplit]
    cases hdigits : natDigits 10 n with
    | nil => exact absurd hdigits (natDigits_ne_nil n)
    | cons d ds => rw [natText, hdigits]
  simp only [fingerprintOf?, hstem, natText, String.toList_ofList]
  rw [if_pos ⟨natDigits_ne_nil n, all_isAsciiDigit_natDigits n⟩, ofDigits_natDigits]

theorem fingerprintOf?_eq (p : Path) {s : String} (hs : Path.IsPart s) :
    fingerprintOf? (p.child s) = fingerprintOf? ⟨"", [s]⟩ := by
  have hstem : (p.child s).stem = Path.stem ⟨"", [s]⟩ := by
    rw [Path.stem, Path.stem, name_child p hs]
    rfl
  rw [fingerprintOf?, fingerprintOf?, hstem]

theorem fingerprintOf?_drawingName (n : Nat) : fingerprintOf? ⟨"", [drawingName n]⟩ = some n := by
  rw [← fingerprintOf?_eq ⟨"", []⟩ (isName_drawingName n).toIsPart]
  exact fingerprintOf?_child _ n

theorem drawingName_inj {m n : Nat} (h : drawingName m = drawingName n) : m = n := by
  have hm := fingerprintOf?_child ⟨"", []⟩ m
  rw [h, fingerprintOf?_child] at hm
  exact (Option.some.inj hm).symm

/-- An index with one more file, if it is the file of a drawing. -/
def enter (t : FileTree) (index : List (Int × Path)) (file : Path) : List (Int × Path) :=
  match fingerprintOf? file, t.isFile file.text with
  | some fingerprint, true => keep fingerprint file index
  | _, _ => index

theorem enter_of_isFile {t : FileTree} {file : Path} {n : Nat} (index : List (Int × Path))
    (hn : fingerprintOf? file = some n) (hfile : t.isFile file.text = true) :
    enter t index file = keep n file index := by
  rw [enter, hn, hfile]

theorem enter_cases (t : FileTree) (index : List (Int × Path)) (file : Path) :
    enter t index file = index ∨
      ∃ n, fingerprintOf? file = some n ∧ t.isFile file.text = true ∧
        enter t index file = keep n file index := by
  cases hn : fingerprintOf? file with
  | none =>
    left
    rw [enter, hn]
  | some n =>
    cases hfile : t.isFile file.text with
    | false =>
      left
      rw [enter, hn, hfile]
    | true => exact Or.inr ⟨n, rfl, rfl, enter_of_isFile index hn hfile⟩

theorem run_indexEntry (index : List (Int × Path)) (file : Path) (s : Session) :
    ∃ journal, (indexEntry index file).run s =
      .ok (enter s.files index file) { s with journal } := by
  rw [indexEntry, EStateM.run_bind, EStateM.run_get, enter]
  cases fingerprintOf? file with
  | none => exact ⟨_, rfl⟩
  | some n =>
    cases hfile : s.files.isFile file.text with
    | false =>
      simp only [hfile]
      exact ⟨_, rfl⟩
    | true =>
      simp only [hfile]
      exact ⟨_, rfl⟩

def scan (t : FileTree) (index : List (Int × Path)) (files : List Path) : List (Int × Path) :=
  files.foldl (enter t) index

theorem run_foldlM_indexEntry (files : List Path) (index : List (Int × Path)) (s : Session) :
    ∃ journal, (files.foldlM indexEntry index).run s =
      .ok (scan s.files index files) { s with journal } := by
  induction files generalizing index s with
  | nil => exact ⟨s.journal, rfl⟩
  | cons file rest ih =>
    obtain ⟨journal, hentry⟩ := run_indexEntry index file s
    obtain ⟨journal', hrest⟩ := ih (enter s.files index file) { s with journal }
    refine ⟨journal', ?_⟩
    rw [List.foldlM_cons, EStateM.run_bind, hentry]
    exact hrest

/-- What is found in the index was there before or is a file that names its fingerprint. -/
theorem of_lookup_scan {t : FileTree} {index : List (Int × Path)} {files : List Path}
    {P : Int → Path → Prop} (before : ∀ k p, index.lookup k = some p → P k p)
    (named : ∀ p ∈ files, ∀ n, fingerprintOf? p = some n → t.isFile p.text = true → P n p)
    {k : Int} {p : Path} (h : (scan t index files).lookup k = some p) : P k p := by
  induction files generalizing index with
  | nil => exact before k p h
  | cons file rest ih =>
    refine ih (fun j q hq => ?_) (fun q hq => named q (List.mem_cons_of_mem _ hq)) h
    rcases enter_cases t index file with henter | ⟨n, hn, hfile, henter⟩
    · rw [henter] at hq
      exact before j q hq
    · rw [henter, lookup_keep] at hq
      split at hq
      · rename_i hj
        cases hq
        rw [hj]
        exact named file List.mem_cons_self n hn hfile
      · exact before j q hq

/-- What is in the index stays found, even if under another file. -/
theorem isSome_lookup_scan_of_before {t : FileTree} {index : List (Int × Path)}
    (files : List Path) {k : Int} (h : (index.lookup k).isSome = true) :
    ((scan t index files).lookup k).isSome = true := by
  induction files generalizing index with
  | nil => exact h
  | cons file rest ih =>
    refine ih ?_
    rcases enter_cases t index file with henter | ⟨n, -, -, henter⟩
    · rwa [henter]
    · rw [henter, lookup_keep]
      split
      · rfl
      · exact h

theorem isSome_lookup_scan {t : FileTree} (index : List (Int × Path)) {files : List Path}
    {p : Path} {n : Nat} (hp : p ∈ files) (hn : fingerprintOf? p = some n)
    (hfile : t.isFile p.text = true) :
    ((scan t index files).lookup (n : Int)).isSome = true := by
  induction files generalizing index with
  | nil => cases hp
  | cons file rest ih =>
    rcases List.mem_cons.1 hp with rfl | hp
    · refine isSome_lookup_scan_of_before rest ?_
      rw [enter_of_isFile index hn hfile, lookup_keep, if_pos rfl]
      rfl
    · exact ih (enter t index file) hp

theorem run_enable_of_error {c : RenderCache} {s : Session} {e : FileError}
    (h : s.files.ensureDirectory c.directory = .error e) :
    c.enable.run s = .error (.file e) s := by
  rw [enable, EStateM.run_bind, Session.run_alter, h]

/-- Enabling a cache makes its directory and reads the index from it. -/
theorem run_enable_of_ok {c : RenderCache} {s : Session} {t : FileTree}
    (h : s.files.ensureDirectory c.directory = .ok t) :
    ∃ names journal, t.list c.directory.text = .ok names ∧
      c.enable.run s =
        .ok { c with index := scan t [] (names.map c.directory.child), enabled := true }
          { s with files := t, journal } := by
  obtain ⟨-, hdirectory⟩ := FileTree.addsDirectories_ensureDirectory h
  obtain ⟨l, hlocate, hl⟩ := FileTree.isDirectory_iff.1 hdirectory
  obtain ⟨names, hnames, -⟩ := FileTree.list_of_isDirectory hlocate hl
  obtain ⟨journal, hindex⟩ :=
    run_foldlM_indexEntry (names.map c.directory.child) [] { s with files := t }
  refine ⟨names, ?_⟩
  rw [enable, EStateM.run_bind, Session.run_alter, h]
  simp only [EStateM.run_bind, Session.run_consult, hnames, hindex, Session.run_note,
    EStateM.run_pure, true_and]
  exact ⟨_, rfl⟩

end VisualNovel.RenderCache
