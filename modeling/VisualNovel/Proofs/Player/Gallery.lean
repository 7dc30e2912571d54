import VisualNovel.Player.Run
import VisualNovel.Proofs.Cache.Index
import VisualNovel.Proofs.Files.Remove

/-!
# The directory of the drawings

Drawings are numbered, and no name of a drawing writes a fingerprint. Before a play the directory of
the drawings is made if it is missing, and all drawings that it has are removed from it.
-/
namespace VisualNovel.Play

open FileTree (destination)

theorem toList_drawingName (n : Nat) :
    (drawingName n).toList =
      'r' :: 'e' :: 'n' :: 'd' :: 'e' :: 'r' :: '_' :: (Text.natDigits 10 n ++ ['.', 'p', 'n', 'g']) := by
  simp [drawingName, Text.natText]

theorem isName_drawingName (n : Nat) : Path.IsName (drawingName n) := by
  have htoList := toList_drawingName n
  refine ⟨⟨?_, ?_, ?_⟩, ?_⟩
  · intro h
    simp [h] at htoList
  · intro h
    simp [h] at htoList
  · rw [htoList]
    have hdigits := Text.not_mem_natDigits (c := '/') (by decide) n
    simp [hdigits]
  · intro h
    simp [h] at htoList

theorem isDrawing_drawingName (n : Nat) : isDrawing (drawingName n) = true := by
  have hending : ['.', 'p', 'n', 'g'].isSuffixOf (drawingName n).toList = true := by
    rw [List.isSuffixOf_iff_suffix, toList_drawingName]
    exact ⟨'r' :: 'e' :: 'n' :: 'd' :: 'e' :: 'r' :: '_' :: Text.natDigits 10 n, rfl⟩
  simp only [isDrawing, hending]
  simp [toList_drawingName]

theorem drawingName_inj {m n : Nat} (h : drawingName m = drawingName n) : m = n := by
  have hdigits : Text.natDigits 10 m = Text.natDigits 10 n := by
    have htoList := congrArg String.toList h
    rw [toList_drawingName, toList_drawingName] at htoList
    simpa using htoList
  rw [← Text.ofDigits_natDigits m, hdigits, Text.ofDigits_natDigits]

theorem fingerprintOf?_drawingName (n : Nat) :
    RenderCache.fingerprintOf? ⟨"", [drawingName n]⟩ = none := by
  have hsplit : Text.splitLast '.' (drawingName n).toList =
      some ('r' :: 'e' :: 'n' :: 'd' :: 'e' :: 'r' :: '_' :: Text.natDigits 10 n, ['p', 'n', 'g']) := by
    rw [toList_drawingName]
    exact Text.splitLast_eq_some_iff.2 ⟨by decide, rfl⟩
  have hstem : (Path.stem ⟨"", [drawingName n]⟩).toList =
      'r' :: 'e' :: 'n' :: 'd' :: 'e' :: 'r' :: '_' :: Text.natDigits 10 n := by
    rw [Path.stem, show Path.name ⟨"", [drawingName n]⟩ = drawingName n from rfl, hsplit]
    exact String.toList_ofList
  have hletter : Text.isAsciiDigit 'r' = false := by decide
  simp [RenderCache.fingerprintOf?, hstem, hletter]

theorem isDrawing_kept (n : Nat) : isDrawing (RenderCache.drawingName n) = false := by
  have hdigits := Text.not_mem_natDigits (c := 'r') (by decide) n
  obtain ⟨digit, rest, htext⟩ := List.exists_cons_of_ne_nil (Text.natDigits_ne_nil n)
  have hne : 'r' ≠ digit := by
    rintro rfl
    exact hdigits (htext ▸ List.mem_cons_self)
  simp [isDrawing, RenderCache.toList_drawingName, htext, List.isPrefixOf, hne]

theorem drawingName_ne (m n : Nat) : drawingName m ≠ RenderCache.drawingName n := by
  intro h
  have hm := fingerprintOf?_drawingName m
  rw [h, RenderCache.fingerprintOf?_drawingName] at hm
  cases hm

variable {out : Path} {s s' : Session}

def removed (out : Path) (names : List String) (t : FileTree) : Except FileError FileTree :=
  names.foldlM (fun t name => t.remove (out.child name).text) t

/-- The files with the directory of the drawings and no drawing in it. -/
def cleared (out : Path) (t : FileTree) : Except FileError FileTree := do
  let t ← t.ensureDirectory out
  removed out ((← t.list out.text).filter isDrawing) t

/-- How an operation ends that changes the files alone, and writes in the journal. -/
def Makes (outcome : Except FileError FileTree) (s : Session)
    (result : EStateM.Result Failure Session Unit) : Prop :=
  match outcome with
  | .ok files => ∃ journal, result = .ok () { s with files, journal }
  | .error _ => ∃ e s', result = .error e s'

theorem makes_removed (out : Path) (names : List String) (s : Session) :
    Makes (removed out names s.files) s
      ((ForIn.forIn names PUnit.unit fun name _ => do
        Session.note "vn_play" .debug ("Removing file " ++ name)
        Session.alter fun files => files.remove (out.child name).text
        pure (ForInStep.yield PUnit.unit) : Action PUnit).run s) := by
  induction names generalizing s with
  | nil => exact ⟨s.journal, rfl⟩
  | cons name rest ih =>
    simp only [removed, List.foldlM_cons, List.forIn_cons, bind_assoc, pure_bind, EStateM.run_bind,
      Session.run_note, Session.run_alter]
    cases hremove : s.files.remove (out.child name).text with
    | error e => exact ⟨_, _, rfl⟩
    | ok files => exact ih { s with files, journal := _ }

theorem makes_cleared (out : Path) (s : Session) :
    Makes (cleared out s.files) s ((clearDrawings out).run s) := by
  rw [clearDrawings, EStateM.run_bind, Session.run_alter]
  cases hensure : s.files.ensureDirectory out with
  | error e =>
    simp only [cleared, hensure]
    exact ⟨_, _, rfl⟩
  | ok t =>
    simp only [EStateM.run_bind, Session.run_consult]
    cases hlist : t.list out.text with
    | error e =>
      simp only [cleared, hensure, bind, Except.bind, hlist]
      exact ⟨_, _, rfl⟩
    | ok names =>
      have hcleared : cleared out s.files = removed out (names.filter isDrawing) t := by
        simp only [cleared, hensure, bind, Except.bind, hlist]
      have hloop := makes_removed out (names.filter isDrawing) { s with files := t }
      rw [hcleared]
      cases hremoved : removed out (names.filter isDrawing) t with
      | error e =>
        rw [hremoved] at hloop
        obtain ⟨e, s', hrun⟩ := hloop
        exact ⟨e, s', by simp only [hrun]⟩
      | ok files =>
        rw [hremoved] at hloop
        obtain ⟨journal, hrun⟩ := hloop
        exact ⟨journal, by simp only [hrun]; rfl⟩

theorem of_removed {names : List String} {t u : FileTree} (h : removed out names t = .ok u)
    (hdirectory : t.isDirectory out.text = true) :
    u.home = t.home ∧ (∀ l e, u.get? l = some e → t.get? l = some e) ∧
      u.isDirectory out.text = true := by
  induction names generalizing t with
  | nil =>
    cases h
    exact ⟨rfl, fun _ _ he => he, hdirectory⟩
  | cons name rest ih =>
    rw [removed, List.foldlM_cons] at h
    obtain ⟨v, hremove, hrest⟩ := exists_of_bind h
    obtain ⟨hhome, hget, hout⟩ := ih hrest (FileTree.isDirectory_of_remove hremove hdirectory)
    obtain ⟨l, c, -, -, -, rfl⟩ := FileTree.remove_eq_ok_iff.1 hremove
    exact ⟨hhome, fun m e he => FileTree.get?_of_get?_drop (hget m e he), hout⟩

/-- Clearing the directory of the drawings makes directories and removes files at most. -/
theorem of_cleared {t u : FileTree} (h : cleared out t = .ok u) :
    u.home = t.home ∧
      (∀ l e, u.get? l = some e →
        t.get? l = some e ∨ e = .directory ∧ ∃ m s, l = m ++ [s] ∧ Path.IsName s) ∧
      u.isDirectory out.text = true := by
  obtain ⟨v, hensure, hrest⟩ := exists_of_bind h
  obtain ⟨names, -, hremoved⟩ := exists_of_bind hrest
  obtain ⟨hadds, hdirectory⟩ := FileTree.addsDirectories_ensureDirectory hensure
  obtain ⟨hhome, hget, hout⟩ := of_removed hremoved hdirectory
  refine ⟨hhome.trans hadds.home, fun l e he => ?_, hout⟩
  rcases hadds.get? l with hv | ⟨-, hv, hname⟩
  · exact Or.inl (hv.symm.trans (hget l e he))
  · exact Or.inr ⟨Option.some.inj ((hget l e he).symm.trans hv), hname⟩

theorem get?_of_removed (proper : out.Proper) {names : List String} {t u : FileTree}
    (h : removed out names t = .ok u) (hdirectory : t.isDirectory out.text = true) {name : String}
    (hname : Path.IsName name) (hmem : name ∈ names) :
    u.get? (destination t.home out.text ++ [name]) = none := by
  induction names generalizing t with
  | nil => cases hmem
  | cons first rest ih =>
    rw [removed, List.foldlM_cons] at h
    obtain ⟨v, hremove, hrest⟩ := exists_of_bind h
    have hvdirectory := FileTree.isDirectory_of_remove hremove hdirectory
    obtain ⟨-, hget, -⟩ := of_removed hrest hvdirectory
    obtain ⟨l, c, hlocate, hfile, -, rfl⟩ := FileTree.remove_eq_ok_iff.1 hremove
    rcases List.mem_cons.1 hmem with rfl | hmem
    · obtain ⟨m, hm, -, rfl⟩ := Path.locate_of_locate_child proper hname hlocate
      rw [← FileTree.eq_destination_of_locate hm]
      apply Option.eq_none_iff_forall_ne_some.2
      intro e hleft
      have hdropped := hget _ _ hleft
      rw [FileTree.get?_drop_self hfile] at hdropped
      cases hdropped
    · exact ih (t := t.drop l) hrest hvdirectory hmem

/-- After the directory has been cleared nothing in it has the name of a drawing. -/
theorem get?_of_cleared (proper : out.Proper) {t u : FileTree} (h : cleared out t = .ok u)
    {name : String} (hname : Path.IsName name) (hdrawing : isDrawing name = true) :
    u.get? (destination u.home out.text ++ [name]) = none := by
  obtain ⟨v, hensure, hrest⟩ := exists_of_bind h
  obtain ⟨names, hnames, hremoved⟩ := exists_of_bind hrest
  obtain ⟨-, hdirectory⟩ := FileTree.addsDirectories_ensureDirectory hensure
  obtain ⟨hhome, hget, -⟩ := of_removed hremoved hdirectory
  obtain ⟨l, hlocate, hl⟩ := FileTree.isDirectory_iff.1 hdirectory
  obtain ⟨listed, hlisted, hlist⟩ := FileTree.list_of_isDirectory hlocate hl
  obtain rfl : names = listed := Except.ok.inj (hnames.symm.trans hlisted)
  rw [hhome]
  by_cases hmem : name ∈ names
  · have hfiltered : name ∈ names.filter isDrawing := List.mem_filter.2 ⟨hmem, hdrawing⟩
    exact get?_of_removed proper hremoved hdirectory hname hfiltered
  · rw [hlist, Classical.not_not, FileTree.eq_destination_of_locate hlocate] at hmem
    apply Option.eq_none_iff_forall_ne_some.2
    intro e hleft
    cases hmem.symm.trans (hget _ _ hleft)

end VisualNovel.Play
