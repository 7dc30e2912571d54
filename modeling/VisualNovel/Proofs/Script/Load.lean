import VisualNovel.Proofs.Files.Location
import VisualNovel.Proofs.Picture.Portrait
import VisualNovel.Proofs.Script.Format
import VisualNovel.Proofs.Text.Utf8
import VisualNovel.Script.Load

/-!
# What loading a script does

A script is parsed from what its file holds, and nothing but the journal changes. A picture that was
painted on a canvas is not the text of any script.
-/
namespace VisualNovel

open VisualNovel.Text

namespace Script

variable {script : Script} {name path : String} {content : Content} {source : List Char}

/-- The content of a file is the text of a script. -/
def Holds (content : Content) (name : String) (script : Script) : Prop :=
  ∃ chars, Utf8.decode content.data = .ok chars ∧
    parseChars (unifyLineEnds chars) name = .ok script

theorem exists_of_readSource {files : FileTree} (h : readSource files path = .ok source) :
    ∃ content chars, files.read path = .ok content ∧ Utf8.decode content.data = .ok chars ∧
      source = unifyLineEnds chars := by
  simp only [readSource] at h
  split at h
  · rename_i content hread
    split at h
    · rename_i chars hchars
      exact ⟨content, chars, hread, hchars, (Except.ok.inj h).symm⟩
    · cases h
  · cases h
  · cases h
  · cases h

theorem readSource_of_read {files : FileTree} {chars : List Char}
    (read : files.read path = .ok content) (decoded : Utf8.decode content.data = .ok chars) :
    readSource files path = .ok (unifyLineEnds chars) := by
  simp only [readSource, read, decoded]

/-- Whatever is wrong with a file is wrong with the script, unless its text names no file. -/
theorem readSource_error_cases {files : FileTree} {e : Failure}
    (h : readSource files path = .error e) :
    (∃ fault, FileTree.nameFault? path.toList = some fault ∧ e = .file (.unnameable fault)) ∨
      ∃ s, e = .script s := by
  cases hread : files.read path with
  | ok content =>
    simp only [readSource, hread] at h
    split at h
    · cases h
    · cases h
      exact Or.inr ⟨_, rfl⟩
  | error f =>
    obtain ⟨fault, hname, rfl⟩ | ⟨fault, rfl⟩ := FileTree.read_error_cases hread
    · simp only [readSource, hread] at h
      cases h
      exact Or.inl ⟨fault, hname, rfl⟩
    · cases fault <;>
      · simp only [readSource, hread] at h
        cases h
        exact Or.inr ⟨_, rfl⟩

theorem readSource_of_nameFault {files : FileTree} {fault : NameFault}
    (h : FileTree.nameFault? path.toList = some fault) :
    readSource files path = .error (.file (.unnameable fault)) := by
  simp only [readSource, FileTree.read_of_nameFault h]

theorem exists_parseChars_error (rest : List Char) (name : String) :
    ∃ e, parseChars ('c' :: rest) name = .error e := by
  have hletter : 'c' ≠ '\n' := by decide
  obtain ⟨line, lines, -, hlines⟩ := splitAll_cons_of_ne hletter rest
  have hsource : sourceLines ('c' :: rest) =
      ('c' :: line.filter (· ≠ '\r')) :: lines.map fun l => l.filter (· ≠ '\r') := by
    rw [sourceLines, linesLF, hlines, List.map_cons, List.filter_cons_of_pos (by decide)]
  have hkind : kindOf ('c' :: line.filter (· ≠ '\r')) = .text := by
    simp [kindOf, show isBlank 'c' = false by decide]
  rw [parseChars, hsource, readLines_cons _ _ _ (read_of_text _ hkind)]
  exact ⟨_, rfl⟩

theorem Holds.not_painted (h : Holds content name script) : ¬content.Painted := by
  rintro ⟨picture, width, height, rfl, ground⟩
  obtain ⟨chars, hdecoded, hparsed⟩ := h
  rw [Content.data, Utf8.encodeString, Utf8.decode_encode] at hdecoded
  have haccount := Except.ok.inj hdecoded
  have hhead := Surface.head?_account ground
  rw [haccount] at hhead
  obtain ⟨rest, rfl⟩ := List.head?_eq_some_iff.1 hhead
  have hunified : unifyLineEnds ('c' :: rest) = 'c' :: unifyLineEnds rest := by
    rw [unifyLineEnds]
    · rfl
    · intro _ hreturn
      exact absurd hreturn (by decide)
  rw [hunified] at hparsed
  obtain ⟨e, herror⟩ := exists_parseChars_error (unifyLineEnds rest) name
  rw [herror] at hparsed
  cases hparsed

end Script

namespace Session

variable {script : Script} {path : Path} {name : Option String} {content : Content} {s t : Session}

theorem exists_of_run_loadScript (h : (loadScript path name).run s = .ok script t) :
    ∃ content, s.files.read path.text = .ok content ∧
      Script.Holds content (name.getD path.text) script ∧ t = { s with journal := t.journal } := by
  obtain ⟨_, _, hget, hread⟩ := exists_of_run_bind h
  cases hget
  obtain ⟨source, s', hsource, hnote⟩ := exists_of_run_bind hread
  obtain ⟨hsource, rfl⟩ := eq_of_run_attempt hsource
  obtain ⟨_, s', hnoted, hparse⟩ := exists_of_run_bind hnote
  cases hnoted
  obtain ⟨content, chars, hcontent, hchars, rfl⟩ := Script.exists_of_readSource hsource
  rw [parseScript] at hparse
  cases hscript : Script.parseChars (unifyLineEnds chars) (name.getD path.text) with
  | error e =>
    rw [hscript] at hparse
    cases hparse
  | ok parsed =>
    rw [hscript] at hparse
    cases hparse
    exact ⟨content, hcontent, ⟨chars, hchars, hscript⟩, rfl⟩

theorem run_loadScript_of_readSource (name : Option String) {source : List Char}
    (read : Script.readSource s.files path.text = .ok source) :
    ∃ journal, (loadScript path name).run s =
      match Script.parseChars source (name.getD path.text) with
      | .ok script => .ok script { s with journal }
      | .error e => .error (Failure.ofParse e) { s with journal } := by
  simp only [loadScript, EStateM.run_bind, EStateM.run_get, run_attempt, read, run_note, parseScript]
  cases Script.parseChars source (name.getD path.text) <;> exact ⟨_, rfl⟩

theorem run_loadScript_of_readSource_error (name : Option String) {e : Failure}
    (read : Script.readSource s.files path.text = .error e) :
    (loadScript path name).run s = .error e s := by
  simp only [loadScript, EStateM.run_bind, EStateM.run_get, run_attempt, read]

theorem exists_run_loadScript (s : Session) (read : s.files.read path.text = .ok content)
    (holds : Script.Holds content (name.getD path.text) script) :
    ∃ journal, (loadScript path name).run s = .ok script { s with journal } := by
  obtain ⟨chars, hchars, hscript⟩ := holds
  obtain ⟨journal, hrun⟩ :=
    run_loadScript_of_readSource name (Script.readSource_of_read read hchars)
  rw [hscript] at hrun
  exact ⟨journal, hrun⟩

theorem exists_run_loadScript_error_iff {e : Failure} :
    (∃ t, (loadScript path name).run s = .error e t) ↔
      Script.readSource s.files path.text = .error e ∨
        ∃ source f, Script.readSource s.files path.text = .ok source ∧
          Script.parseChars source (name.getD path.text) = .error f ∧ e = Failure.ofParse f := by
  cases hsource : Script.readSource s.files path.text with
  | error f => simp [run_loadScript_of_readSource_error name hsource, eq_comm]
  | ok source =>
    obtain ⟨journal, hrun⟩ := run_loadScript_of_readSource name hsource
    rw [hrun]
    cases hscript : Script.parseChars source (name.getD path.text) with
    | error f => simp [hscript, eq_comm]
    | ok script =>
      apply iff_of_false
      · rintro ⟨t, ht⟩
        cases ht
      · simp [hscript]

end Session

end VisualNovel
