import VisualNovel.Proofs.Script.Load
import VisualNovel.Proofs.Text.Field

/-!
# Scripts in files

A file holds the text of a script in UTF-8. Where every carriage return ends a line together with a line
feed it is all one whether the line ends are made alike before the text is cut into lines or the carriage
returns are dropped from the lines; so the script is the one that is parsed from the text itself.
-/
namespace VisualNovel

namespace Text

/-- Every carriage return stands right in front of a line feed. -/
def PairedReturns (s : List Char) : Prop :=
  ∀ a b, s = a ++ '\r' :: b → ∃ c, b = '\n' :: c

variable {s : List Char}

theorem pairedReturns_nil : PairedReturns [] := by
  intro a b hs
  simp at hs

theorem pairedReturns_cons_iff {c : Char} :
    PairedReturns (c :: s) ↔ (c = '\r' → s.head? = some '\n') ∧ PairedReturns s := by
  constructor
  · intro h
    refine ⟨?_, fun a b hs => h (c :: a) b (by rw [hs]; rfl)⟩
    rintro rfl
    obtain ⟨rest, rfl⟩ := h [] s rfl
    rfl
  · rintro ⟨hc, hs⟩ a b heq
    rcases List.cons_eq_append_iff.1 heq with ⟨-, hb⟩ | ⟨front, -, hfront⟩
    · obtain ⟨rfl, rfl⟩ := List.cons.inj hb
      exact List.head?_eq_some_iff.1 (hc rfl)
    · exact hs front b hfront

instance decidablePairedReturns : (s : List Char) → Decidable (PairedReturns s)
  | [] => .isTrue pairedReturns_nil
  | _ :: s =>
    haveI := decidablePairedReturns s
    decidable_of_iff _ pairedReturns_cons_iff.symm

theorem unifyLineEnds_cons {c : Char} (h : c ≠ '\r') (s : List Char) :
    unifyLineEnds (c :: s) = c :: unifyLineEnds s := by
  rw [unifyLineEnds, if_neg h]
  intro _ hc
  exact absurd hc h

/-- Of a carriage return with its line feed only the line feed counts. -/
theorem unifyLineEnds_eq_filter (h : PairedReturns s) :
    unifyLineEnds s = s.filter (· ≠ '\r') := by
  induction s with
  | nil => rfl
  | cons c r ih =>
    obtain ⟨hreturn, hr⟩ := pairedReturns_cons_iff.1 h
    by_cases hc : c = '\r'
    · obtain ⟨rest, rfl⟩ := List.head?_eq_some_iff.1 (hreturn hc)
      subst hc
      rw [List.filter_cons_of_neg (by simp), ← ih hr, unifyLineEnds, unifyLineEnds_cons (by decide)]
    · rw [unifyLineEnds_cons hc, ih hr, List.filter_cons_of_pos (by simpa using hc)]

end Text

open VisualNovel.Text

namespace Script

/-- Dropping the carriage returns of a source drops those of its lines. -/
theorem sourceLines_filter (source : List Char) :
    sourceLines (source.filter (· ≠ '\r')) = sourceLines source := by
  rw [sourceLines, linesLF, splitAll_filter (by decide), List.map_map]
  apply List.map_congr_left
  intro line _
  simp

theorem parseChars_unifyLineEnds {source : List Char} (h : PairedReturns source) (name : String) :
    parseChars (unifyLineEnds source) name = parseChars source name := by
  rw [parseChars, unifyLineEnds_eq_filter h, sourceLines_filter, parseChars]

theorem readSource_of_encode {files : FileTree} {path : String} {content : Content} {text : String}
    (read : files.read path = .ok content) (encodes : content.data = Utf8.encodeString text) :
    readSource files path = .ok (unifyLineEnds text.toList) :=
  readSource_of_read read (Utf8.decode_eq_ok_iff.2 encodes)

theorem exists_readSource_error {files : FileTree} {path : String} {content : Content}
    (read : files.read path = .ok content)
    (noText : ∀ text : String, content.data ≠ Utf8.encodeString text) :
    ∃ e, readSource files path = .error (.script (.unreadable path (.encoding e))) := by
  cases hdecoded : Utf8.decode content.data with
  | error e => exact ⟨e, by simp only [readSource, read, hdecoded]⟩
  | ok chars =>
    refine absurd ?_ (noText (String.ofList chars))
    rw [Utf8.encodeString, String.toList_ofList]
    exact Utf8.decode_eq_ok_iff.1 hdecoded

end Script

namespace Session

variable {path : Path} {content : Content} {s : Session}

/-- A script means the same from its file as from its text. If a file holds the encoding of a text in
which carriage returns stand in front of line feeds only, what comes of loading it is what comes of
parsing the text by the same name, be it the script or the error, and nothing but the journal changes.
If it holds the encoding of no text, it is refused as unreadable. -/
theorem run_loadScript_of_file (name : Option String) (read : s.files.read path.text = .ok content) :
    (∀ text : String, content.data = Utf8.encodeString text → PairedReturns text.toList →
      ∃ journal, (loadScript path name).run s =
        match Script.parse text (name.getD path.text) with
        | .ok script => .ok script { s with journal }
        | .error e => .error (Failure.ofParse e) { s with journal }) ∧
    ((∀ text : String, content.data ≠ Utf8.encodeString text) →
      ∃ e, (loadScript path name).run s =
        .error (.script (.unreadable path.text (.encoding e))) s) := by
  constructor
  · intro text encodes paired
    obtain ⟨journal, hrun⟩ := run_loadScript_of_readSource name
      (Script.readSource_of_encode read encodes)
    rw [Script.parseChars_unifyLineEnds paired] at hrun
    exact ⟨journal, hrun⟩
  · intro noText
    obtain ⟨e, he⟩ := Script.exists_readSource_error read noText
    exact ⟨e, run_loadScript_of_readSource_error name he⟩

/-- Two files side by side: a directive between lines that end in different ways is refused at its
column without the return, and a byte that begins no character is no text. -/
theorem run_loadScript_of_file_returns :
    ∃ s : Session,
      (∃ journal, (loadScript (.ofText "a.txt") (some "a")).run s =
        .error (.script (.malformed ⟨"a", 3⟩ 5 .openParenthesis)) { s with journal }) ∧
      ∃ e, (loadScript (.ofText "b.txt")).run s =
        .error (.script (.unreadable "b.txt" (.encoding e))) s := by
  obtain ⟨s, hs⟩ : ∃ s : Session, s =
      { files := { entries := [
          (["a.txt"], .file (.bytes (Utf8.encodeString "[é]\nhi\r\n@jump\r\n"))),
          (["b.txt"], .file (.bytes [0xFF]))] } } := ⟨_, rfl⟩
  have hfirst : s.files.read (Path.ofText "a.txt").text =
      .ok (.bytes (Utf8.encodeString "[é]\nhi\r\n@jump\r\n")) := by
    rw [hs]
    rfl
  have hsecond : s.files.read (Path.ofText "b.txt").text = .ok (.bytes [0xFF]) := by
    rw [hs]
    rfl
  have hpaired : PairedReturns "[é]\nhi\r\n@jump\r\n".toList := by
    decide +kernel
  have hbytes (text : String) : (Content.bytes [0xFF]).data ≠ Utf8.encodeString text := by
    intro h
    have hdecoded := Utf8.decode_eq_ok_iff.2 h
    rw [Content.data, Utf8.decode, Utf8.decodeFrom] at hdecoded
    cases hdecoded
  obtain ⟨journal, hrun⟩ := (run_loadScript_of_file (some "a") hfirst).1 _ rfl hpaired
  obtain ⟨e, he⟩ := (run_loadScript_of_file none hsecond).2 hbytes
  exact ⟨s, ⟨journal, hrun⟩, e, he⟩

end Session

end VisualNovel
