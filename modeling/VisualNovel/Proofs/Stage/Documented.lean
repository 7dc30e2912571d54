import VisualNovel.Proofs.Script.Failure
import VisualNovel.Proofs.Script.Load
import VisualNovel.Proofs.Stage.Beside
import VisualNovel.Proofs.Stage.Library
import VisualNovel.Proofs.Stage.Retry

/-!
# Documented failures

A step is documented to fail on scripts that cannot be read, on pictures that cannot be loaded and on
attributes that cannot be written. It keeps to that on all files and for all texts of a script, with
two exceptions: the file that it looks for has a text that names no file, or the script that it loads
holds a numeral of too many digits.
-/
namespace VisualNovel

open VisualNovel.Text

def Failure.isDocumented : Failure → Bool
  | .script _ | .asset _ | .attribute _ => true
  | _ => false

namespace Stage

variable {p q : Play} {choice : Bool} {e : Failure} {target path : String}

/-- What makes a step fail in a way that is not documented. -/
inductive Derails (choice : Bool) (p : Play) : Failure → Prop where
  /-- It reads a file whose text names none. -/
  | name {file : Path} {fault : NameFault} (reads : ReadsFile choice p file)
      (unnameable : FileTree.nameFault? file.text.toList = some fault) :
      Derails choice p (.file (.unnameable fault))
  /-- It loads a script in which a numeral of too many digits is the first thing that is wrong. -/
  | numeral {target : String} {content : Content} {chars : List Char} {i count : Nat}
      (takes : p.stage.Takes choice target) (unheld : p.stage.held? target = none)
      (read : p.session.files.read (p.stage.fileOf target).text = .ok content)
      (decoded : Utf8.decode content.data = .ok chars)
      (overlong : Script.FirstOverlong ⟨target, 1⟩ (Script.sourceLines (unifyLineEnds chars)) i
        count) :
      Derails choice p (.digits count)

theorem readsFile_of_takes (takes : p.stage.Takes choice target)
    (unheld : p.stage.held? target = none) : ReadsFile choice p (p.stage.fileOf target) := by
  obtain ⟨choices, hevent, hfollowed⟩ := takes
  obtain ⟨hresolved, hmissing⟩ := Option.or_eq_none_iff.1 unheld
  exact .script hevent hfollowed hresolved hmissing

theorem exists_run_error_iff_of_takes (takes : p.stage.Takes choice target) :
    (∃ q, (advance choice).run p = .error e q) ↔ p.stage.held? target = none ∧
      ∃ session, (Session.loadScript (p.stage.fileOf target) (some target)).run p.session =
        .error e session := by
  rw [run_advance_of_takes takes]
  cases p.stage.held? target with
  | some script => simp
  | none =>
    simp only [true_and]
    cases (Session.loadScript (p.stage.fileOf target) (some target)).run p.session with
    | ok script session => simp
    | error f session => simp

/-- A change of the background fails as the load of its picture does. -/
theorem exists_run_error_iff_of_background
    (event : p.stage.current = some (.directive (.background path))) :
    (∃ q, (advance choice).run p = .error e q) ↔ p.stage.backdrops.lookup path = none ∧
      p.session.images.find p.session.files path = .error e := by
  simp only [advance, EStateM.run_bind, Play.run_stage?, event, changeBackground]
  cases p.stage.backdrops.lookup path with
  | some image => simp [Play.run_lift, Play.run_change]
  | none =>
    simp only [Option.isNone_none, if_true, EStateM.run_bind, Play.run_lift, true_and]
    rcases Session.loadImage_cases path p.session with
      ⟨image, journal, images, hfind, -, hload⟩ | ⟨f, hfind, hload⟩
    · simp [hload, hfind, Play.run_change]
    · simp [hload, hfind]

/-- The steps that neither follow a jump nor change the background fail as documented. -/
theorem isDocumented_of_run_error (run : (advance choice).run p = .error e q)
    (declined : ∀ target, ¬p.stage.Takes choice target)
    (still : ∀ path, p.stage.current ≠ some (.directive (.background path))) :
    e.isDocumented = true := by
  rw [advance, EStateM.run_bind, Play.run_stage?] at run
  cases hcurrent : p.stage.current with
  | none =>
    simp only [hcurrent] at run
    cases run
  | some event =>
    simp only [hcurrent] at run
    cases event with
    | dialogue speaker lines => cases run
    | directive d =>
      cases d with
      | jump target choices =>
        have hdeclined : ¬(choices.isNone || choice) = true :=
          fun hfollowed => declined target ⟨choices, hcurrent, hfollowed⟩
        simp only [hdeclined, Bool.false_eq_true, if_false] at run
        cases run
      | «show» name placement =>
        obtain ⟨cause, rfl⟩ := exists_of_showSprite (eq_error_of_stepped run)
        rfl
      | hide name placement => cases run
      | background path => exact absurd hcurrent (still path)
      | «attribute» path key value =>
        obtain ⟨cause, rfl⟩ := exists_of_writeAttribute (eq_error_of_stepped run)
        rfl
      | custom name arguments => cases run

/-- A load of a script fails as documented, on a text that names no file, or on a numeral. -/
theorem derails_of_loadScript (takes : p.stage.Takes choice target)
    (unheld : p.stage.held? target = none) (undocumented : e.isDocumented = false)
    (failed : ∃ session, (Session.loadScript (p.stage.fileOf target) (some target)).run p.session =
      .error e session) : Derails choice p e := by
  obtain hsource | ⟨source, f, hsource, hparse, rfl⟩ :=
    Session.exists_run_loadScript_error_iff.1 failed
  · obtain ⟨fault, hname, rfl⟩ | ⟨s, rfl⟩ := Script.readSource_error_cases hsource
    · exact .name (readsFile_of_takes takes unheld) hname
    · cases undocumented
  · cases f with
    | script s => cases undocumented
    | digits count =>
      obtain ⟨content, chars, hread, hdecoded, rfl⟩ := Script.exists_of_readSource hsource
      obtain ⟨i, hoverlong⟩ := Script.parseChars_eq_digits_iff.1 hparse
      exact .numeral takes unheld hread hdecoded hoverlong

/-- A load of a picture fails as documented or on a text that names no file. -/
theorem derails_of_loadImage (event : p.stage.current = some (.directive (.background path)))
    (fresh : p.stage.backdrops.lookup path = none) (undocumented : e.isDocumented = false)
    (failed : p.session.images.find p.session.files path = .error e) : Derails choice p e := by
  rw [ImageStore.find] at failed
  cases hkept : p.session.images.get? path with
  | some image =>
    rw [hkept] at failed
    cases failed
  | none =>
    rw [hkept] at failed
    obtain ⟨fault, hname, rfl⟩ | ⟨a, rfl⟩ := ImageStore.readImage_error_cases failed
    · exact .name (.background event fresh hkept) hname
    · cases undocumented

theorem Derails.exists_run_error (h : Derails choice p e) :
    ∃ q, (advance choice).run p = .error e q := by
  cases h with
  | name reads unnameable =>
    cases reads with
    | script event followed unresolved missing =>
      have hunheld : p.stage.held? _ = none := Option.or_eq_none_iff.2 ⟨unresolved, missing⟩
      refine (exists_run_error_iff_of_takes ⟨_, event, followed⟩).2 ⟨hunheld, ?_⟩
      exact Session.exists_run_loadScript_error_iff.2
        (Or.inl (Script.readSource_of_nameFault unnameable))
    | background event fresh missing =>
      refine (exists_run_error_iff_of_background event).2 ⟨fresh, ?_⟩
      rw [ImageStore.find, missing]
      exact ImageStore.readImage_of_nameFault unnameable
  | numeral takes unheld read decoded overlong =>
    refine (exists_run_error_iff_of_takes takes).2 ⟨unheld, ?_⟩
    refine Session.exists_run_loadScript_error_iff.2 (Or.inr ?_)
    exact ⟨_, _, Script.readSource_of_read read decoded,
      Script.parseChars_eq_digits_iff.2 ⟨_, overlong⟩, rfl⟩

theorem Derails.undocumented (h : Derails choice p e) : e.isDocumented = false := by
  cases h <;> rfl

/-- A step succeeds or fails as documented, except for the ways in which it derails: a file that it
reads, for a jump or for a background, has a text that names no file, or the script that it loads
holds a numeral of too many digits. That is so in every play, be it at the beginning or later, on all
files and for all texts of a script. The characters from U+10D800 to U+10DFFF are left out: they are the
stand-ins of unpaired surrogates, and a path that holds one counts as a text that names no file. -/
theorem advance_undocumented_iff (choice : Bool) (p : Play) (e : Failure) :
    (e.isDocumented = false ∧ ∃ q, (advance choice).run p = .error e q) ↔ Derails choice p e := by
  constructor
  · rintro ⟨undocumented, q, run⟩
    by_cases htakes : ∃ target, p.stage.Takes choice target
    · obtain ⟨target, htakes⟩ := htakes
      obtain ⟨hunheld, hfailed⟩ := (exists_run_error_iff_of_takes htakes).1 ⟨q, run⟩
      exact derails_of_loadScript htakes hunheld undocumented hfailed
    by_cases hbackground : ∃ path, p.stage.current = some (.directive (.background path))
    · obtain ⟨path, hbackground⟩ := hbackground
      obtain ⟨hfresh, hfailed⟩ := (exists_run_error_iff_of_background hbackground).1 ⟨q, run⟩
      exact derails_of_loadImage hbackground hfresh undocumented hfailed
    · push Not at htakes hbackground
      rw [isDocumented_of_run_error run htakes hbackground] at undocumented
      cases undocumented
  · intro h
    exact ⟨h.undocumented, h.exists_run_error⟩

/-- The path of a background holds a null character. The script can be read, and its first step ends
in the failure that a file system has for such a text. -/
theorem exists_advance_unnameable :
    ∃ (script : Script) (q : Play),
      Script.parse "@loadbg(a\x00b.png)" "s.txt" = .ok script ∧
      (advance false).run ⟨{}, opening {} script⟩ = .error (.file (.unnameable .nul)) q ∧
      (Failure.file (.unnameable .nul)).isDocumented = false := by
  have hparse : Script.parse "@loadbg(a\x00b.png)" "s.txt" =
      .ok ⟨"s.txt", [.directive (.background "a\x00b.png")]⟩ := by decide +kernel
  have hrun : ∃ q, (advance false).run ⟨{}, opening {} ⟨"s.txt",
      [.directive (.background "a\x00b.png")]⟩⟩ = .error (.file (.unnameable .nul)) q := ⟨_, rfl⟩
  obtain ⟨q, hrun⟩ := hrun
  exact ⟨_, q, hparse, hrun, rfl⟩

end Stage

end VisualNovel
