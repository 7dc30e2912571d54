import VisualNovel.Proofs.Picture.Load
import VisualNovel.Proofs.Stage.Carry

/-!
# Attempts that fail to load

A step that cannot load its script or its picture leaves nothing behind but lines of the journal, and no
step looks at what is written there. Whatever becomes of the files in between, a play therefore comes
to the same as if no such step had ever been tried.
-/
namespace VisualNovel

/-- A script or a picture is missing, cannot be read, or is not what it should be. -/
def Failure.isLoad : Failure → Bool
  | .script _ | .asset _ => true
  | _ => false

namespace Journal

@[simp]
theorem clear_record (j : Journal) (module : String) (level : Level) (message : String) :
    (j.record module level message).clear = j.clear := by
  rw [record]
  split <;> rfl

def behind (lines : List String) (j : Journal) : Journal :=
  { j with written := lines ++ j.written }

theorem record_behind (lines : List String) (j : Journal) (module : String) (level : Level)
    (message : String) :
    (j.behind lines).record module level message =
      (j.record module level message).behind lines := by
  cases henabled : j.thresholds.enabled module level <;> simp [record, behind, write, henabled]

theorem behind_clear (j : Journal) : j.clear.behind j.written = j := by
  simp [behind, clear]

end Journal

namespace Session

variable {s t : Session} {path : String} {lines : List String}

/-- The session with lines in front of those of its journal. -/
def behind (lines : List String) (s : Session) : Session :=
  { s with journal := s.journal.behind lines }

/-- What there is of a session besides the files and the lines of its journal. -/
def bare (s : Session) : Session :=
  { s with files := {}, journal := s.journal.clear }

theorem carriesNotes_behind (lines : List String) : CarriesNotes (behind lines) := by
  intro module level message s
  simp only [Carries, run_note, behind, Journal.record_behind]
  rfl

theorem bare_leaves_loadScript (file : Path) (name : Option String) (s : Session) :
    (leaves ((loadScript file name).run s)).bare = s.bare := by
  rw [loadScript, EStateM.run_bind, EStateM.run_get]
  simp only [EStateM.run_bind, run_attempt, run_note, parseScript]
  cases Script.readSource s.files file.text with
  | error e => rfl
  | ok source =>
    simp only
    cases Script.parseChars source (name.getD file.text) with
    | error e => simp only [run_throw, leaves, bare, Journal.clear_record]
    | ok script =>
      simp only [EStateM.run_bind, run_note, EStateM.run_pure, leaves, bare, Journal.clear_record]

end Session

namespace Play

/-- What there is of a play besides the files and the lines of the journal: the stage with all that it
has loaded, the decoded images, the console and the number of drawings. -/
def bare (p : Play) : Play :=
  p.via Session.bare

end Play

namespace Stage

variable {p q : Play} {choice : Bool} {e : Failure}

theorem carries_advance_behind (lines : List String) (choice : Bool) (p : Play) :
    Carries (Play.via (Session.behind lines)) (advance choice) p := by
  have notes := Session.carriesNotes_behind lines
  apply carries_advance notes
  · intro target _ _
    exact notes.loadScript rfl _
  · intro path _ _
    exact notes.loadImage (fun _ _ => rfl) fun _ => rfl

theorem eq_error_of_stepped {a : Act Unit}
    (h : (do a; Play.change stepped; return (← Play.stage?).current : Act (Option Event)).run p =
      .error e q) : a.run p = .error e q := by
  rw [EStateM.run_bind] at h
  cases ha : a.run p with
  | error f r =>
    rw [ha] at h
    cases h
    rfl
  | ok x r =>
    rw [ha] at h
    cases h

theorem exists_of_showSprite {name : String} {placement : Placement}
    (h : (showSprite name placement).run p = .error e q) : ∃ cause, e = .attribute cause := by
  simp only [showSprite, EStateM.run_bind, Play.run_lift, Session.run_note, Play.run_stage?] at h
  cases hpresent : p.stage.cast.present p.stage.attributes.priorityOf
      ⟨name, placement.path, placement.x, placement.y⟩ with
  | ok cast =>
    rw [hpresent] at h
    cases h
  | error cause =>
    rw [hpresent] at h
    cases h
    exact ⟨cause, rfl⟩

theorem exists_of_writeAttribute {path key value : String}
    (h : (writeAttribute path key value).run p = .error e q) : ∃ cause, e = .attribute cause := by
  rw [writeAttribute] at h
  by_cases hrefused : isPriority path key = true ∧ (Number.readInt? value).isNone = true
  · simp only [hrefused, and_self, if_true, EStateM.run_bind, Play.run_throw] at h
    cases h
    exact ⟨_, rfl⟩
  simp only [hrefused, if_false, EStateM.run_bind, Play.run_stage?] at h
  cases hset : p.stage.attributes.set path key value with
  | error cause =>
    rw [hset] at h
    cases h
    exact ⟨_, rfl⟩
  | ok attributes =>
    rw [hset] at h
    simp only [EStateM.run_bind, Play.run_change, Play.run_lift, Session.run_note] at h
    cases hpriority : isPriority path key with
    | false =>
      rw [hpriority] at h
      cases h
    | true =>
      simp only [hpriority, if_true, run_resortCast] at h
      split at h
      · cases h
      · cases h
        exact ⟨_, rfl⟩

/-- A background whose picture cannot be loaded leaves everything as it was. -/
theorem eq_of_changeBackground {path : String}
    (h : (changeBackground path).run p = .error e q) : q = p := by
  rw [changeBackground, EStateM.run_bind, Play.run_stage?] at h
  simp only at h
  cases hlookup : p.stage.backdrops.lookup path with
  | some image =>
    rw [hlookup] at h
    cases h
  | none =>
    simp only [hlookup, Option.isNone_none, if_true, EStateM.run_bind, Play.run_lift] at h
    rcases Session.loadImage_cases path p.session with
      ⟨image, journal, images, -, -, hload⟩ | ⟨f, -, hload⟩
    · rw [hload] at h
      cases h
    · rw [hload] at h
      cases h
      rfl

/-- A jump that cannot be followed leaves nothing behind but lines of the journal. -/
theorem bare_of_run_error_of_takes {target : String} (takes : p.stage.Takes choice target)
    (run : (advance choice).run p = .error e q) : q.bare = p.bare := by
  have hbare := Session.bare_leaves_loadScript (p.stage.fileOf target) (some target) p.session
  rw [run_advance_of_takes takes] at run
  cases hheld : p.stage.held? target with
  | some script =>
    rw [hheld] at run
    cases run
  | none =>
    simp only [hheld] at run
    cases hload : (Session.loadScript (p.stage.fileOf target) (some target)).run p.session with
    | ok script session =>
      rw [hload] at run
      cases run
    | error f session =>
      rw [hload] at run hbare
      cases run
      simp only [Play.bare, Play.via]
      rw [← hbare]
      rfl

/-- A step that cannot load what it needs leaves nothing behind but lines of the journal. -/
theorem bare_of_run_error (run : (advance choice).run p = .error e q) (load : e.isLoad = true) :
    q.bare = p.bare := by
  by_cases htakes : ∃ target, p.stage.Takes choice target
  · obtain ⟨target, htakes⟩ := htakes
    exact bare_of_run_error_of_takes htakes run
  push Not at htakes
  rw [advance, EStateM.run_bind, Play.run_stage?] at run
  cases hcurrent : p.stage.current with
  | none =>
    simp only [hcurrent] at run
    cases run
  | some event =>
    simp only [hcurrent] at run
    cases event with
    | dialogue speaker lines => cases run
    | directive d =>
      cases d with
      | jump target choices =>
        have hdeclined : ¬(choices.isNone || choice) = true :=
          fun hfollowed => htakes target ⟨choices, hcurrent, hfollowed⟩
        simp only [hdeclined, Bool.false_eq_true, if_false] at run
        cases run
      | «show» name placement =>
        obtain ⟨cause, rfl⟩ := exists_of_showSprite (eq_error_of_stepped run)
        cases load
      | hide name placement => cases run
      | background path => rw [eq_of_changeBackground (eq_error_of_stepped run)]
      | «attribute» path key value =>
        obtain ⟨cause, rfl⟩ := exists_of_writeAttribute (eq_error_of_stepped run)
        cases load
      | custom name arguments => cases run

/-- A step with a choice on the files as they are then. -/
structure Attempt where
  files : FileTree
  choice : Bool

/-- What an attempt comes to: the event or the failure, and the play that it leaves. -/
def Attempt.run (a : Attempt) (p : Play) : EStateM.Result Failure Play (Option Event) :=
  (advance a.choice).run { p with session := p.session.on a.files }

/-- An attempt has failed to load a script or a picture. -/
def lost : EStateM.Result Failure Play (Option Event) → Bool
  | .error e _ => e.isLoad
  | .ok _ _ => false

/-- What attempts come to, one after the other. -/
def attempts : List Attempt → Play → List (EStateM.Result Failure Play (Option Event))
  | [], _ => []
  | a :: rest, p => a.run p :: attempts rest (leaves (a.run p))

/-- The play that attempts leave. -/
def settled : List Attempt → Play → Play
  | [], p => p
  | a :: rest, p => settled rest (leaves (a.run p))

/-- The attempts that do not fail to load, when all are made one after the other. -/
def lasting (calls : List Attempt) (p : Play) : List Attempt :=
  ((calls.zip ((attempts calls p).map lost)).filter fun c => !c.2).map Prod.fst

theorem lasting_cons (a : Attempt) (rest : List Attempt) (p : Play) :
    lasting (a :: rest) p =
      if lost (a.run p) then lasting rest (leaves (a.run p))
      else a :: lasting rest (leaves (a.run p)) := by
  simp only [lasting, attempts, List.map_cons, List.zip_cons_cons, List.filter_cons]
  cases lost (a.run p) <;> rfl

/-- An attempt takes no notice of the files that were there before nor of the lines of the journal. -/
theorem Attempt.run_bare (a : Attempt) (p : Play) :
    carry Play.bare (a.run p) = carry Play.bare (a.run p.bare) := by
  have hfront : ({ p with session := p.session.on a.files } : Play) =
      Play.via (Session.behind p.session.journal.written)
        { p.bare with session := p.bare.session.on a.files } := by
    simp [Play.via, Play.bare, Session.behind, Session.bare, Session.on, Journal.behind_clear]
  rw [Attempt.run, hfront, carries_advance_behind, Attempt.run]
  cases (advance a.choice).run { p.bare with session := p.bare.session.on a.files } <;> rfl

theorem Attempt.run_congr (a : Attempt) (h : p.bare = q.bare) :
    carry Play.bare (a.run p) = carry Play.bare (a.run q) := by
  rw [a.run_bare p, a.run_bare q, h]

theorem Attempt.leaves_congr (a : Attempt) (h : p.bare = q.bare) :
    (leaves (a.run p)).bare = (leaves (a.run q)).bare := by
  rw [← leaves_carry Play.bare, ← leaves_carry Play.bare, a.run_congr h]

theorem Attempt.bare_of_lost {a : Attempt} (h : lost (a.run p) = true) :
    (leaves (a.run p)).bare = p.bare := by
  cases hrun : a.run p with
  | ok event q =>
    rw [hrun] at h
    cases h
  | error e q =>
    rw [hrun] at h
    exact bare_of_run_error (p := { p with session := p.session.on a.files }) hrun h

theorem attempts_congr (calls : List Attempt) (h : p.bare = q.bare) :
    (attempts calls p).map (carry Play.bare) = (attempts calls q).map (carry Play.bare) := by
  induction calls generalizing p q with
  | nil => rfl
  | cons a rest ih =>
    rw [attempts, attempts, List.map_cons, List.map_cons, a.run_congr h, ih (a.leaves_congr h)]

theorem settled_congr (calls : List Attempt) (h : p.bare = q.bare) :
    (settled calls p).bare = (settled calls q).bare := by
  induction calls generalizing p q with
  | nil => exact h
  | cons a rest ih => exact ih (a.leaves_congr h)

theorem attempts_lasting (calls : List Attempt) (p : Play) :
    (attempts (lasting calls p) p).map (carry Play.bare) =
      ((attempts calls p).filter fun r => !lost r).map (carry Play.bare) := by
  induction calls generalizing p with
  | nil => rfl
  | cons a rest ih =>
    cases hlost : lost (a.run p) with
    | true =>
      simp only [lasting_cons, attempts, hlost, if_true, List.filter_cons, Bool.not_true,
        Bool.false_eq_true, if_false]
      rw [← ih, attempts_congr _ (Attempt.bare_of_lost hlost)]
    | false =>
      simp only [lasting_cons, attempts, hlost, Bool.false_eq_true, if_false, List.filter_cons,
        Bool.not_false, if_true, List.map_cons, ih]

theorem settled_lasting (calls : List Attempt) (p : Play) :
    (settled (lasting calls p) p).bare = (settled calls p).bare := by
  induction calls generalizing p with
  | nil => rfl
  | cons a rest ih =>
    cases hlost : lost (a.run p) with
    | true =>
      simp only [lasting_cons, settled, hlost, if_true]
      rw [← ih, settled_congr _ (Attempt.bare_of_lost hlost)]
    | false =>
      simp only [lasting_cons, settled, hlost, Bool.false_eq_true, if_false]
      exact ih _

/-- Loads that fail can be tried again as if they had never been. Among steps with any choices, on files
that may change between them, the ones that fail to load a script or a picture may be left out: all
others come to the same events and failures on the files that each of them finds, and at the end the
stage is the same, with all that it has loaded, and so is the session, but for lines of the journal. In
particular a step behind one that has failed to load comes to what it would have come to instead. -/
theorem retried_as_if_never_lost (calls : List Attempt) (p : Play) :
    (attempts (lasting calls p) p).map (carry Play.bare) =
      ((attempts calls p).filter fun r => !lost r).map (carry Play.bare) ∧
    (settled (lasting calls p) p).stage = (settled calls p).stage ∧
    (settled (lasting calls p) p).session.bare = (settled calls p).session.bare ∧
    ∀ a b : Attempt, lost (a.run p) = true →
      carry Play.bare (b.run (leaves (a.run p))) = carry Play.bare (b.run p) := by
  have hstage := congrArg Play.stage (settled_lasting calls p)
  have hsession := congrArg Play.session (settled_lasting calls p)
  refine ⟨attempts_lasting calls p, hstage, hsession, ?_⟩
  intro a b hlost
  exact b.run_congr (Attempt.bare_of_lost hlost)

/-- A background is missing, then no picture, then there; then the target of a jump is missing and then
there. -/
theorem retried_as_if_never_lost_repaired :
    ∃ (calls : List Attempt) (first last : Attempt) (p : Play),
      p.stage.cursor.script.events = [.directive (.background "h.png"),
        .directive (.jump "b.txt" none)] ∧
      (attempts calls p).map lost = [true, true, false, true, false] ∧
      lasting calls p = [first, last] ∧
      (settled calls p).stage.cursor.script.name = "b.txt" ∧
      (settled [first, last] p).stage = (settled calls p).stage := by
  obtain ⟨drawn, hdrawn⟩ : ∃ drawn : FileTree,
      drawn = { entries := [(["h.png"], .file (Content.ofText "IMG 1 1"))] } := ⟨_, rfl⟩
  obtain ⟨whole, hwhole⟩ : ∃ whole : FileTree,
      whole = { entries := [(["b.txt"], .file (Content.ofText "@jump(b.txt)"))] } := ⟨_, rfl⟩
  obtain ⟨calls, hcalls⟩ : ∃ calls : List Attempt, calls = [⟨{}, false⟩,
      ⟨{ entries := [(["h.png"], .file (Content.ofText "x"))] }, false⟩,
      ⟨drawn, false⟩, ⟨drawn, true⟩, ⟨whole, true⟩] := ⟨_, rfl⟩
  obtain ⟨p, hp⟩ : ∃ p : Play, p = ⟨{}, opening {} ⟨"a.txt", [.directive (.background "h.png"),
      .directive (.jump "b.txt" none)]⟩⟩ := ⟨_, rfl⟩
  have hlost : (attempts calls p).map lost = [true, true, false, true, false] := by
    rw [hcalls, hdrawn, hwhole, hp]
    decide +kernel
  have hlasting : lasting calls p = [⟨drawn, false⟩, ⟨whole, true⟩] := by
    rw [lasting, hlost, hcalls]
    rfl
  refine ⟨calls, ⟨drawn, false⟩, ⟨whole, true⟩, p, ?_, hlost, hlasting, ?_, ?_⟩
  · rw [hp]
    rfl
  · rw [hcalls, hdrawn, hwhole, hp]
    decide +kernel
  · rw [← hlasting]
    exact (retried_as_if_never_lost calls p).2.1

end Stage

end VisualNovel
