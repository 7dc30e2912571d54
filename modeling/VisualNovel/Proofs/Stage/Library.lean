import Mathlib.Logic.Relation
import VisualNovel.Proofs.Stage.Flatten

/-!
# The library

A target stands for one script for as long as a play lasts. The script is loaded when a jump to the
target is first followed, and whatever jump leads to the target later, from whichever script, it leads
to that script again, without another look at the files. A load that fails leaves nothing behind.
-/
namespace VisualNovel

namespace Stage

variable {opened script found : Script} {s t : Stage} {p q : Play} {id : ScriptId} {index : Nat}
  {target path : String} {choices : Option Choices} {choice : Bool} {session : Session}

/-- A step with the choice follows a jump to the target. -/
def Takes (s : Stage) (choice : Bool) (target : String) : Prop :=
  ∃ choices, s.current = some (.directive (.jump target choices)) ∧
    (choices.isNone || choice) = true

/-- One step in any session, which may fail. The cache may be exchanged between steps. -/
inductive Goes (s : Stage) : Stage → Prop where
  | moved {choice : Bool} {session : Session} {event : Option Event} {q : Play} :
      (advance choice).run ⟨session, s⟩ = .ok event q → Goes s q.stage
  | stopped {choice : Bool} {session : Session} {e : Failure} {q : Play} :
      (advance choice).run ⟨session, s⟩ = .error e q → Goes s q.stage
  | cached (cache : Option RenderCache) : Goes s { s with cache }

/-- Steps lead from the one stage to the other. -/
abbrev LeadsTo : Stage → Stage → Prop :=
  Relation.ReflTransGen Goes

/-- The script of an id, in a play that was opened with a script. -/
def scriptOf? (opened : Script) (s : Stage) : ScriptId → Option Script
  | .opening => some opened
  | .target path => s.library.lookup path

/-- The script for the jump at the cursor, if it was loaded before. -/
def held? (s : Stage) (target : String) : Option Script :=
  (s.resolved.lookup (s.cursor.id, s.cursor.index)).or (s.library.lookup target)

def fileOf (s : Stage) (target : String) : Path :=
  (Path.ofText s.settings.baseDir).join (Path.ofText target)

def keeping (s : Stage) (target : String) (script : Script) : Stage :=
  { s with library := (target, script) :: s.library }

/-- The stage at the first event of the script that the jump at the cursor led to. -/
def arrived (s : Stage) (target : String) (script : Script) : Stage :=
  { s with
    cursor := { id := .target target, script }
    resolved :=
      match s.resolved.lookup (s.cursor.id, s.cursor.index) with
      | none => ((s.cursor.id, s.cursor.index), script) :: s.resolved
      | some _ => s.resolved }

/-- The session in which a jump has been noted. -/
def noting (session : Session) (s : Stage) (script : Script) : Session :=
  { session with
    journal := session.journal.record "engine" .debug
      ("Jumping from " ++ s.cursor.script.name ++ ":" ++ Text.natText s.cursor.index ++ " to " ++
        script.name) }

theorem run_loadTarget (target : String) (p : Play) :
    (loadTarget target).run p =
      match p.stage.library.lookup target with
      | some script => .ok script p
      | none =>
        match (Session.loadScript (p.stage.fileOf target) (some target)).run p.session with
        | .error e session => .error e { p with session }
        | .ok script session => .ok script ⟨session, p.stage.keeping target script⟩ := by
  rw [loadTarget, EStateM.run_bind, Play.run_stage?]
  simp only
  cases p.stage.library.lookup target with
  | some script => rfl
  | none =>
    simp only [EStateM.run_bind, Play.run_lift, fileOf]
    cases (Session.loadScript ((Path.ofText p.stage.settings.baseDir).join (Path.ofText target))
        (some target)).run p.session <;> rfl

/-- A jump leads to the script that is held for it, and otherwise to the one that its file has. -/
theorem run_follow (target : String) (p : Play) :
    (follow target).run p =
      match p.stage.held? target with
      | some script => .ok () ⟨noting p.session p.stage script, p.stage.arrived target script⟩
      | none =>
        match (Session.loadScript (p.stage.fileOf target) (some target)).run p.session with
        | .error e session => .error e { p with session }
        | .ok script session => .ok ()
            ⟨noting session p.stage script, (p.stage.keeping target script).arrived target script⟩ := by
  rw [follow, EStateM.run_bind, Play.run_stage?]
  simp only [referenceAt, Reference.resolve, held?]
  cases hresolved : p.stage.resolved.lookup (p.stage.cursor.id, p.stage.cursor.index) with
  | some script =>
    simp only [EStateM.run_bind, EStateM.run_pure, Play.run_lift, Session.run_note, Play.run_change,
      Option.some_or, arrived, hresolved]
    rfl
  | none =>
    simp only [EStateM.run_bind, run_loadTarget, Option.none_or]
    cases p.stage.library.lookup target with
    | some script =>
      simp only [EStateM.run_pure, Play.run_lift, Session.run_note, Play.run_change, hresolved,
        arrived]
      rfl
    | none =>
      simp only
      cases (Session.loadScript (p.stage.fileOf target) (some target)).run p.session with
      | error e session => rfl
      | ok script session =>
        simp only [EStateM.run_pure, Play.run_lift, Session.run_note, Play.run_change, hresolved,
          arrived, keeping]
        rfl

/-- A step that follows a jump fails only if the script of the target is not held and cannot be loaded,
and then only the session is affected. -/
theorem run_advance_of_takes (takes : p.stage.Takes choice target) :
    (advance choice).run p =
      match p.stage.held? target with
      | some script => .ok script.events.head?
          ⟨noting p.session p.stage script, p.stage.arrived target script⟩
      | none =>
        match (Session.loadScript (p.stage.fileOf target) (some target)).run p.session with
        | .error e session => .error e { p with session }
        | .ok script session => .ok script.events.head?
            ⟨noting session p.stage script, (p.stage.keeping target script).arrived target script⟩ := by
  obtain ⟨choices, hjump, htaken⟩ := takes
  have hhead : ∀ (s : Stage) (script : Script),
      (s.arrived target script).current = script.events.head? :=
    fun _ script => List.head?_eq_getElem?.symm
  simp only [advance, EStateM.run_bind, Play.run_stage?, hjump, htaken, if_true, run_follow]
  cases p.stage.held? target with
  | some script => simp only [EStateM.run_pure, hhead]
  | none =>
    simp only
    cases (Session.loadScript (p.stage.fileOf target) (some target)).run p.session with
    | error e session => rfl
    | ok script session => simp only [EStateM.run_pure, hhead]

/-- The second stage is in the script that the first one is in, and no script was loaded between. -/
structure Stays (s t : Stage) : Prop where
  id : t.cursor.id = s.cursor.id
  script : t.cursor.script = s.cursor.script
  library : t.library = s.library
  resolved : t.resolved = s.resolved

theorem Stopped.stays (h : Stopped s t) : Stays s t := by
  cases h <;> exact ⟨rfl, rfl, rfl, rfl⟩

/-- A jump that is not followed is stepped. -/
theorem run_advance_of_declined (jump : p.stage.current = some (.directive (.jump target choices)))
    (declined : ¬p.stage.Takes choice target) :
    ∃ journal, (advance choice).run p =
      .ok p.stage.stepped.current ⟨{ p.session with journal }, p.stage.stepped⟩ := by
  have hdeclined : (choices.isNone || choice) = false :=
    Bool.eq_false_iff.2 fun htaken => declined ⟨choices, jump, htaken⟩
  simp only [advance, EStateM.run_bind, Play.run_stage?, jump, hdeclined, Bool.false_eq_true,
    if_false, Play.run_lift, Session.run_note, Play.run_change, EStateM.run_pure]
  exact ⟨_, rfl⟩

theorem stays_of_run {event : Option Event} (run : (advance choice).run ⟨session, s⟩ = .ok event q)
    (declined : ∀ target, ¬s.Takes choice target) : Stays s q.stage := by
  have hmoved := moved_of_run run
  generalize hstage : q.stage = t at hmoved ⊢
  cases hmoved with
  | finished | passed | shown | hidden | changed | written | ranked => exact ⟨rfl, rfl, rfl, rfl⟩
  | @followed target choices cursor library resolved jump =>
    obtain ⟨session', hstepped⟩ := run_advance_of_declined (p := ⟨session, s⟩) jump (declined target)
    rw [hstepped] at run
    cases run
    rw [← hstage]
    exact ⟨rfl, rfl, rfl, rfl⟩

/-- A step stays in the script or arrives at the script that is held for a jump or loaded for it. -/
theorem Goes.cases (h : Goes s t) :
    Stays s t ∨ ∃ choice target script, s.Takes choice target ∧
      (s.held? target = some script ∧ t = s.arrived target script ∨
        s.held? target = none ∧ t = (s.keeping target script).arrived target script) := by
  cases h with
  | cached cache => exact Or.inl ⟨rfl, rfl, rfl, rfl⟩
  | stopped run => exact Or.inl (stopped_of_run run).stays
  | @moved choice session event q run =>
    by_cases htakes : ∃ target, s.Takes choice target
    · obtain ⟨target, htakes⟩ := htakes
      rw [run_advance_of_takes (p := ⟨session, s⟩) htakes] at run
      cases hheld : s.held? target with
      | some script =>
        simp only [hheld] at run
        cases run
        exact Or.inr ⟨choice, target, script, htakes, Or.inl ⟨hheld, rfl⟩⟩
      | none =>
        simp only [hheld] at run
        cases hload : (Session.loadScript (s.fileOf target) (some target)).run session with
        | error e session =>
          rw [hload] at run
          cases run
        | ok script session =>
          rw [hload] at run
          cases run
          exact Or.inr ⟨choice, target, script, htakes, Or.inr ⟨hheld, rfl⟩⟩
    · push Not at htakes
      exact Or.inl (stays_of_run run htakes)

/-- No script of the first stage is exchanged for another one. -/
def Extends (s t : Stage) : Prop :=
  ∀ path script, s.library.lookup path = some script → t.library.lookup path = some script

/-- The script at the cursor is the one of its id, and where a jump has led there is the script that is
kept for its target. -/
structure Coherent (opened : Script) (s : Stage) : Prop where
  here : s.scriptOf? opened s.cursor.id = some s.cursor.script
  resolved : ∀ id index found, s.resolved.lookup (id, index) = some found →
    ∃ script target choices, s.scriptOf? opened id = some script ∧
      script.events[index]? = some (.directive (.jump target choices)) ∧
      s.library.lookup target = some found

theorem coherent_opening (settings : Settings) (opened : Script) :
    Coherent opened (opening settings opened) where
  here := rfl
  resolved := by
    rintro id index found ⟨⟩

theorem Extends.scriptOf? (h : Extends s t) (hid : s.scriptOf? opened id = some script) :
    t.scriptOf? opened id = some script := by
  cases id with
  | opening => exact hid
  | target path => exact h path script hid

theorem Stays.extends (h : Stays s t) : Extends s t := by
  intro path script hscript
  rw [h.library]
  exact hscript

theorem Stays.coherent (h : Stays s t) (hs : Coherent opened s) : Coherent opened t where
  here := by
    rw [h.id, h.script]
    exact h.extends.scriptOf? hs.here
  resolved := by
    intro id index found hfound
    rw [h.resolved] at hfound
    obtain ⟨script, target, choices, hid, hjump, hkept⟩ := hs.resolved id index found hfound
    exact ⟨script, target, choices, h.extends.scriptOf? hid, hjump, h.extends target found hkept⟩

/-- What is held for the jump at the cursor is the script that is kept for its target. -/
theorem Coherent.lookup_of_held (h : Coherent opened s) (takes : s.Takes choice target)
    (held : s.held? target = some found) : s.library.lookup target = some found := by
  obtain ⟨choices, hjump, -⟩ := takes
  rw [held?] at held
  cases hresolved : s.resolved.lookup (s.cursor.id, s.cursor.index) with
  | none =>
    rw [hresolved, Option.none_or] at held
    exact held
  | some kept =>
    rw [hresolved, Option.some_or] at held
    cases held
    obtain ⟨script, target', choices', hid, hjump', hkept⟩ := h.resolved _ _ _ hresolved
    cases h.here.symm.trans hid
    cases hjump.symm.trans hjump'
    exact hkept

theorem Coherent.held?_eq (h : Coherent opened s) (takes : s.Takes choice target) :
    s.held? target = s.library.lookup target := by
  cases hheld : s.held? target with
  | some found => exact (h.lookup_of_held takes hheld).symm
  | none => exact (Option.or_eq_none_iff.1 hheld).2.symm

theorem extends_keeping (missing : s.library.lookup target = none) (script : Script) :
    Extends s (s.keeping target script) := by
  intro path found hfound
  have hne : (path == target) = false := by
    apply beq_eq_false_iff_ne.2
    rintro rfl
    rw [missing] at hfound
    cases hfound
  rw [keeping, List.lookup_cons, hne]
  exact hfound

theorem Coherent.keeping (h : Coherent opened s) (missing : s.library.lookup target = none)
    (script : Script) : Coherent opened (s.keeping target script) where
  here := (extends_keeping missing script).scriptOf? h.here
  resolved := by
    intro id index found hfound
    obtain ⟨other, target', choices, hid, hjump, hkept⟩ := h.resolved id index found hfound
    have hextends := extends_keeping missing script
    exact ⟨other, target', choices, hextends.scriptOf? hid, hjump, hextends target' found hkept⟩

/-- Behind a jump to a script that is kept for the target everything is in order again. -/
theorem Coherent.arrived (h : Coherent opened s) (takes : s.Takes choice target)
    (kept : s.library.lookup target = some script) : Coherent opened (s.arrived target script) where
  here := kept
  resolved := by
    intro id index found hfound
    rw [Stage.arrived] at hfound
    cases hresolved : s.resolved.lookup (s.cursor.id, s.cursor.index) with
    | some other =>
      simp only [hresolved] at hfound
      exact h.resolved id index found hfound
    | none =>
      simp only [hresolved, List.lookup_cons] at hfound
      split at hfound
      · rename_i hhere
        cases eq_of_beq hhere
        cases hfound
        obtain ⟨choices, hjump, -⟩ := takes
        exact ⟨s.cursor.script, target, choices, h.here, hjump, kept⟩
      · exact h.resolved id index found hfound

/-- A step keeps what is coherent so, and exchanges no script. -/
theorem Coherent.goes (h : Coherent opened s) (goes : Goes s t) :
    Coherent opened t ∧ Extends s t := by
  obtain hstays | ⟨choice, target, script, htakes, ⟨hheld, rfl⟩ | ⟨hheld, rfl⟩⟩ := goes.cases
  · exact ⟨hstays.coherent h, hstays.extends⟩
  · exact ⟨h.arrived htakes (h.lookup_of_held htakes hheld), fun _ _ hkept => hkept⟩
  · have hmissing := (h.held?_eq htakes).symm.trans hheld
    refine ⟨(h.keeping hmissing script).arrived htakes List.lookup_cons_self, ?_⟩
    exact extends_keeping hmissing script

theorem Coherent.leadsTo (h : Coherent opened s) (leads : LeadsTo s t) :
    Coherent opened t ∧ Extends s t := by
  induction leads with
  | refl => exact ⟨h, fun _ _ hkept => hkept⟩
  | tail _ goes ih =>
    obtain ⟨hcoherent, hextends⟩ := ih.1.goes goes
    exact ⟨hcoherent, fun path script hkept => hextends path script (ih.2 path script hkept)⟩

/-- Where a script is kept for a target, every jump to the target leads to the first event of that
script, in every session, of which it changes the journal alone. -/
theorem Coherent.exists_advance_of_kept (h : Coherent opened s) (takes : s.Takes choice target)
    (kept : s.library.lookup target = some script) (session : Session) :
    ∃ journal t, (advance choice).run ⟨session, s⟩ =
        .ok script.events.head? ⟨{ session with journal }, t⟩ ∧
      t.cursor = { id := .target target, script } := by
  refine ⟨(noting session s script).journal, s.arrived target script, ?_, rfl⟩
  rw [run_advance_of_takes (p := ⟨session, s⟩) takes]
  simp only [h.held?_eq takes, kept]
  rfl

/-- A jump that was followed led to the script that is kept for its target. -/
theorem Coherent.exists_kept_of_run {event : Option Event} (h : Coherent opened s)
    (takes : s.Takes choice target) (run : (advance choice).run ⟨session, s⟩ = .ok event q) :
    ∃ script, q.stage.cursor = { id := .target target, script } ∧
      q.stage.library.lookup target = some script := by
  rw [run_advance_of_takes (p := ⟨session, s⟩) takes] at run
  cases hheld : s.held? target with
  | some script =>
    simp only [hheld] at run
    cases run
    exact ⟨script, rfl, h.lookup_of_held takes hheld⟩
  | none =>
    simp only [hheld] at run
    split at run
    · cases run
    · rename_i script session' hload
      cases run
      exact ⟨script, rfl, List.lookup_cons_self⟩

/-- A script that is kept behind a step was kept before it, or has been loaded for the jump that the step
has followed. -/
theorem lookup_of_run {event : Option Event} (run : (advance choice).run ⟨session, s⟩ = .ok event q)
    (kept : q.stage.library.lookup path = some script) :
    s.library.lookup path = some script ∨ s.Takes choice path ∧ ∃ session',
      (Session.loadScript (s.fileOf path) (some path)).run session = .ok script session' := by
  by_cases htakes : ∃ target, s.Takes choice target
  · obtain ⟨target, htakes⟩ := htakes
    rw [run_advance_of_takes (p := ⟨session, s⟩) htakes] at run
    cases hheld : s.held? target with
    | some found =>
      simp only [hheld] at run
      cases run
      exact Or.inl kept
    | none =>
      simp only [hheld] at run
      split at run
      · cases run
      · rename_i found session' hload
        cases run
        simp only [arrived, keeping, List.lookup_cons] at kept
        split at kept
        · rename_i hsame
          cases eq_of_beq hsame
          cases kept
          exact Or.inr ⟨htakes, session', hload⟩
        · exact Or.inl kept
  · push Not at htakes
    rw [(stays_of_run run htakes).library] at kept
    exact Or.inl kept

/-- Only a jump whose script is not held can fail, and it leaves the stage as it was. -/
theorem held?_of_run_error {e : Failure} (takes : s.Takes choice target)
    (run : (advance choice).run ⟨session, s⟩ = .error e q) :
    s.held? target = none ∧ q.stage = s := by
  rw [run_advance_of_takes (p := ⟨session, s⟩) takes] at run
  cases hheld : s.held? target with
  | some script =>
    simp only [hheld] at run
    cases run
  | none =>
    simp only [hheld] at run
    split at run
    · cases run
      exact ⟨rfl, rfl⟩
    · cases run

/-- A target stands for one script as long as a play lasts, whatever becomes of the files and whichever
steps fail. Every reference that is loaded, of the script that opened the play or of one that was
loaded for a target, holds the script that is kept for its own target. Once a jump to a target has been
followed, every later jump to it, from whichever script, leads to the first event of the same script,
and no file is asked for it. A jump that cannot be followed leaves nothing behind, neither at its
reference nor in the library, so that the file decides again about the next attempt. -/
theorem one_script_per_target {settings : Settings} (leads : LeadsTo (opening settings opened) s) :
    (∀ id index script target choices found, s.scriptOf? opened id = some script →
      script.events[index]? = some (.directive (.jump target choices)) →
        (s.referenceAt id index target).loaded = some found →
          s.library.lookup target = some found) ∧
    (∀ choice target session event q, s.Takes choice target →
      (advance choice).run ⟨session, s⟩ = .ok event q →
        ∃ script, q.stage.cursor = { id := .target target, script } ∧
          ∀ t, LeadsTo q.stage t → ∀ choice session, t.Takes choice target →
            ∃ journal u, (advance choice).run ⟨session, t⟩ =
                .ok script.events.head? ⟨{ session with journal }, u⟩ ∧
              u.cursor = { id := .target target, script }) ∧
    ∀ choice target session e q, s.Takes choice target →
      (advance choice).run ⟨session, s⟩ = .error e q →
        q.stage = s ∧ q.stage.library.lookup target = none ∧
        (q.stage.referenceAt s.cursor.id s.cursor.index target).loaded = none ∧
        ∀ choice session, s.Takes choice target →
          (∀ e session', (Session.loadScript (s.fileOf target) (some target)).run session =
              .error e session' →
            (advance choice).run ⟨session, q.stage⟩ = .error e ⟨session', s⟩) ∧
          ∀ script session', (Session.loadScript (s.fileOf target) (some target)).run session =
              .ok script session' →
            ∃ journal t, (advance choice).run ⟨session, q.stage⟩ =
                .ok script.events.head? ⟨{ session' with journal }, t⟩ ∧
              t.cursor = { id := .target target, script } := by
  have hcoherent := ((coherent_opening settings opened).leadsTo leads).1
  refine ⟨?_, ?_, ?_⟩
  · intro id index script target choices found hid hjump hloaded
    obtain ⟨script', target', choices', hid', hjump', hkept⟩ :=
      hcoherent.resolved id index found hloaded
    cases hid.symm.trans hid'
    cases hjump.symm.trans hjump'
    exact hkept
  · intro choice target session event q htakes hrun
    obtain ⟨script, hcursor, hkept⟩ := hcoherent.exists_kept_of_run htakes hrun
    refine ⟨script, hcursor, fun t hleads choice' session' htakes' => ?_⟩
    have hafter := (hcoherent.goes (.moved hrun)).1.leadsTo hleads
    exact hafter.1.exists_advance_of_kept htakes' (hafter.2 target script hkept) session'
  · intro choice target session e q htakes hrun
    obtain ⟨hheld, hstage⟩ := held?_of_run_error htakes hrun
    obtain ⟨hresolved, hlibrary⟩ := Option.or_eq_none_iff.1 hheld
    rw [hstage]
    refine ⟨rfl, hlibrary, hresolved, fun choice' session' htakes' => ⟨?_, ?_⟩⟩
    · intro e' session'' hload
      rw [run_advance_of_takes (p := ⟨session', s⟩) htakes']
      simp only [hheld, hload]
    · intro script session'' hload
      rw [run_advance_of_takes (p := ⟨session', s⟩) htakes']
      simp only [hheld, hload]
      exact ⟨_, _, rfl, rfl⟩

/-- A script that jumps to itself is loaded for the jump that leads to it, once its file is there, and
the jump in it leads to it again when the file is gone. -/
theorem one_script_per_target_loop :
    ∃ e p q journal u, (advance false).run ⟨{}, opening {} ⟨"a.txt",
        [.directive (.jump "b.txt" none)]⟩⟩ = .error e p ∧
      p.stage.library.lookup "b.txt" = none ∧
      (advance false).run
          ⟨{ files := { entries := [(["b.txt"], .file (Content.ofText "@jump(b.txt)"))] } },
            p.stage⟩ = .ok (some (.directive (.jump "b.txt" none))) q ∧
      (advance false).run ⟨{}, q.stage⟩ =
        .ok (some (.directive (.jump "b.txt" none))) ⟨{ ({} : Session) with journal }, u⟩ ∧
      u.cursor = ⟨.target "b.txt", ⟨"b.txt", [.directive (.jump "b.txt" none)]⟩, 0⟩ := by
  obtain ⟨opened, hopened⟩ : ∃ opened : Script,
      opened = ⟨"a.txt", [.directive (.jump "b.txt" none)]⟩ := ⟨_, rfl⟩
  have htakes : (opening {} opened).Takes false "b.txt" := by
    rw [hopened]
    exact ⟨none, rfl, rfl⟩
  obtain ⟨e, p, hfails⟩ : ∃ e p, (advance false).run ⟨{}, opening {} opened⟩ = .error e p := by
    rw [hopened]
    exact ⟨_, _, rfl⟩
  have hread : ({ files := { entries := [(["b.txt"], .file (Content.ofText "@jump(b.txt)"))] } } :
      Session).files.read ((opening {} opened).fileOf "b.txt").text =
        .ok (Content.ofText "@jump(b.txt)") := by
    rw [hopened]
    rfl
  have hparse : Script.parseChars (Text.unifyLineEnds "@jump(b.txt)".toList) "b.txt" =
      .ok ⟨"b.txt", [.directive (.jump "b.txt" none)]⟩ := rfl
  obtain ⟨session, hload⟩ := exists_run_loadScript hread hparse
  rw [← hopened]
  have hleads : LeadsTo (opening {} opened) (opening {} opened) := .refl
  have hopening := one_script_per_target hleads
  obtain ⟨hstage, hmissing, -, hagain⟩ := hopening.2.2 false "b.txt" {} e p htakes hfails
  obtain ⟨journal, t, hrun, hcursor⟩ := (hagain false _ htakes).2 _ session hload
  rw [hstage] at hrun
  obtain ⟨script, hscript, hlater⟩ := hopening.2.1 false "b.txt" _ _ _ htakes hrun
  cases hscript.symm.trans hcursor
  have hloop : t.Takes false "b.txt" := by
    refine ⟨none, ?_, rfl⟩
    rw [current, hcursor]
    rfl
  obtain ⟨journal', u, hback, hu⟩ := hlater t .refl false {} hloop
  refine ⟨e, p, ⟨{ session with journal }, t⟩, journal', u, hfails, hmissing, ?_, hback, hu⟩
  rw [hstage]
  exact hrun

end Stage

end VisualNovel
