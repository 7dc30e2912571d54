import VisualNovel.Proofs.Picture.Load
import VisualNovel.Proofs.Stage.Order
import VisualNovel.Proofs.Stage.Scene
import VisualNovel.Proofs.Text.Utf8

/-!
# Flattened scripts

A run through several scripts steps events and follows or declines jumps. The events without the jumps
make one script, and stepping through that script leads through the same scenes: what a run shows does
not depend on how its events are spread over scripts.
-/
namespace VisualNovel

open VisualNovel.Text

namespace Stage

variable {session : Session} {s t : Stage} {p q : Play} {path : String}

/-- The events at the cursors of a run, without the jumps. -/
def played (stages : List Stage) : List Event :=
  (stages.filterMap current).filter fun e => !e.isJump

/-- Steps as often as there are choices. -/
def advances : List Bool → Act Unit
  | [] => pure ()
  | choice :: rest => do
    let _ ← advance choice
    advances rest

theorem played_cons_of_none {stages : List Stage} (h : s.current = none) :
    played (s :: stages) = played stages := by
  simp [played, h]

theorem played_cons_of_isJump {stages : List Stage} {e : Event} (h : s.current = some e)
    (jump : e.isJump = true) : played (s :: stages) = played stages := by
  simp [played, h, jump]

theorem played_cons_of_plain {stages : List Stage} {e : Event} (h : s.current = some e)
    (plain : e.isJump = false) : played (s :: stages) = e :: played stages := by
  simp [played, h, plain]

theorem played_append (before after : List Stage) :
    played (before ++ after) = played before ++ played after := by
  simp [played]

/-- A background that was not loaded before is loaded, and the stage keeps the image. -/
theorem exists_gives_of_run {choice : Bool} {event : Option Event}
    (run : (advance choice).run ⟨session, s⟩ = .ok event q)
    (background : s.current = some (.directive (.background path)))
    (fresh : s.backdrops.lookup path = none) :
    ∃ image, session.Gives path image ∧ q.stage.backdrops.lookup path = some image := by
  simp only [advance, changeBackground, EStateM.run_bind, Play.run_stage?, Play.run_lift, background,
    fresh, Option.isNone_none, if_true] at run
  cases hload : (Session.loadImage path).run session with
  | error e t =>
    rw [hload] at run
    cases run
  | ok image t =>
    rw [hload] at run
    cases run
    exact ⟨image, ⟨t, hload⟩, List.lookup_cons_self⟩

theorem ignoresJournal_gives (session : Session) :
    IgnoresJournal fun _ t => ∀ path image, session.Gives path image → t.Gives path image := by
  intro p q journal journal' h path image hgives
  have hfind := Session.gives_iff.1 (h path image hgives)
  exact Session.gives_iff.2 hfind

/-- A step of an event that is not a jump can be done in the same scene elsewhere, with the same
outcome, where the image that it asks for is to be had. -/
theorem Follows.exists_advance {e : Event} (h : Follows s t) (event : s.current = some e)
    (plain : e.isJump = false) (scene : q.stage.scene = s.scene) (current : q.stage.current = some e)
    (images : ∀ path image, t.backdrops.lookup path = some image → q.session.Gives path image)
    (choice : Bool) :
    ∃ next r, (advance choice).run q = .ok next r ∧ r.stage.scene = t.scene ∧
      r.stage.cursor = q.stage.stepped.cursor ∧
      ∀ path image, q.session.Gives path image → r.session.Gives path image := by
  obtain ⟨choice₀, session, next₀, p, hrun, rfl⟩ := h
  let S : Session → Session → Prop := fun _ t =>
    ∀ path image, q.session.Gives path image → t.Gives path image
  have hshared : Shared S s q.stage ⟨session, s⟩ q := by
    refine ⟨fun _ _ hgives => hgives, s.scene, rfl, ?_⟩
    rw [← scene]
    rfl
  have hload : ∀ path, e = .directive (.background path) → s.backdrops.lookup path = none →
      Alike S (fun x y p r => x = y ∧ S p r) ((Session.loadImage path).run session)
        ((Session.loadImage path).run q.session) := by
    rintro path rfl hfresh
    obtain ⟨image, ⟨t, ht⟩, himage⟩ := exists_gives_of_run hrun event hfresh
    obtain ⟨r, hr⟩ := images path image himage
    rw [ht, hr]
    exact ⟨rfl, fun _ _ hgives => hgives.of_loadImage hr⟩
  have hstep := hshared.advance (ignoresJournal_gives q.session) event current plain hload choice₀
    choice
  obtain ⟨next, r, hr, hsession, x, hp, hstage⟩ := hstep.exists_of_ok hrun
  refine ⟨next, r, hr, ?_, ?_, hsession⟩
  · rw [hp, hstage, scene_inScene, scene_inScene]
  · rw [hstage]
    rfl

/-- A step at the end of a script or at a jump leaves the scene as it is. -/
theorem Follows.scene_eq (h : Follows s t) (idle : ∀ e, s.current = some e → e.isJump = true) :
    t.scene = s.scene := by
  cases hcurrent : s.current with
  | some e => exact h.moved.scene_of_isJump hcurrent (idle e hcurrent)
  | none =>
    cases h.moved with
    | finished => rfl
    | passed here | followed here | shown here | hidden here | changed here | written here
    | ranked here =>
      rw [hcurrent] at here
      cases here

/-- From the scene in which a run begins, stepping the events of the run without the jumps leads to
the scene in which the run ends. -/
theorem exists_advances {before : List Stage} (run : List.IsChain Follows (before ++ [s]))
    (scene : ∀ first ∈ (before ++ [s]).head?, q.stage.scene = first.scene)
    (events : played before <+: q.stage.cursor.script.events.drop q.stage.cursor.index)
    (images : ∀ t ∈ before ++ [s], ∀ path image, t.backdrops.lookup path = some image →
      q.session.Gives path image) {choices : List Bool}
    (length : choices.length = (played before).length) :
    ∃ r, (advances choices).run q = .ok () r ∧ r.stage.scene = s.scene ∧
      r.stage.cursor =
        { q.stage.cursor with index := q.stage.cursor.index + (played before).length } := by
  induction before generalizing q choices with
  | nil =>
    rw [List.length_eq_zero_iff.1 length]
    exact ⟨q, rfl, scene s rfl, rfl⟩
  | cons first rest ih =>
    have hscene := scene first rfl
    rw [List.cons_append, List.isChain_cons] at run
    obtain ⟨second, hsecond⟩ : ∃ second, (rest ++ [s]).head? = some second := by
      cases rest <;> exact ⟨_, rfl⟩
    have hfollows := run.1 second hsecond
    have hmem : second ∈ rest ++ [s] := List.mem_of_mem_head? hsecond
    have hlater : ∀ t ∈ rest ++ [s], t ∈ first :: rest ++ [s] := fun t ht => List.mem_cons_of_mem _ ht
    by_cases hidle : ∀ e, first.current = some e → e.isJump = true
    · have hplayed : played (first :: rest) = played rest := by
        cases hcurrent : first.current with
        | none => exact played_cons_of_none hcurrent
        | some e => exact played_cons_of_isJump hcurrent (hidle e hcurrent)
      rw [hplayed] at events length ⊢
      apply ih run.2 _ events (fun t ht => images t (hlater t ht)) length
      intro t ht
      cases hsecond.symm.trans ht
      exact hscene.trans (hfollows.scene_eq hidle).symm
    · push Not at hidle
      obtain ⟨e, hcurrent, hjump⟩ := hidle
      have hplain : e.isJump = false := Bool.eq_false_iff.2 hjump
      rw [played_cons_of_plain hcurrent hplain] at events length ⊢
      cases choices with
      | nil => cases length
      | cons choice choices =>
        obtain ⟨later, hevents⟩ := events
        have hhere : q.stage.current = some e := by
          rw [current, ← List.head?_drop, ← hevents]
          rfl
        obtain ⟨next, r, hr, hrscene, hrcursor, hgives⟩ := hfollows.exists_advance hcurrent hplain
          hscene hhere (images second (hlater second hmem)) choice
        have hrevents : played rest <+:
            r.stage.cursor.script.events.drop r.stage.cursor.index := by
          refine ⟨later, ?_⟩
          rw [hrcursor]
          change _ = q.stage.cursor.script.events.drop (q.stage.cursor.index + 1)
          rw [← List.tail_drop, ← hevents]
          rfl
        have hrimages : ∀ t ∈ rest ++ [s], ∀ path image, t.backdrops.lookup path = some image →
            r.session.Gives path image := fun t ht path image himage =>
          hgives path image (images t (hlater t ht) path image himage)
        have hsecondScene : ∀ t ∈ (rest ++ [s]).head?, r.stage.scene = t.scene := by
          intro t ht
          cases hsecond.symm.trans ht
          exact hrscene
        obtain ⟨last, hlast, hlastScene, hlastCursor⟩ := ih run.2 hsecondScene hrevents hrimages
          (Nat.succ.inj length)
        refine ⟨last, ?_, hlastScene, ?_⟩
        · rw [advances, EStateM.run_bind, hr]
          exact hlast
        · rw [hlastCursor, hrcursor, List.length_cons]
          simp only [stepped, Nat.add_assoc, Nat.add_comm 1]

/-- The stage at the first of the events of a run without the jumps. -/
def flattened (settings : Settings) (name : String) (stages : List Stage) : Stage :=
  opening settings ⟨name, played stages.dropLast⟩

/-- Every stage of a run is met in the flattened run, after the events that led to it. -/
theorem exists_advances_flattened {settings : Settings} {script : Script}
    {stages before after : List Stage}
    (run : List.IsChain Follows (opening settings script :: stages))
    (images : ∀ s ∈ opening settings script :: stages, ∀ path image,
      s.backdrops.lookup path = some image → session.Gives path image) (name : String)
    (split : opening settings script :: stages = before ++ s :: after) {choices : List Bool}
    (length : choices.length = (played before).length) :
    ∃ q, (advances choices).run
        ⟨session, flattened settings name (opening settings script :: stages)⟩ = .ok () q ∧
      q.stage.scene = s.scene ∧ q.stage.cursor.index = (played before).length ∧
      q.stage.cursor.script.events = played before ++ played (s :: after).dropLast := by
  have hevents : played (opening settings script :: stages).dropLast =
      played before ++ played (s :: after).dropLast := by
    rw [split, List.dropLast_append_of_ne_nil (List.cons_ne_nil s after), played_append]
  have hwhole : opening settings script :: stages = (before ++ [s]) ++ after := by
    rw [split, List.append_assoc, List.singleton_append]
  have hfirst : ∀ first ∈ (before ++ [s]).head?, (opening settings script).scene = first.scene := by
    have hhead := congrArg List.head? hwhole
    cases before <;> cases hhead <;> simp
  have himages : ∀ t ∈ before ++ [s], ∀ path image, t.backdrops.lookup path = some image →
      session.Gives path image := by
    intro t ht
    apply images t
    rw [hwhole]
    exact List.mem_append_left after ht
  have hchain : List.IsChain Follows (before ++ [s]) := by
    rw [hwhole] at run
    exact run.left_of_append
  have hprefix : played before <+: played (opening settings script :: stages).dropLast := by
    rw [hevents]
    exact List.prefix_append _ _
  obtain ⟨q, hq, hscene, hcursor⟩ := exists_advances
    (q := ⟨session, flattened settings name (opening settings script :: stages)⟩) hchain hfirst
    hprefix himages length
  refine ⟨q, hq, hscene, ?_, ?_⟩
  · rw [hcursor]
    exact Nat.zero_add _
  · rw [hcursor]
    exact hevents

/-- A run without failures, through whatever scripts, plays the same scene as the one script that
consists of the events stepped, without the jumps: in a session that gives the images that the run has
loaded, stepping through that script never fails, whatever is chosen, and ends in the same scene. Where
the run stood at a line of dialogue, the flattened run stands at it with the same frame. -/
theorem run_flatten {settings : Settings} {script : Script} {stages : List Stage}
    (run : List.IsChain Follows (opening settings script :: stages))
    (images : ∀ s ∈ opening settings script :: stages, ∀ path image,
      s.backdrops.lookup path = some image → session.Gives path image) (name : String) :
    let events := played (opening settings script :: stages).dropLast
    let flat : Play := ⟨session, flattened settings name (opening settings script :: stages)⟩
    (∀ last ∈ (opening settings script :: stages).getLast?, ∀ choices : List Bool,
      choices.length = events.length → ∃ q, (advances choices).run flat = .ok () q ∧
        q.stage.cursor.index = events.length ∧ q.stage.finished = true ∧
        q.stage.attributes = last.attributes ∧ q.stage.cast = last.cast ∧
        q.stage.background = last.background ∧ q.stage.backdrop = last.backdrop) ∧
    ∀ before s after, opening settings script :: stages = before ++ s :: after → after ≠ [] →
      ∀ speaker lines, s.current = some (.dialogue speaker lines) → ∀ choices : List Bool,
        choices.length = (played before).length → ∃ q, (advances choices).run flat = .ok () q ∧
          q.stage.current = s.current ∧ q.stage.frame = s.frame := by
  constructor
  · intro last hlast choices hlength
    have hsplit := (List.dropLast_append_getLast? last hlast).symm
    obtain ⟨q, hq, hscene, hindex, hevents⟩ :=
      exists_advances_flattened run images name hsplit hlength
    have hfinished : q.stage.finished = true := by
      rw [finished, hindex, hevents]
      simp [played]
    injection hscene with _ hattributes hcast hbackground hbackdrops
    refine ⟨q, hq, hindex, hfinished, hattributes, hcast, hbackground, ?_⟩
    rw [backdrop, hbackground, hbackdrops]
    rfl
  · intro before s after hsplit hafter speaker lines hdialogue choices hlength
    obtain ⟨q, hq, hscene, hindex, hevents⟩ :=
      exists_advances_flattened run images name hsplit hlength
    have hcurrent : q.stage.current = s.current := by
      rw [current, hindex, hevents, List.dropLast_cons_of_ne_nil hafter,
        played_cons_of_plain hdialogue rfl, hdialogue]
      simp
    exact ⟨q, hq, hcurrent, frame_congr hscene hcurrent⟩

theorem exists_run_loadScript {session : Session} {path : Path} {name source : String}
    {script : Script} (read : session.files.read path.text = .ok (Content.ofText source))
    (parse : Script.parseChars (unifyLineEnds source.toList) name = .ok script) :
    ∃ t, (Session.loadScript path (some name)).run session = .ok script t := by
  have hsource : Script.readSource session.files path.text = .ok (unifyLineEnds source.toList) := by
    simp only [Script.readSource, read, Content.ofText, Content.data, Utf8.encodeString,
      Utf8.decode_encode]
  simp only [Session.loadScript, EStateM.run_bind, EStateM.run_get, hsource, Session.run_attempt,
    Session.run_note, Session.parseScript, Option.getD_some, parse, EStateM.run_pure]
  exact ⟨_, rfl⟩

theorem exists_run_advance_jump {target : String} {script : Script} {session : Session}
    (jump : p.stage.current = some (.directive (.jump target none)))
    (library : p.stage.library = []) (resolved : p.stage.resolved = [])
    (load : (Session.loadScript ((Path.ofText p.stage.settings.baseDir).join (Path.ofText target))
      (some target)).run p.session = .ok script session) (choice : Bool) :
    ∃ next q, (advance choice).run p = .ok next q ∧ q.stage = { p.stage with
      cursor := { id := .target target, script }
      library := [(target, script)]
      resolved := [((p.stage.cursor.id, p.stage.cursor.index), script)] } := by
  simp only [advance, EStateM.run_bind, Play.run_stage?, jump, Option.isNone_none, Bool.true_or,
    if_true, follow, referenceAt, resolved, List.lookup_nil, Reference.resolve, loadTarget, library,
    Play.run_lift, load, Play.run_change, EStateM.run_pure, Session.run_note]
  exact ⟨_, _, rfl, rfl⟩

/-- A background that was set before a jump is seen behind it, and in the flattened run as well, where
there is neither a jump nor a second script. -/
theorem run_flatten_jump :
    ∃ s₁ s₂ s₃ q, List.IsChain Follows [opening {} ⟨"a.txt", [.directive (.background "h.png"),
        .directive (.jump "b.txt" none)]⟩, s₁, s₂, s₃] ∧
      s₂.cursor.script.name = "b.txt" ∧ s₂.current = some (.dialogue "A" ["hi"]) ∧
      s₂.backdrop = some (.canvas 4 3) ∧
      (advances [false]).run ⟨{ images := { images := [("h.png", .canvas 4 3)] } },
        opening {} ⟨"c.txt", [.directive (.background "h.png"), .dialogue "A" ["hi"]]⟩⟩ =
          .ok () q ∧
      q.stage.current = s₂.current ∧ q.stage.frame = s₂.frame := by
  obtain ⟨e₁, p₁, h₁, hjump, hread, hlibrary, hresolved, hbackdrops, hbackground⟩ :
      ∃ e₁ p₁, (advance false).run ⟨
          { files := { entries := [(["b.txt"], .file (Content.ofText "[A]\nhi"))] }
            images := { images := [("h.png", .canvas 4 3)] } },
          opening {} ⟨"a.txt", [.directive (.background "h.png"),
            .directive (.jump "b.txt" none)]⟩⟩ = .ok e₁ p₁ ∧
        p₁.stage.current = some (.directive (.jump "b.txt" none)) ∧
        p₁.session.files.read ((Path.ofText p₁.stage.settings.baseDir).join
          (Path.ofText "b.txt")).text = .ok (Content.ofText "[A]\nhi") ∧
        p₁.stage.library = [] ∧ p₁.stage.resolved = [] ∧
        p₁.stage.backdrops = [("h.png", .canvas 4 3)] ∧ p₁.stage.background = some "h.png" :=
    ⟨_, _, rfl, rfl, rfl, rfl, rfl, rfl, rfl⟩
  have hparse : Script.parseChars (unifyLineEnds "[A]\nhi".toList) "b.txt" =
      .ok ⟨"b.txt", [.dialogue "A" ["hi"]]⟩ := rfl
  obtain ⟨session, hload⟩ := exists_run_loadScript hread hparse
  obtain ⟨e₂, p₂, h₂, hstage⟩ := exists_run_advance_jump hjump hlibrary hresolved hload false
  have hdialogue : p₂.stage.current = some (.dialogue "A" ["hi"]) := by
    rw [hstage]
    rfl
  have h₃ : (advance false).run p₂ = .ok none ⟨p₂.session, p₂.stage.stepped⟩ := by
    simp only [advance, EStateM.run_bind, Play.run_stage?, hdialogue, Play.run_change]
    rw [hstage]
    rfl
  have run : List.IsChain Follows [opening {} _, p₁.stage, p₂.stage, p₂.stage.stepped] :=
    .cons_cons (follows_of_run h₁) (.cons_cons (follows_of_run h₂)
      (.cons_cons (follows_of_run h₃) (.singleton _)))
  have hgives : ∀ path image, [("h.png", Surface.canvas 4 3)].lookup path = some image →
      Session.Gives { images := { images := [("h.png", .canvas 4 3)] } } path image := by
    intro path image himage
    apply Session.gives_iff.2
    rw [ImageStore.find, ImageStore.get?, himage]
  have images : ∀ s ∈ [opening {} ⟨"a.txt", [.directive (.background "h.png"),
      .directive (.jump "b.txt" none)]⟩, p₁.stage, p₂.stage, p₂.stage.stepped], ∀ path image,
      s.backdrops.lookup path = some image →
        Session.Gives { images := { images := [("h.png", .canvas 4 3)] } } path image := by
    simp only [List.forall_mem_cons, stepped, hstage, hbackdrops]
    refine ⟨?_, hgives, hgives, hgives, List.forall_mem_nil _⟩
    rintro path image ⟨⟩
  have hplayed : played [opening {} ⟨"a.txt", [.directive (.background "h.png"),
      .directive (.jump "b.txt" none)]⟩, p₁.stage, p₂.stage] =
        [.directive (.background "h.png"), .dialogue "A" ["hi"]] := by
    rw [played_cons_of_plain rfl rfl, played_cons_of_isJump hjump rfl,
      played_cons_of_plain hdialogue rfl]
    rfl
  obtain ⟨q, hq, hcurrent, hframe⟩ := (run_flatten run images "c.txt").2 [opening {} _, p₁.stage]
    p₂.stage [p₂.stage.stepped] rfl (List.cons_ne_nil _ _) "A" ["hi"] hdialogue [false]
    (by rw [played_cons_of_plain rfl rfl, played_cons_of_isJump hjump rfl]; rfl)
  refine ⟨p₁.stage, p₂.stage, _, q, run, ?_, hdialogue, ?_, ?_, hcurrent, hframe⟩
  · rw [hstage]
  · rw [hstage, backdrop, hbackground, Option.bind_some, hbackdrops]
    rfl
  · rw [← hplayed]
    exact hq

end Stage

end VisualNovel
