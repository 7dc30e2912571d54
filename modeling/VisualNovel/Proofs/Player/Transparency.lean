import VisualNovel.Proofs.Player.Paired

/-!
# Playing with a cache is playing without one

A script that is played with a cache on an empty directory visits the same events as without, comes to
the same end and leaves the same drawings, as long as nothing that is read or drawn goes through the
places of the cache.
-/
namespace VisualNovel.Play

open FileTree (Avoids)
open RenderCache (HasRoom Reserved)

/-- A play shows a line of dialogue. -/
def Shows (r : Renderer) (out : Path) (choose : Option Bool) (start : Play) (d : DialogueFrame) :
    Prop :=
  ∃ drawn q, Reaches r out choose start drawn q ∧ q.stage.frame = .ok (some (.dialogue d))

/-- A play that draws scenes reads a file: an image when it draws, or what a step asks for. -/
inductive Reads (settings : Settings) (out : Path) (choose : Option Bool) (start : Play) :
    Path → Prop where
  | image {drawn : Nat} {q : Play} {d : DialogueFrame} {file : Path}
      (reached : Reaches (.scene settings) out choose start drawn q)
      (frame : q.stage.frame = .ok (some (.dialogue d)))
      (read : Scene.ReadsImage settings d q.session file) :
      Reads settings out choose start file
  | step {drawn : Nat} {q q' : Play} {event : Event} {choice : Bool} {file : Path}
      (reached : Reaches (.scene settings) out choose start drawn q)
      (current : q.stage.current = some event)
      (presented : (present (.scene settings) out choose drawn event).run q = .ok choice q')
      (read : Stage.ReadsFile choice q' file) :
      Reads settings out choose start file

/-- Two plays are at the same event and have the same drawings. -/
structure SameEnd (out : Path) (p q : Play) : Prop where
  current : p.stage.current = q.stage.current
  drawings : ∀ n, p.session.files.read (out.child (drawingName n)).text =
    q.session.files.read (out.child (drawingName n)).text

variable {settings settings' : Settings} {script : Script} {source name directory : String}
  {out : Path} {choose : Option Bool} {s s' : Session} {cache : RenderCache}

/-- A play with a cache and the same play without go in step. -/
theorem lockstep_cache {home : Location} {directory : Path} {reserved : Location → Prop}
    {plain : Play} (proper : directory.Proper)
    (below : ∀ l, RenderCache.place home directory <+: l → l ≠ RenderCache.place home directory →
      reserved l)
    (outside : ∀ n, Avoids reserved home (out.child (drawingName n)).text)
    (reads : ∀ file, Reads settings out choose plain file → Avoids reserved home file.text)
    (storable : Storable directory (Shows (.scene settings) out choose plain)) :
    Lockstep (.scene settings) out choose (Stopped home reserved) fun drawn p q =>
      Reaches (.scene settings) out choose plain drawn q ∧
        Paired settings home directory reserved (Shows (.scene settings) out choose plain) p q where
  current := fun h => h.2.current_eq
  stops := fun h => h.2.stopped
  turn := by
    rintro drawn p q event ⟨hreaches, hpaired⟩ hcurrent
    have hturn := hpaired.turn proper below storable outside
      (fun d hd => ⟨drawn, q, hreaches, hd⟩)
      (fun d hd image hread => reads image (.image hreaches hd hread)) choose drawn event
      (fun choice q' hpresent file hread => reads file (.step hreaches hcurrent hpresent hread))
    obtain ⟨m, p', _, q', hp, hq, rfl, hpaired'⟩ | ⟨e, p', q', hp, hq, hstopped⟩ := hturn.cases
    · rw [hp, hq]
      exact ⟨rfl, hreaches.turn hcurrent hq, hpaired'⟩
    · rw [hp, hq]
      exact ⟨rfl, hstopped⟩

/-- A script is played twice, with a cache that has been enabled on an empty directory and without a
cache. If no drawing and no file that the plain play reads lies behind a place of the cache, if no two
frames of the play that differ have one fingerprint and if every frame has room in the directory, then
both plays visit the same events, and whenever they stop they stop at the same event for the same
reason, with the same number of drawings and the same content in every one of them. -/
theorem play_eq_play_without_cache (parse : Script.parse source name = .ok script)
    (enabled : (RenderCache.enable { directory := Path.ofText directory }).run s = .ok cache s')
    (vacant : RenderCache.Run.Vacant directory s')
    (outside : ∀ n, Avoids (Reserved (Path.ofText directory) s.files s'.files) s.files.home
      (out.child (drawingName n)).text)
    (reads : ∀ file, Reads settings' out choose ⟨s, Stage.opening settings script⟩ file →
      Avoids (Reserved (Path.ofText directory) s.files s'.files) s.files.home file.text)
    (storable : Storable (Path.ofText directory)
      (Shows (.scene settings') out choose ⟨s, Stage.opening settings script⟩)) :
    let plain : Play := ⟨s, Stage.opening settings script⟩
    let cached : Play := ⟨s', { Stage.opening settings script with cache := some cache }⟩
    (∀ turns, visited (.scene settings') out choose turns 0 cached =
      visited (.scene settings') out choose turns 0 plain) ∧
    ∀ budget, Alike (SameEnd out) (fun m n p q => m = n ∧ SameEnd out p q)
      ((play (.scene settings') out choose budget).run cached)
      ((play (.scene settings') out choose budget).run plain) := by
  intro plain cached
  have hlockstep := lockstep_cache (Path.proper_ofText directory) (fun l hl hne => Or.inl ⟨hl, hne⟩)
    outside reads storable
  have hpaired : Paired settings' s.files.home (Path.ofText directory)
      (Reserved (Path.ofText directory) s.files s'.files)
      (Shows (.scene settings') out choose plain) cached plain :=
    ⟨⟨cache, rfl, RenderCache.mirrors_enabled enabled vacant _ _⟩, rfl,
      Stage.bounded_opening settings (Script.bounded_of_parse parse)⟩
  have hsame : ∀ p q : Play, Stopped s.files.home
      (Reserved (Path.ofText directory) s.files s'.files) p q → SameEnd out p q := by
    intro p q hstopped
    refine ⟨hstopped.current, fun n => ?_⟩
    have havoids := outside n
    rw [← hstopped.matched.home_eq] at havoids
    exact (hstopped.matched.agree.read havoids).symm
  constructor
  · intro turns
    exact hlockstep.visited turns ⟨.start, hpaired⟩
  · intro budget
    apply (hlockstep.playFrom budget ⟨.start, hpaired⟩).imp hsame
    rintro m n p q ⟨hcount, hstopped⟩
    exact ⟨hcount, hsame p q hstopped⟩

/-- A play of nothing but dialogue reads no file. -/
theorem not_reads_of_dialogues {file : Path}
    (dialogues : ∀ e ∈ script.events, ∃ speaker lines, e = .dialogue speaker lines) :
    ¬Reads settings' out choose ⟨s, Stage.opening settings script⟩ file := by
  intro h
  cases h with
  | @image drawn q d _ reached frame read =>
    obtain ⟨index, hstage⟩ := stage_of_reaches_of_dialogues dialogues reached
    cases read with
    | @sprite before after v canvas t split =>
      obtain ⟨sprite, hsprite, -⟩ := (Stage.depicts_of_frame frame).exists_of_mem (v := v) (by simp [split])
      rw [hstage] at hsprite
      cases hsprite
  | @step drawn q q' event choice _ reached current presented read =>
    obtain ⟨index, hstage⟩ := stage_of_reaches_of_dialogues dialogues reached
    have hplain : q.stage.cache = none := by
      rw [hstage]
      rfl
    have hcurrent : q'.stage.current = some event := by
      rw [stage_of_present hplain presented]
      exact current
    rw [hstage] at current
    obtain ⟨speaker, lines, rfl⟩ := dialogues event (List.mem_of_getElem? current)
    cases read with
    | script hevent =>
      rw [hcurrent] at hevent
      cases hevent
    | background hevent =>
      rw [hcurrent] at hevent
      cases hevent

/-- A working directory without anything in it, and a directory for drawings elsewhere. -/
def desk (home : Location) : Session where
  files := { home, entries := [(["out"], .directory)] }

/-- A line that is said two times. -/
def twice : Script where
  name := "a.txt"
  events := [.dialogue "A" ["hi"], .dialogue "A" ["hi"]]

def greeting : DialogueFrame where
  speaker := "A"
  text := "hi"

theorem shows_twice {r : Renderer} {d : DialogueFrame}
    (h : Shows r out choose ⟨s, Stage.opening {} twice⟩ d) : d = greeting := by
  obtain ⟨drawn, q, hreaches, hframe⟩ := h
  have hdialogues : ∀ e ∈ twice.events, ∃ speaker lines, e = .dialogue speaker lines := by
    simp [twice]
  change Reaches r out choose ⟨s, { Stage.opening {} twice with cache := none }⟩ drawn q at hreaches
  obtain ⟨speaker, lines, hmem, rfl⟩ := exists_of_frame_of_dialogues hdialogues hreaches hframe
  obtain ⟨rfl, rfl⟩ : speaker = "A" ∧ lines = ["hi"] := by simpa [twice] using hmem
  rfl

theorem storable_twice {r : Renderer} {directory : Path}
    (room : ∀ n, n < 10 ^ 20 → HasRoom directory n) :
    Storable directory (Shows r out choose ⟨s, Stage.opening {} twice⟩) where
  distinct := by
    intro d e hd he _ _ _
    rw [shows_twice hd, shows_twice he]
  encodable := by
    intro d hd
    rw [shows_twice hd]
    exact ⟨by simp [greeting], by decide, by simp [greeting], by decide +kernel, by decide +kernel⟩
  room := by
    intro d _ n hn
    exact room n (Nat.lt_trans (RenderCache.fingerprint?_lt hn) (by decide))

section

variable {home : Location} (inner : home ≠ []) (apart : home.head? ≠ some "out")
  (names : ∀ name ∈ home,
    Path.IsName name ∧ (Text.Utf8.encode name.toList).length ≤ FileTree.longestName)
  (fault : FileTree.nameFault? (Path.text ⟨"/", home⟩).toList = none)
  (room : (Text.Utf8.encode (Path.text ⟨"/", home⟩).toList).length ≤ FileTree.longestPath)

include names

theorem ofText_desk : Path.ofText (Path.text ⟨"/", home⟩) = ⟨"/", home⟩ :=
  Path.ofText_text ⟨Or.inr (Or.inl rfl), fun name hname => (names name hname).1.toIsPart⟩

include fault room

theorem locate_desk : (desk home).files.locate (Path.text ⟨"/", home⟩) =
    .ok home :=
  Path.locate_home names fault room

theorem place_desk : RenderCache.place home
    (Path.ofText (Path.text ⟨"/", home⟩)) = home := by
  have hlocate := locate_desk names fault room
  rw [ofText_desk names]
  exact (FileTree.eq_destination_of_locate hlocate).symm

include inner

/-- A cache is enabled on the working directory, and that changes no file. -/
theorem exists_enabled_desk :
    ∃ cache s', (RenderCache.enable
        { directory := Path.ofText (Path.text ⟨"/", home⟩) }).run (desk home) =
          .ok cache s' ∧ s'.files = (desk home).files ∧
      RenderCache.Run.Vacant (Path.text ⟨"/", home⟩) s' := by
  have hlocate := locate_desk names fault room
  have hplace := place_desk names fault room
  have hdirectory : (desk home).files.isDirectory
      (Path.ofText (Path.text ⟨"/", home⟩)).text = true := by
    rw [ofText_desk names]
    exact FileTree.isDirectory_iff.2 ⟨_, hlocate, FileTree.get?_home _⟩
  obtain ⟨listed, journal, -, hrun⟩ := RenderCache.run_enable_of_ok
    (c := { directory := Path.ofText (Path.text ⟨"/", home⟩) })
    (FileTree.ensureDirectory_of_isDirectory hdirectory)
  refine ⟨_, _, hrun, rfl, ?_⟩
  intro l name hl
  change RenderCache.place home _ <+: l at hl
  rw [hplace] at hl
  obtain ⟨below, rfl⟩ := hl
  have habove : ¬home ++ below ++ [name] <+: home := by
    intro h
    have hlength := h.length_le
    simp only [List.length_append, List.length_cons, List.length_nil] at hlength
    omega
  have hout : (home ++ below ++ [name] == ["out"]) = false := by
    rw [beq_eq_false_iff_ne]
    intro h
    obtain ⟨hhome, -⟩ := List.append_eq_nil_iff.1 (List.append_inj_left' h rfl)
    exact inner hhome
  rw [FileTree.get?, if_neg (by rwa [List.isPrefixOf_iff_prefix])]
  change List.lookup _ [(["out"], Entry.directory)] = none
  rw [List.lookup_cons, hout]
  rfl

include apart

theorem outside_desk {s' : Session} (files : s'.files = (desk home).files) (n : Nat) :
    Avoids (Reserved (Path.ofText (Path.text ⟨"/", home⟩)) (desk home).files
      s'.files) home ((Path.ofText "/out").child (drawingName n)).text := by
  have hproper := Path.proper_ofText "/out"
  have hpart := (isName_drawingName n).toIsPart
  have hsteps : FileTree.steps ((Path.ofText "/out").child (drawingName n)).text =
      ["out".toList, (drawingName n).toList] := by
    rw [Path.steps_text (hproper.child hpart), Path.trail_child _ hpart]
    rfl
  have horigin : FileTree.origin home
      ((Path.ofText "/out").child (drawingName n)).text = [] := by
    rw [Path.origin_text (hproper.child hpart), Path.child_of_isPart _ hpart]
    rfl
  have hplace := place_desk names fault room
  have hclear : ∀ l : Location, (l = [] ∨ ∃ below, l = "out" :: below) →
      ¬Reserved (Path.ofText (Path.text ⟨"/", home⟩)) (desk home).files
        s'.files l := by
    rintro l hl (⟨hunder, -⟩ | hget)
    · change RenderCache.place home _ <+: l at hunder
      rw [hplace] at hunder
      obtain rfl | ⟨below, rfl⟩ := hl
      · exact inner (List.prefix_nil.1 hunder)
      · rcases List.prefix_cons_iff.1 hunder with hnil | ⟨rest, hrest, -⟩
        · exact inner hnil
        · exact apart (by rw [hrest]; rfl)
    · rw [files] at hget
      exact hget rfl
  have hdirectory : FileTree.turn [] "out".toList = ["out"] := rfl
  intro l hl
  rw [FileTree.way, hsteps, horigin, List.scanl_cons, List.scanl_cons, List.scanl_nil, hdirectory]
    at hl
  simp only [List.mem_cons, List.not_mem_nil, or_false] at hl
  apply hclear
  obtain rfl | rfl | rfl := hl
  · exact Or.inl rfl
  · exact Or.inr ⟨[], rfl⟩
  · rw [FileTree.turn]
    split
    · exact Or.inr ⟨[], rfl⟩
    · split
      · exact Or.inl rfl
      · exact Or.inr ⟨_, rfl⟩

end

/-- The number of drawings of a play that has come to its end. -/
def drawings? : EStateM.Result Failure Play Nat → Option Nat
  | .ok n _ => some n
  | .error _ _ => none

theorem exists_of_drawings? {result : EStateM.Result Failure Play Nat} {n : Nat}
    (h : drawings? result = some n) : ∃ p, result = .ok n p := by
  cases result with
  | ok m p =>
    cases h
    exact ⟨p, rfl⟩
  | error e p => cases h

/-- The second of two lines that are the same comes out of the cache as it is drawn without one. -/
theorem play_eq_play_without_cache_twice :
    ∃ cache s' p q, (RenderCache.enable { directory := Path.ofText "/cache" }).run
          (desk ["cache"]) = .ok cache s' ∧
      (play (.scene {}) (Path.ofText "/out") none 3).run
          ⟨s', { Stage.opening {} twice with cache := some cache }⟩ = .ok 2 p ∧
      (play (.scene {}) (Path.ofText "/out") none 3).run ⟨desk ["cache"], Stage.opening {} twice⟩ =
          .ok 2 q ∧ SameEnd (Path.ofText "/out") p q := by
  have htext : Path.text ⟨"/", ["cache"]⟩ = "/cache" := by decide +kernel
  have hparse : Script.parse "[A]\nhi\n\n[A]\nhi\n" "a.txt" = .ok twice := rfl
  have names : ∀ name ∈ ["cache"],
      Path.IsName name ∧ (Text.Utf8.encode name.toList).length ≤ FileTree.longestName := by
    intro name hname
    rw [List.mem_singleton.1 hname]
    exact ⟨⟨⟨by decide, by decide, by decide⟩, by decide⟩, by decide⟩
  have hfault : FileTree.nameFault? (Path.text ⟨"/", ["cache"]⟩).toList = none := by
    rw [htext]
    decide +kernel
  have hroom : (Text.Utf8.encode (Path.text ⟨"/", ["cache"]⟩).toList).length ≤
      FileTree.longestPath := by
    rw [htext]
    decide +kernel
  obtain ⟨cache, s', enabled, files, vacant⟩ := exists_enabled_desk (by simp) names hfault hroom
  have outside := outside_desk (by simp) (by simp) names hfault hroom files
  rw [htext] at enabled vacant outside
  have hdialogues : ∀ e ∈ twice.events, ∃ speaker lines, e = .dialogue speaker lines := by
    simp [twice]
  have hstorable : Storable (Path.ofText "/cache") (Shows (.scene {}) (Path.ofText "/out") none
      ⟨desk ["cache"], Stage.opening {} twice⟩) := by
    apply storable_twice
    intro n hn
    exact RenderCache.hasRoom_of_le (by decide) hn (by decide +kernel)
  obtain ⟨-, hplay⟩ := play_eq_play_without_cache hparse enabled vacant outside
    (fun file hreads => absurd hreads (not_reads_of_dialogues hdialogues)) hstorable
  -- For a given budget the plays would be run where it is only asked how they end.
  have hend : ∀ budget n q, (play (.scene {}) (Path.ofText "/out") none budget).run
      ⟨desk ["cache"], Stage.opening {} twice⟩ = .ok n q →
      ∃ p, (play (.scene {}) (Path.ofText "/out") none budget).run
        ⟨s', { Stage.opening {} twice with cache := some cache }⟩ = .ok n p ∧
          SameEnd (Path.ofText "/out") p q := by
    intro budget n q hq
    obtain ⟨m, p, hp, rfl, hsame⟩ := (hplay budget).exists_of_ok_right hq
    exact ⟨p, hp, hsame⟩
  obtain ⟨q, hq⟩ : ∃ q, (play (.scene {}) (Path.ofText "/out") none 3).run
      ⟨desk ["cache"], Stage.opening {} twice⟩ = .ok 2 q :=
    exists_of_drawings? (by decide +kernel)
  obtain ⟨p, hp, hsame⟩ := hend 3 2 q hq
  exact ⟨cache, s', p, q, enabled, hp, hq, hsame⟩

theorem lookup_enabled
    (enabled : (RenderCache.enable { directory := Path.ofText directory }).run s = .ok cache s')
    (vacant : RenderCache.Run.Vacant directory s') (n : Nat) :
    cache.directory = Path.ofText directory ∧ cache.lookup n = none := by
  obtain ⟨-, -, hsound, -⟩ := RenderCache.sound_enabled enabled vacant fun _ => .bytes []
  refine ⟨hsound.indexed.directory_eq, ?_⟩
  cases hlookup : cache.lookup n with
  | none => rfl
  | some file =>
    obtain ⟨d, hd, -⟩ := hsound.indexed.lookup.1 hlookup
    cases hd

/-- Where there is no room for a drawing the first line of a play ends it. -/
theorem exists_play_error_of_not_hasRoom {r : Renderer} {n : Nat}
    (enabled : (RenderCache.enable { directory := Path.ofText directory }).run s = .ok cache s')
    (vacant : RenderCache.Run.Vacant directory s') (hn : greeting.fingerprint? = some n)
    (room : ¬HasRoom (Path.ofText directory) n) (budget : Nat) :
    ∃ e p, (play r out choose (budget + 1)).run
      ⟨s', { Stage.opening {} twice with cache := some cache }⟩ = .error e p := by
  obtain ⟨hdirectory, hmissing⟩ := lookup_enabled enabled vacant n
  rw [← hdirectory] at room
  obtain ⟨e, t, hrender⟩ := RenderCache.run_render_of_not_hasRoom r
    (out.child (drawingName 1)).text s' hn hmissing room
  have hframe : Stage.frame { Stage.opening {} twice with cache := some cache } =
      .ok (some (.dialogue greeting)) := rfl
  have hfailed : (Stage.renderCached r (out.child (drawingName (0 + 1))).text).run
      ⟨s', { Stage.opening {} twice with cache := some cache }⟩ =
        .error e ⟨t, { Stage.opening {} twice with cache := some cache }⟩ := by
    rw [Stage.run_renderCached_of_some (c := cache) rfl]
    simp only [hframe, hrender]
  have hcurrent : ({ Stage.opening {} twice with cache := some cache } : Stage).current =
      some (.dialogue "A" ["hi"]) := rfl
  exact ⟨e, _, run_playFrom_of_error hcurrent rfl hfailed⟩

def longName : String :=
  String.ofList (List.replicate 194 'd')

theorem toList_longName : longName.toList = List.replicate 194 'd' :=
  String.toList_ofList

/-- A working directory whose absolute path is as long as paths can be. -/
def deep : Location :=
  List.replicate 21 longName

theorem toList_text_deep : (Path.text ⟨"/", deep⟩).toList =
    '/' :: ['/'].intercalate (List.replicate 21 (List.replicate 194 'd')) := by
  rw [Path.toList_text_absolute, deep, List.map_replicate, toList_longName]

theorem isName_longName : Path.IsName longName := by
  refine ⟨⟨?_, ?_, ?_⟩, ?_⟩
  all_goals
    rw [toList_longName]
    decide

/-- In a directory whose path is as long as paths can be no drawing can be kept, so that a play with
the cache ends at its first line, while the play without it goes on to the end. -/
theorem exists_play_ne_play_without_cache :
    ∃ directory cache s', (RenderCache.enable { directory := Path.ofText directory }).run
          (desk deep) = .ok cache s' ∧
      RenderCache.Run.Vacant directory s' ∧
      (∀ n, Avoids (Reserved (Path.ofText directory) (desk deep).files s'.files) deep
        ((Path.ofText "/out").child (drawingName n)).text) ∧
      (∀ file, ¬Reads {} (Path.ofText "/out") none ⟨desk deep, Stage.opening {} twice⟩ file) ∧
      (∀ d e, Shows (.scene {}) (Path.ofText "/out") none ⟨desk deep, Stage.opening {} twice⟩ d →
        Shows (.scene {}) (Path.ofText "/out") none ⟨desk deep, Stage.opening {} twice⟩ e → d = e) ∧
      (∃ q, (play (.scene {}) (Path.ofText "/out") none 3).run
        ⟨desk deep, Stage.opening {} twice⟩ = .ok 2 q) ∧
      ∃ e p, (play (.scene {}) (Path.ofText "/out") none 3).run
        ⟨s', { Stage.opening {} twice with cache := some cache }⟩ = .error e p := by
  have hlength : (Text.Utf8.encode (Path.text ⟨"/", deep⟩).toList).length =
      FileTree.longestPath := by
    rw [toList_text_deep]
    decide +kernel
  have hfault : FileTree.nameFault? (Path.text ⟨"/", deep⟩).toList = none := by
    rw [toList_text_deep]
    decide +kernel
  have hdrawings : drawings? ((play (.scene {}) (Path.ofText "/out") none 3).run
      ⟨desk deep, Stage.opening {} twice⟩) = some 2 := by decide +kernel
  have names : ∀ name ∈ deep,
      Path.IsName name ∧ (Text.Utf8.encode name.toList).length ≤ FileTree.longestName := by
    intro name hname
    rw [List.eq_of_mem_replicate hname]
    refine ⟨isName_longName, ?_⟩
    rw [toList_longName]
    decide +kernel
  obtain ⟨cache, s', enabled, files, vacant⟩ :=
    exists_enabled_desk (by decide) names hfault (Nat.le_of_eq hlength)
  have outside := outside_desk (by decide) (by decide +kernel) names hfault (Nat.le_of_eq hlength) files
  have hdialogues : ∀ e ∈ twice.events, ∃ speaker lines, e = .dialogue speaker lines := by
    simp [twice]
  refine ⟨_, cache, s', enabled, vacant, outside, fun file => not_reads_of_dialogues hdialogues,
    ?_, exists_of_drawings? hdrawings, ?_⟩
  · intro d e hd he
    rw [shows_twice hd, shows_twice he]
  · obtain ⟨n, hn⟩ : ∃ n, greeting.fingerprint? = some n := by
      rw [DialogueFrame.fingerprint?_eq, if_pos (by decide +kernel)]
      simp
    have hroom : ¬HasRoom (Path.ofText (Path.text ⟨"/", deep⟩)) n := by
      rw [ofText_desk names]
      exact RenderCache.not_hasRoom_of_le (by simp) (Nat.le_of_eq hlength.symm)
    exact exists_play_error_of_not_hasRoom enabled vacant hn hroom 2

end VisualNovel.Play
