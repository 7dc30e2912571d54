import Mathlib.Data.List.Dedup
import Mathlib.Data.List.Induction
import VisualNovel.Proofs.Cache.Shelf

/-!
# Rendering through a cache is rendering

Whatever was called before, a frame that is rendered through a cache leaves in its file what drawing
it directly leaves there, and a dialogue frame is served from the cache exactly if the same frame was
stored before, be it by an earlier cache on the same directory. So a run without failures draws every
dialogue frame once.
-/
namespace VisualNovel.RenderCache

open FileTree (destination)

def dialogues (calls : List Call) : List DialogueFrame :=
  calls.filterMap Call.dialogue?

/-- The files below the directory and the index agree with what was stored, no frame twice. -/
structure Sound (home : Location) (directory : Path) (picture : DialogueFrame → Content)
    (frames stored : List DialogueFrame) (t : FileTree) (c : RenderCache) : Prop where
  shelved : Shelved home directory picture stored t
  indexed : Indexed directory stored c
  known : ∀ d ∈ stored, d ∈ frames
  nodup : (stored.map DialogueFrame.bare).Nodup

/-- Equal fingerprints of frames stand for equal frames. -/
def Distinct (frames : List DialogueFrame) : Prop :=
  ∀ d ∈ frames, ∀ e ∈ frames, ∀ n, d.fingerprint? = some n → e.fingerprint? = some n →
    d.bare = e.bare

variable {r : Renderer} {picture : DialogueFrame → Content} {home : Location} {directory : Path}
  {frames stored : List DialogueFrame} {t : FileTree} {c : RenderCache} {s : Session}
  {d : DialogueFrame} {g : ChoiceFrame} {out : String} {n : Nat}

theorem fingerprint?_eq_of_bare_eq {d e : DialogueFrame} (h : d.bare = e.bare) :
    d.fingerprint? = e.fingerprint? := by
  have hbare (f : DialogueFrame) : f.bare.fingerprint? = f.fingerprint? := rfl
  rw [← hbare d, h, hbare]

theorem encodable_of_fingerprint? (h : d.fingerprint? = some n) :
    Fingerprint.encodable d = true := by
  rw [DialogueFrame.fingerprint?_eq] at h
  split at h
  · assumption
  · cases h

theorem distinct_of_encode (h : ∀ d ∈ frames, ∀ e ∈ frames, ∀ n, d.fingerprint? = some n →
    e.fingerprint? = some n → Fingerprint.encode d = Fingerprint.encode e) : Distinct frames := by
  intro d hd e he n hdn hen
  exact Fingerprint.bare_eq_of_encode_eq (encodable_of_fingerprint? hdn)
    (encodable_of_fingerprint? hen) (h d hd e he n hdn hen)

namespace Sound

theorem read_of_lookup (sound : Sound home directory picture frames stored t c)
    (distinct : Distinct frames) (hd : d ∈ frames) {file : Path}
    (hn : d.fingerprint? = some n) (hfile : c.lookup n = some file) :
    (∃ e ∈ stored, e.bare = d.bare) ∧ t.read file.text = .ok (picture d.bare) := by
  obtain ⟨e, he, m, hm, hnm, rfl⟩ := sound.indexed.lookup.1 hfile
  obtain rfl := Int.ofNat.inj hnm
  have hbare : e.bare = d.bare := distinct e (sound.known e he) d hd n hm hn
  refine ⟨⟨e, he, hbare⟩, ?_⟩
  rw [← hbare]
  exact sound.shelved.drawings he hm

theorem not_stored_of_lookup (sound : Sound home directory picture frames stored t c)
    (hn : d.fingerprint? = some n) (hmissing : c.lookup n = none) :
    ¬∃ e ∈ stored, e.bare = d.bare := by
  rintro ⟨e, he, hbare⟩
  have hen : e.fingerprint? = some n := (fingerprint?_eq_of_bare_eq hbare).trans hn
  rw [sound.indexed.lookup_of_mem he hen] at hmissing
  cases hmissing

theorem write (sound : Sound home directory picture frames stored t c)
    (proper : directory.Proper) {u : FileTree} {content : Content}
    (hwrite : t.write out content = .ok u)
    (outside : ¬place home directory <+: destination home out) :
    Sound home directory picture frames stored u c :=
  ⟨sound.shelved.write proper hwrite outside, sound.indexed, sound.known, sound.nodup⟩

theorem store (sound : Sound home directory picture frames stored t c)
    (proper : directory.Proper) (hd : d ∈ frames) {u : FileTree}
    (hn : d.fingerprint? = some n) (hmissing : c.lookup n = none)
    (hwrite : t.write (fileOf directory n).text (picture d.bare) = .ok u) :
    Sound home directory picture frames (stored ++ [d]) u
      { c with index := keep n (fileOf c.directory n) c.index } where
  shelved := by
    refine sound.shelved.store proper hn (fun e he hen => ?_) hwrite
    rw [sound.indexed.lookup_of_mem he hen] at hmissing
    cases hmissing
  indexed := sound.indexed.keep hn
  known := by
    intro e he
    rcases List.mem_append.1 he with he | he
    · exact sound.known e he
    · rwa [List.mem_singleton.1 he]
  nodup := by
    rw [List.map_append, List.map_singleton]
    refine List.nodup_append.2 ⟨sound.nodup, List.nodup_singleton _, ?_⟩
    rintro b hb b' hb' rfl
    obtain ⟨e, he, heb⟩ := List.mem_map.1 hb
    exact sound.not_stored_of_lookup hn hmissing ⟨e, he, heb.trans (List.mem_singleton.1 hb')⟩

/-- Rendering a dialogue frame fails, serves a frame that was stored or draws and stores one that was
not. The files and the index stay sound in each case, and the frame's file holds its drawing in the
latter two. -/
theorem render_dialogue (sound : Sound home directory picture frames stored s.files c)
    (hr : r.Draws picture) (proper : directory.Proper) (distinct : Distinct frames)
    (hd : d ∈ frames) (outside : ¬place home directory <+: destination home out) :
    match (c.render r (.dialogue d) out).run s with
    | .error _ s' => Sound home directory picture frames stored s'.files c
    | .ok (c', true) s' =>
      Sound home directory picture frames stored s'.files c' ∧
        s'.files.read out = .ok (picture d.bare) ∧ (∃ e ∈ stored, e.bare = d.bare) ∧
          s'.drawn = s.drawn
    | .ok (c', false) s' =>
      Sound home directory picture frames (stored ++ [d]) s'.files c' ∧
        s'.files.read out = .ok (picture d.bare) ∧ (¬∃ e ∈ stored, e.bare = d.bare) ∧
          (r.Counts → s'.drawn = s.drawn + 1) := by
  have hrendering := rendering hr c s d out
  generalize (c.render r (.dialogue d) out).run s = result at hrendering ⊢
  cases hrendering with
  | failed files =>
    rcases files with files | files
    · simp only [files]
      exact sound
    · exact sound.write proper files outside
  | served fingerprint kept copied drawn =>
    obtain ⟨hkept, hread⟩ := sound.read_of_lookup distinct hd fingerprint kept
    obtain ⟨content, hcontent, hwrite⟩ := FileTree.exists_of_copy copied
    obtain rfl : picture d.bare = content := Except.ok.inj (hread.symm.trans hcontent)
    exact ⟨sound.write proper hwrite outside, FileTree.read_of_write hwrite, hkept, drawn⟩
  | @drawn n t s' fingerprint missing written copied drawn =>
    obtain ⟨content, hcontent, hwrite⟩ := FileTree.exists_of_copy copied
    obtain rfl : picture d.bare = content :=
      Except.ok.inj ((FileTree.read_of_write written).symm.trans hcontent)
    rw [sound.indexed.directory_eq] at hwrite
    have hsound := sound.write proper written outside
    have hplace := destination_fileOf proper t.home n
    refine ⟨hsound.store proper hd fingerprint missing hwrite, ?_,
      sound.not_stored_of_lookup fingerprint missing, drawn⟩
    refine FileTree.read_of_write_of_ne hwrite hcontent fun hsame => outside ?_
    have hout : destination home out = place home directory ++ [drawingName n] := by
      rw [← hsound.shelved.home_eq]
      exact hsame.trans hplace
    rw [hout]
    exact List.prefix_append _ _

/-- Rendering directly changes no file but its own. -/
theorem render_direct (sound : Sound home directory picture frames stored s.files c)
    (hr : r.Draws picture) (proper : directory.Proper) {f : Frame}
    (outside : ¬place home directory <+: destination home out) :
    match (r.render f out).run s with
    | .error _ s' => s'.files = s.files
    | .ok _ s' =>
      Sound home directory picture frames stored s'.files c ∧
        (∃ content, s'.files.read out = .ok content) ∧
          (∀ l, place home directory <+: l → s'.files.get? l = s.files.get? l) ∧
            (r.Counts → s'.drawn = s.drawn + 1) := by
  cases hrender : (r.render f out).run s with
  | error e s' => exact hr.files_of_render_error hrender
  | ok _ s' =>
    obtain ⟨content, t, hdraw, hwrite, hdrawn⟩ := hr.write_of_render hrender
    refine ⟨sound.write proper hwrite outside, ⟨content, FileTree.read_of_write hwrite⟩, ?_, ?_⟩
    · intro l hl
      refine FileTree.get?_of_write hwrite ?_
      rintro rfl
      rw [sound.shelved.home_eq] at hl
      exact outside hl
    · intro counts
      have hone := counts hdraw
      exact hdrawn.trans hone

/-- Enabling a cache on the directory finds what was stored. It can fail only if nothing was. -/
theorem enable (sound : Sound home directory picture frames stored s.files c)
    (proper : directory.Proper) (c₀ : RenderCache) (hc : c₀.directory = directory) :
    match c₀.enable.run s with
    | .error _ s' => s' = s ∧ stored = []
    | .ok c' s' => Sound home directory picture frames stored s'.files c' ∧ s'.drawn = s.drawn := by
  cases hensure : s.files.ensureDirectory c₀.directory with
  | error e =>
    rw [run_enable_of_error hensure]
    refine ⟨rfl, List.eq_nil_iff_forall_not_mem.2 fun d hd => ?_⟩
    obtain ⟨n, hn⟩ := sound.shelved.hashed hd
    have hdirectory := sound.shelved.isDirectory proper hd hn
    rw [hc, FileTree.ensureDirectory_of_isDirectory hdirectory] at hensure
    cases hensure
  | ok t =>
    obtain ⟨names, journal, hnames, hrun⟩ := run_enable_of_ok hensure
    obtain ⟨hadds, hdirectory⟩ := FileTree.addsDirectories_ensureDirectory hensure
    have hshelved := sound.shelved.addsDirectories hadds
    subst hc
    rw [hrun]
    exact ⟨⟨hshelved, hshelved.indexed_scan proper hdirectory hnames rfl, sound.known,
      sound.nodup⟩, rfl⟩

end Sound

namespace Run

/-- What a rendering call does after a run: the file of a frame holds its direct rendering, a
dialogue frame is served exactly if it was stored in the run, and a choice is drawn and leaves the
cache and everything below its place alone. -/
structure Transparent (r : Renderer) (picture : DialogueFrame → Content) (place : Location)
    (w : Run) (f : Frame) (out : String) : Prop where
  direct : (w.outcome r (.render f out)).succeeded = true →
    ∃ c, (w.step r (.render f out)).session.files.read out = .ok c ∧
      ∀ s, (r.render f out).run w.session = .ok () s → s.files.read out = .ok c
  dialogue : ∀ d, f = .dialogue d → (w.outcome r (.render f out)).succeeded = true →
    (w.step r (.render f out)).session.files.read out = .ok (picture d.bare) ∧
      (w.outcome r (.render f out) = .served ↔ ∃ e ∈ w.stored, e.bare = d.bare)
  choice : ∀ g, f = .choice g →
    ((w.outcome r (.render f out)).succeeded = true →
      w.outcome r (.render f out) = .drawn ∧
        (r.render f out).run w.session = .ok () (w.step r (.render f out)).session) ∧
    (w.step r (.render f out)).cache = w.cache ∧
      ∀ l, place <+: l →
        (w.step r (.render f out)).session.files.get? l = w.session.files.get? l

variable {w : Run}

/-- The files and the index agree with what the run has stored. -/
def Holds (home : Location) (directory : Path) (picture : DialogueFrame → Content)
    (frames : List DialogueFrame) (w : Run) : Prop :=
  Sound home directory picture frames w.stored w.session.files w.cache

/-- A call that writes outside of the directory and renders no other dialogue frames than these. -/
structure Fits (home : Location) (directory : Path) (frames : List DialogueFrame)
    (call : Call) : Prop where
  outside : ∀ {out}, call.target? = some out → ¬place home directory <+: destination home out
  known : ∀ {d}, call.dialogue? = some d → d ∈ frames

/-- What a call has done, by its outcome. -/
inductive Effect (r : Renderer) (picture : DialogueFrame → Content) (w w' : Run) :
    Call → Outcome → Prop where
  | failed {call : Call} {e : Failure} : Effect r picture w w' call (.failed e)
  | done {call : Call} (quiet : call.dialogue? = none ∧ call.isChoice = false)
      (drawn : w'.session.drawn = w.session.drawn) : Effect r picture w w' call .done
  | choice {g : ChoiceFrame} {out : String}
      (drawn : r.Counts → w'.session.drawn = w.session.drawn + 1) :
      Effect r picture w w' (.render (.choice g) out) .drawn
  | served {d : DialogueFrame} {out : String} (before : ∃ e ∈ w.stored, e.bare = d.bare)
      (read : w'.session.files.read out = .ok (picture d.bare))
      (drawn : w'.session.drawn = w.session.drawn) :
      Effect r picture w w' (.render (.dialogue d) out) .served
  | drawn {d : DialogueFrame} {out : String} (new : ¬∃ e ∈ w.stored, e.bare = d.bare)
      (read : w'.session.files.read out = .ok (picture d.bare))
      (drawn : r.Counts → w'.session.drawn = w.session.drawn + 1) :
      Effect r picture w w' (.render (.dialogue d) out) .drawn

theorem step_choice (r : Renderer) (w : Run) (g : ChoiceFrame) (out : String) :
    match (r.render (.choice g) out).run w.session with
    | .error e s' =>
      w.outcome r (.render (.choice g) out) = .failed e ∧
        w.step r (.render (.choice g) out) =
          ⟨w.cache, s', w.past ++ [(.render (.choice g) out, .failed e)]⟩
    | .ok _ s' =>
      w.outcome r (.render (.choice g) out) = .drawn ∧
        w.step r (.render (.choice g) out) =
          ⟨w.cache, s', w.past ++ [(.render (.choice g) out, .drawn)]⟩ := by
  have hperform := run_perform_render r w.cache (.choice g) out w.session
  rw [run_render_choice] at hperform
  cases hrun : (r.render (.choice g) out).run w.session with
  | error e s' =>
    rw [hrun] at hperform
    exact step_of_error hperform
  | ok _ s' =>
    rw [hrun] at hperform
    exact step_of_ok hperform

namespace Holds

theorem step_enable (sound : Holds home directory picture frames w)
    (proper : directory.Proper) :
    Holds home directory picture frames (w.step r .enable) ∧
      Effect r picture w (w.step r .enable) .enable (w.outcome r .enable) := by
  have h := Sound.enable sound proper w.cache sound.indexed.directory_eq
  have hperform := run_perform_enable r w.cache w.session
  cases hrun : w.cache.enable.run w.session with
  | error e s' =>
    rw [hrun] at h hperform
    obtain ⟨houtcome, hstep⟩ := step_of_error hperform
    rw [Holds, stored_step, houtcome, hstep, h.1]
    simp only [storedBy, Option.toList_none, List.append_nil]
    exact ⟨sound, .failed⟩
  | ok c' s' =>
    rw [hrun] at h hperform
    obtain ⟨houtcome, hstep⟩ := step_of_ok hperform
    rw [Holds, stored_step, houtcome, hstep]
    simp only [storedBy, Option.toList_none, List.append_nil]
    exact ⟨h.1, .done ⟨rfl, rfl⟩ h.2⟩

theorem step_restart (sound : Holds home directory picture frames w)
    (proper : directory.Proper) :
    Holds home directory picture frames (w.step r .restart) ∧
      Effect r picture w (w.step r .restart) .restart (w.outcome r .restart) := by
  have hdirectory := sound.indexed.directory_eq
  have h := Sound.enable sound proper { directory := w.cache.directory } hdirectory
  have hperform := run_perform_restart r w.cache w.session
  cases hrun : (RenderCache.enable { directory := w.cache.directory }).run w.session with
  | error e s' =>
    rw [hrun] at h hperform
    obtain ⟨hfiles, hnil⟩ := h
    obtain ⟨houtcome, hstep⟩ := step_of_error hperform
    rw [Holds, stored_step, houtcome, hstep, hfiles]
    simp only [storedBy, Option.toList_none, List.append_nil]
    refine ⟨⟨sound.shelved, ?_, sound.known, sound.nodup⟩, .failed⟩
    rw [hnil, behind, hdirectory]
    exact indexed_nil directory
  | ok c' s' =>
    rw [hrun] at h hperform
    obtain ⟨houtcome, hstep⟩ := step_of_ok hperform
    rw [Holds, stored_step, houtcome, hstep]
    simp only [storedBy, Option.toList_none, List.append_nil]
    exact ⟨h.1, .done ⟨rfl, rfl⟩ h.2⟩

theorem step_render_choice (sound : Holds home directory picture frames w)
    (hr : r.Draws picture) (proper : directory.Proper)
    (outside : ¬place home directory <+: destination home out) :
    Holds home directory picture frames (w.step r (.render (.choice g) out)) ∧
      Effect r picture w (w.step r (.render (.choice g) out)) (.render (.choice g) out)
        (w.outcome r (.render (.choice g) out)) := by
  have h := Sound.render_direct (f := .choice g) sound hr proper outside
  have hstep := step_choice r w g out
  cases hrun : (r.render (.choice g) out).run w.session with
  | error e s' =>
    rw [hrun] at h hstep
    obtain ⟨houtcome, hstep⟩ := hstep
    rw [Holds, stored_step, houtcome, hstep, show s'.files = w.session.files from h]
    simp only [storedBy, Option.toList_none, List.append_nil]
    exact ⟨sound, .failed⟩
  | ok _ s' =>
    rw [hrun] at h hstep
    obtain ⟨houtcome, hstep⟩ := hstep
    obtain ⟨hsound, -, -, hdrawn⟩ := h
    rw [Holds, stored_step, houtcome, hstep]
    simp only [storedBy, Call.dialogue?, Option.toList_none, List.append_nil]
    exact ⟨hsound, .choice hdrawn⟩

theorem step_render_dialogue (sound : Holds home directory picture frames w)
    (hr : r.Draws picture) (proper : directory.Proper) (distinct : Distinct frames)
    (hd : d ∈ frames) (outside : ¬place home directory <+: destination home out) :
    Holds home directory picture frames (w.step r (.render (.dialogue d) out)) ∧
      Effect r picture w (w.step r (.render (.dialogue d) out)) (.render (.dialogue d) out)
        (w.outcome r (.render (.dialogue d) out)) := by
  have h := Sound.render_dialogue sound hr proper distinct hd outside
  have hperform := run_perform_render r w.cache (.dialogue d) out w.session
  cases hrun : (w.cache.render r (.dialogue d) out).run w.session with
  | error e s' =>
    rw [hrun] at h hperform
    obtain ⟨houtcome, hstep⟩ := step_of_error hperform
    rw [Holds, stored_step, houtcome, hstep]
    simp only [storedBy, Option.toList_none, List.append_nil]
    exact ⟨h, .failed⟩
  | ok p s' =>
    obtain ⟨c', kept⟩ := p
    rw [hrun] at h hperform
    obtain ⟨houtcome, hstep⟩ := step_of_ok hperform
    rw [Holds, stored_step, houtcome, hstep]
    cases kept with
    | true =>
      obtain ⟨hsound, hread, hbefore, hdrawn⟩ := h
      simp only [if_true, storedBy, Option.toList_none, List.append_nil]
      exact ⟨hsound, .served hbefore hread hdrawn⟩
    | false =>
      obtain ⟨hsound, hread, hnew, hdrawn⟩ := h
      simp only [Bool.false_eq_true, if_false, storedBy, Call.dialogue?, Option.toList_some]
      exact ⟨hsound, .drawn hnew hread hdrawn⟩

theorem step (sound : Holds home directory picture frames w) (hr : r.Draws picture)
    (proper : directory.Proper) (distinct : Distinct frames) {call : Call}
    (fits : Fits home directory frames call) :
    Holds home directory picture frames (w.step r call) ∧
      Effect r picture w (w.step r call) call (w.outcome r call) := by
  cases call with
  | enable => exact sound.step_enable proper
  | restart => exact sound.step_restart proper
  | render f out =>
    cases f with
    | choice g => exact sound.step_render_choice hr proper (fits.outside rfl)
    | dialogue d =>
      exact sound.step_render_dialogue hr proper distinct (fits.known rfl) (fits.outside rfl)

theorem play (sound : Holds home directory picture frames w) (hr : r.Draws picture)
    (proper : directory.Proper) (distinct : Distinct frames) {calls : List Call}
    (fits : ∀ call ∈ calls, Fits home directory frames call) :
    Holds home directory picture frames (w.play r calls) := by
  induction calls generalizing w with
  | nil => exact sound
  | cons call rest ih =>
    exact ih (sound.step hr proper distinct (fits call List.mem_cons_self)).1
      fun call' h => fits call' (List.mem_cons_of_mem _ h)

theorem transparent_dialogue (sound : Holds home directory picture frames w)
    (hr : r.Draws picture) (proper : directory.Proper) (distinct : Distinct frames)
    (hd : d ∈ frames) (outside : ¬place home directory <+: destination home out)
    (succeeded : (w.outcome r (.render (.dialogue d) out)).succeeded = true) :
    (w.step r (.render (.dialogue d) out)).session.files.read out = .ok (picture d.bare) ∧
      (w.outcome r (.render (.dialogue d) out) = .served ↔ ∃ e ∈ w.stored, e.bare = d.bare) := by
  have heffect := (sound.step_render_dialogue hr proper distinct hd outside).2
  generalize w.outcome r (.render (.dialogue d) out) = o at heffect succeeded ⊢
  cases heffect with
  | failed => cases succeeded
  | done quiet => cases quiet.1
  | served before read drawn => exact ⟨read, fun _ => before, fun _ => rfl⟩
  | drawn new read drawn =>
    exact ⟨read, fun hserved => (by cases hserved), fun before => absurd before new⟩

theorem transparent_choice (sound : Holds home directory picture frames w)
    (hr : r.Draws picture) (proper : directory.Proper)
    (outside : ¬place home directory <+: destination home out) :
    ((w.outcome r (.render (.choice g) out)).succeeded = true →
      w.outcome r (.render (.choice g) out) = .drawn ∧
        (r.render (.choice g) out).run w.session =
          .ok () (w.step r (.render (.choice g) out)).session ∧
        ∃ c, (w.step r (.render (.choice g) out)).session.files.read out = .ok c) ∧
    (w.step r (.render (.choice g) out)).cache = w.cache ∧
      ∀ l, place home directory <+: l →
        (w.step r (.render (.choice g) out)).session.files.get? l = w.session.files.get? l := by
  have h := Sound.render_direct (f := .choice g) sound hr proper outside
  have hstep := step_choice r w g out
  cases hrun : (r.render (.choice g) out).run w.session with
  | error e s' =>
    rw [hrun] at h hstep
    obtain ⟨houtcome, hstep⟩ := hstep
    rw [houtcome, hstep]
    refine ⟨fun succeeded => (by cases succeeded), rfl, fun l _ => ?_⟩
    rw [show s'.files = w.session.files from h]
  | ok _ s' =>
    rw [hrun] at h hstep
    obtain ⟨houtcome, hstep⟩ := hstep
    obtain ⟨-, hread, hbelow, -⟩ := h
    rw [houtcome, hstep]
    exact ⟨fun _ => ⟨rfl, rfl, hread⟩, rfl, hbelow⟩

theorem transparent (sound : Holds home directory picture frames w) (hr : r.Draws picture)
    (proper : directory.Proper) (distinct : Distinct frames) {f : Frame}
    (fits : Fits home directory frames (.render f out)) :
    Transparent r picture (place home directory) w f out := by
  have outside := fits.outside rfl
  cases f with
  | dialogue d =>
    have h := sound.transparent_dialogue hr proper distinct (fits.known rfl) outside
    refine ⟨fun succeeded => ⟨_, (h succeeded).1, fun s' hrender => ?_⟩, ?_, ?_⟩
    · obtain ⟨content, t, hdraw, hwrite, -⟩ := hr.write_of_render hrender
      rw [← hr.dialogue hdraw]
      exact FileTree.read_of_write hwrite
    · intro e he
      cases he
      exact h
    · intro g hg
      cases hg
  | choice g =>
    obtain ⟨hsucceeded, hcache, hbelow⟩ :=
      sound.transparent_choice (g := g) hr proper outside
    refine ⟨fun succeeded => ?_, ?_, ?_⟩
    · obtain ⟨-, hrun, c, hread⟩ := hsucceeded succeeded
      refine ⟨c, hread, fun s' hs' => ?_⟩
      rw [hrun] at hs'
      cases hs'
      exact hread
    · intro d hd
      cases hd
    · intro g' hg
      cases hg
      refine ⟨fun succeeded => ?_, hcache, hbelow⟩
      obtain ⟨hdrawn, hrun, -⟩ := hsucceeded succeeded
      exact ⟨hdrawn, hrun⟩

end Holds

theorem dialogue?_of_storedBy {call : Call} {o : Outcome} (h : storedBy (call, o) = some d) :
    call.dialogue? = some d := by
  cases o with
  | drawn => exact h
  | done => cases h
  | served => cases h
  | failed e => cases h

/-- The frame of a call that succeeds has been stored, by the call or before. -/
theorem Effect.mem_stored {w' : Run} {call : Call} {o : Outcome}
    (h : Effect r picture w w' call o) (succeeded : o.succeeded = true)
    (hd : call.dialogue? = some d) :
    ∃ e ∈ w.stored ++ (storedBy (call, o)).toList, e.bare = d.bare := by
  cases h with
  | failed => cases succeeded
  | done quiet =>
    rw [quiet.1] at hd
    cases hd
  | choice => cases hd
  | served before =>
    cases hd
    obtain ⟨e, he, hbare⟩ := before
    exact ⟨e, List.mem_append_left _ he, hbare⟩
  | drawn =>
    cases hd
    exact ⟨d, by simp [storedBy, Call.dialogue?], rfl⟩

/-- What a call that succeeds has drawn is what it has stored, or a choice. -/
theorem Effect.drawn_eq {w' : Run} {call : Call} {o : Outcome}
    (h : Effect r picture w w' call o) (succeeded : o.succeeded = true) (counts : r.Counts) :
    w'.session.drawn = w.session.drawn + (storedBy (call, o)).toList.length +
      [call].countP Call.isChoice := by
  cases h with
  | failed => cases succeeded
  | done quiet drawn =>
    rw [drawn, List.countP_singleton, quiet.2]
    rfl
  | choice drawn =>
    rw [drawn counts]
    rfl
  | served before read drawn =>
    rw [drawn]
    rfl
  | drawn new read drawn =>
    rw [drawn counts]
    rfl

theorem play_concat (r : Renderer) (w : Run) (calls : List Call) (call : Call) :
    w.play r (calls ++ [call]) = (w.play r calls).step r call :=
  List.foldl_append

theorem mem_dialogues_concat {calls : List Call} {call : Call} :
    d ∈ dialogues (calls ++ [call]) ↔ d ∈ dialogues calls ∨ call.dialogue? = some d := by
  simp [dialogues, List.filterMap_append]

/-- A run without failures has stored the dialogue frames of its calls, and it has drawn these and the
choices. -/
theorem Holds.stored_play (sound : Holds home directory picture frames w) (hr : r.Draws picture)
    (proper : directory.Proper) (distinct : Distinct frames) {calls : List Call}
    (fits : ∀ call ∈ calls, Fits home directory frames call)
    (succeeded : ∀ x ∈ (w.play r calls).past, x.2.succeeded = true) (new : w.stored = []) :
    (∀ d ∈ (w.play r calls).stored, d ∈ dialogues calls) ∧
    (∀ d ∈ dialogues calls, ∃ e ∈ (w.play r calls).stored, e.bare = d.bare) ∧
    (r.Counts → (w.play r calls).session.drawn =
      w.session.drawn + (w.play r calls).stored.length + calls.countP Call.isChoice) := by
  induction calls using List.reverseRecOn with
  | nil =>
    rw [show w.play r [] = w from rfl, new]
    exact ⟨fun d hd => (by cases hd), fun d hd => (by cases hd), fun _ => rfl⟩
  | append_singleton init call ih =>
    rw [play_concat] at succeeded ⊢
    rw [past_step] at succeeded
    have hinit : ∀ call ∈ init, Fits home directory frames call :=
      fun call' h => fits call' (List.mem_append_left _ h)
    have hsucceeded : ((w.play r init).outcome r call).succeeded = true :=
      succeeded (call, (w.play r init).outcome r call) (List.mem_append_right _ (by simp))
    have heffect := ((sound.play hr proper distinct hinit).step hr proper distinct
      (fits call (by simp))).2
    obtain ⟨hcalls, hstored, hdrawn⟩ := ih hinit fun x hx => succeeded x (List.mem_append_left _ hx)
    rw [stored_step]
    refine ⟨fun d hd => ?_, fun d hd => ?_, fun counts => ?_⟩
    · rw [mem_dialogues_concat]
      rcases List.mem_append.1 hd with hd | hd
      · exact Or.inl (hcalls d hd)
      · exact Or.inr (dialogue?_of_storedBy (Option.mem_toList.1 hd))
    · rcases mem_dialogues_concat.1 hd with hd | hd
      · obtain ⟨e, he, hbare⟩ := hstored d hd
        exact ⟨e, List.mem_append_left _ he, hbare⟩
      · exact heffect.mem_stored hsucceeded hd
    · rw [heffect.drawn_eq hsucceeded counts, hdrawn counts, List.length_append,
        List.countP_append]
      omega

/-- A run without failures draws every dialogue frame once. -/
theorem Holds.length_stored (sound : Holds home directory picture frames w) {calls : List Call}
    (only : ∀ d ∈ w.stored, d ∈ dialogues calls)
    (all : ∀ d ∈ dialogues calls, ∃ e ∈ w.stored, e.bare = d.bare) :
    w.stored.length = ((dialogues calls).map DialogueFrame.bare).dedup.length := by
  have hperm : (w.stored.map DialogueFrame.bare).Perm
      ((dialogues calls).map DialogueFrame.bare).dedup := by
    refine (List.perm_ext_iff_of_nodup sound.nodup (List.nodup_dedup _)).2 fun b => ?_
    rw [List.mem_dedup, List.mem_map, List.mem_map]
    constructor
    · rintro ⟨d, hd, rfl⟩
      exact ⟨d, only d hd, rfl⟩
    · rintro ⟨d, hd, rfl⟩
      exact all d hd
  rw [← hperm.length_eq, List.length_map]

/-- Nothing stands below the place of a cache. -/
def Vacant (directory : String) (s : Session) : Prop :=
  ∀ l name, place s.files.home (Path.ofText directory) <+: l →
    s.files.get? (l ++ [name]) = none

theorem holds_opening {directory : String} (vacant : Vacant directory s)
    (frames : List DialogueFrame) (picture : DialogueFrame → Content) :
    Holds s.files.home (Path.ofText directory) picture frames (opening directory s) where
  shelved :=
    { home_eq := rfl
      names := fun {l name} hl hsome => absurd (vacant l name hl) hsome
      files := fun {l name c} hl hfile => by
        rw [show (opening directory s).session.files.get? (l ++ [name]) = none from
          vacant l name hl] at hfile
        cases hfile
      hashed := fun hd => (by cases hd)
      drawings := fun hd => (by cases hd) }
  indexed := indexed_nil (Path.ofText directory)
  known := fun d hd => (by cases hd)
  nodup := List.nodup_nil

/-- A run of calls on a cache whose directory starts without entries, with files outside of it and
without two frames of one fingerprint. Every call that renders a frame is transparent, and if no call
fails then the dialogue frames that were drawn are the different ones among those rendered. -/
theorem play_transparent (hr : r.Draws picture) {directory : String} {calls : List Call}
    (vacant : Vacant directory s)
    (outside : ∀ call ∈ calls, ∀ out ∈ call.target?,
      ¬place s.files.home (Path.ofText directory) <+: destination s.files.home out)
    (distinct : ∀ d ∈ dialogues calls, ∀ e ∈ dialogues calls, ∀ n, d.fingerprint? = some n →
      e.fingerprint? = some n → Fingerprint.encode d = Fingerprint.encode e) :
    (∀ past f out rest, calls = past ++ .render f out :: rest →
      Transparent r picture (place s.files.home (Path.ofText directory))
        ((opening directory s).play r past) f out) ∧
    ((∀ x ∈ ((opening directory s).play r calls).past, x.2.succeeded = true) →
      ((opening directory s).play r calls).stored.length =
          ((dialogues calls).map DialogueFrame.bare).dedup.length ∧
        (r.Counts → ((opening directory s).play r calls).session.drawn =
          s.drawn + ((dialogues calls).map DialogueFrame.bare).dedup.length +
            calls.countP Call.isChoice)) := by
  have hdistinct := distinct_of_encode distinct
  have proper := Path.proper_ofText directory
  have hopening := holds_opening vacant (dialogues calls) picture
  have fits : ∀ call ∈ calls,
      Fits s.files.home (Path.ofText directory) (dialogues calls) call := by
    refine fun call hcall => ⟨fun {out} hout => ?_, fun hd => ?_⟩
    · exact outside call hcall out hout
    · exact List.mem_filterMap.2 ⟨call, hcall, hd⟩
  constructor
  · intro past f out rest hcalls
    refine (hopening.play hr proper hdistinct fun call hcall => ?_).transparent hr proper hdistinct ?_
    · exact fits call (by rw [hcalls]; exact List.mem_append_left _ hcall)
    · exact fits _ (by simp [hcalls])
  · intro succeeded
    obtain ⟨only, all, hdrawn⟩ :=
      hopening.stored_play hr proper hdistinct fits succeeded rfl
    have hlength := (hopening.play hr proper hdistinct fits).length_stored only all
    refine ⟨hlength, fun counts => ?_⟩
    rw [← hlength]
    exact hdrawn counts

/-- A line is drawn, and a new cache on the same directory serves it where a choice was before. -/
def replay : List Call :=
  [.enable, .render (.choice ⟨{}, ⟨"Yes", "No"⟩⟩) "b.png",
    .render (.dialogue { speaker := "A", text := "hi" }) "a.png", .restart,
    .render (.dialogue { speaker := "A", text := "hi" }) "b.png"]

theorem play_transparent_replay :
    (((opening "cache" {}).play .plain (replay.take 4)).outcome .plain
        (.render (.dialogue { speaker := "A", text := "hi" }) "b.png") = .served) ∧
      ((opening "cache" {}).play .plain replay).session.files.read "b.png" =
        .ok (Content.ofText "dialogue:A:hi") ∧
      ((opening "cache" {}).play .plain replay).session.drawn = 2 := by
  have hvacant : Vacant "cache" {} := by
    intro l name _
    rw [FileTree.get?, if_neg (by simp)]
    rfl
  have hplace : ∀ call ∈ replay, ∀ out ∈ call.target?,
      ¬place [] (Path.ofText "cache") <+: destination [] out := by decide +kernel
  have hsame : ∀ d ∈ dialogues replay, d = { speaker := "A", text := "hi" } := by decide
  obtain ⟨hrender, hcount⟩ := play_transparent Renderer.draws_plain hvacant hplace
    (fun d (hd : d ∈ dialogues replay) e he _ _ _ => by rw [hsame d hd, hsame e he])
  have htransparent := hrender (replay.take 4) _ "b.png" [] rfl
  have hserved : ((opening "cache" {}).play .plain (replay.take 4)).outcome .plain
      (.render (.dialogue { speaker := "A", text := "hi" }) "b.png") = .served := by decide +kernel
  refine ⟨hserved, (htransparent.dialogue _ rfl (by rw [hserved]; rfl)).1, ?_⟩
  rw [(hcount (by decide +kernel)).2 Renderer.counts_plain]
  decide

end Run

end VisualNovel.RenderCache
