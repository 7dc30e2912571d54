import VisualNovel.Proofs.Cache.Index
import VisualNovel.Proofs.Frame.Encoding

/-!
# Runs of a cache

A cache is used by enabling it, by starting again with a new cache on the same directory and by
rendering frames. A run is any sequence of such calls. Every call keeps its effects on the session
when it fails, and the cache is then the one before the call.
-/
namespace VisualNovel

namespace Renderer

/-- The renderer only draws: the files stay as they are, and the drawing of a dialogue frame is
given by what the fingerprint of the frame is taken of. -/
structure Draws (r : Renderer) (picture : DialogueFrame → Content) : Prop where
  files_of_ok : ∀ {f s c s'}, (r.draw f).run s = .ok c s' → s'.files = s.files
  files_of_error : ∀ {f s e s'}, (r.draw f).run s = .error e s' → s'.files = s.files
  dialogue : ∀ {d s c s'}, (r.draw (.dialogue d)).run s = .ok c s' → c = picture d.bare

/-- Every drawing is counted once. -/
def Counts (r : Renderer) : Prop :=
  ∀ {f s c s'}, (r.draw f).run s = .ok c s' → s'.drawn = s.drawn + 1

theorem draws_plain : plain.Draws fun d => Content.ofText (describe (.dialogue d)) where
  files_of_ok h := by
    cases h
    rfl
  files_of_error h := by cases h
  dialogue h := by
    cases h
    rfl

theorem counts_plain : plain.Counts := by
  intro f s c s' h
  cases h
  rfl

variable {r : Renderer} {picture : DialogueFrame → Content} {f : Frame} {out : String}
  {s s' : Session}

theorem run_render (r : Renderer) (f : Frame) (out : String) (s : Session) :
    (r.render f out).run s =
      match (r.draw f).run s with
      | .error e s' => .error e s'
      | .ok c s' =>
        match s'.files.write out c with
        | .ok files => .ok () { s' with files }
        | .error e => .error (.file e) s' := by
  rw [render, EStateM.run_bind]
  cases (r.draw f).run s with
  | error e s' => rfl
  | ok c s' => exact Session.run_alter _ s'

theorem Draws.files_of_render_error {e : Failure} (hr : r.Draws picture)
    (h : (r.render f out).run s = .error e s') : s'.files = s.files := by
  rw [run_render] at h
  cases hdraw : (r.draw f).run s with
  | error e' t =>
    rw [hdraw] at h
    cases h
    exact hr.files_of_error hdraw
  | ok c t =>
    simp only [hdraw] at h
    cases hwrite : t.files.write out c with
    | error e' =>
      rw [hwrite] at h
      cases h
      exact hr.files_of_ok hdraw
    | ok files =>
      rw [hwrite] at h
      cases h

theorem Draws.write_of_render (hr : r.Draws picture)
    (h : (r.render f out).run s = .ok () s') :
    ∃ c t, (r.draw f).run s = .ok c t ∧ s.files.write out c = .ok s'.files ∧
      s'.drawn = t.drawn := by
  rw [run_render] at h
  cases hdraw : (r.draw f).run s with
  | error e' t =>
    rw [hdraw] at h
    cases h
  | ok c t =>
    simp only [hdraw] at h
    cases hwrite : t.files.write out c with
    | error e' =>
      rw [hwrite] at h
      cases h
    | ok files =>
      rw [hwrite] at h
      cases h
      rw [hr.files_of_ok hdraw] at hwrite
      exact ⟨c, t, rfl, hwrite, rfl⟩

end Renderer

namespace RenderCache

inductive Call where
  | enable
  /-- A new cache on the same directory takes the place of the old one and is enabled. -/
  | restart
  | render (f : Frame) (out : String)
deriving DecidableEq, Repr

def Call.dialogue? : Call → Option DialogueFrame
  | .render (.dialogue d) _ => some d
  | _ => none

/-- The path of the file that a call writes its frame to. -/
def Call.target? : Call → Option String
  | .render _ out => some out
  | _ => none

def Call.isChoice : Call → Bool
  | .render (.choice _) _ => true
  | _ => false

inductive Outcome where
  | done
  | served
  | drawn
  | failed (e : Failure)
deriving DecidableEq, Repr

def Outcome.succeeded : Outcome → Bool
  | failed _ => false
  | _ => true

def perform (r : Renderer) (c : RenderCache) : Call → Action (RenderCache × Outcome)
  | .enable => do return (← c.enable, .done)
  | .restart => do return (← enable { directory := c.directory }, .done)
  | .render f out => do
    let (c, kept) ← c.render r f out
    return (c, if kept then .served else .drawn)

def behind (c : RenderCache) : Call → RenderCache
  | .restart => { directory := c.directory }
  | _ => c

/-- A run so far: the cache, the session and the calls with their outcomes. -/
structure Run where
  cache : RenderCache
  session : Session
  past : List (Call × Outcome) := []

namespace Run

def opening (directory : String) (session : Session) : Run where
  cache := { directory := Path.ofText directory }
  session

def outcome (r : Renderer) (w : Run) (call : Call) : Outcome :=
  match (w.cache.perform r call).run w.session with
  | .ok (_, outcome) _ => outcome
  | .error e _ => .failed e

def step (r : Renderer) (w : Run) (call : Call) : Run :=
  let past := w.past ++ [(call, w.outcome r call)]
  match (w.cache.perform r call).run w.session with
  | .ok (cache, _) session => { cache, session, past }
  | .error _ session => { cache := w.cache.behind call, session, past }

def play (r : Renderer) (w : Run) (calls : List Call) : Run :=
  calls.foldl (step r) w

/-- The dialogue frame that a call has drawn and stored, if any. -/
def storedBy : Call × Outcome → Option DialogueFrame
  | (call, .drawn) => call.dialogue?
  | _ => none

def stored (w : Run) : List DialogueFrame :=
  w.past.filterMap storedBy

end Run

variable {r : Renderer} {picture : DialogueFrame → Content} {c : RenderCache} {s : Session}
  {d : DialogueFrame} {out : String}

theorem run_render_choice (r : Renderer) (c : RenderCache) (g : ChoiceFrame) (out : String)
    (s : Session) :
    (c.render r (.choice g) out).run s =
      match (r.render (.choice g) out).run s with
      | .error e s' => .error e s'
      | .ok _ s' => .ok (c, false) s' := by
  rw [render, EStateM.run_bind]
  cases (r.render (.choice g) out).run s <;> rfl

/-- A frame without a fingerprint is neither drawn nor kept. -/
theorem run_render_of_fault {e : Fingerprint.Fault} (hd : d.fingerprint = .error e) :
    (c.render r (.dialogue d) out).run s = .error (.fingerprint e) s := by
  rw [render]
  simp only [hd, Session.run_throw]

theorem run_render_of_kept (r : Renderer) (out : String) (s : Session) {n : Nat} {file : Path}
    (hd : d.fingerprint? = some n)
    (hn : c.lookup n = some file) :
    ∃ journal, (c.render r (.dialogue d) out).run s =
      match s.files.copy (.path file) (.plain out) with
      | .error e => .error (.file e) { s with journal }
      | .ok files => .ok (c, true) { s with files, journal } := by
  rw [DialogueFrame.fingerprint?_eq_some_iff] at hd
  rw [render]
  simp only [hd, hn, EStateM.run_bind, Session.run_note, Session.run_alter]
  cases s.files.copy (.path file) (.plain out) <;> exact ⟨_, rfl⟩

theorem run_store (c : RenderCache) (n : Nat) (drawing : FileName) (s : Session) :
    (c.store n drawing).run s =
      match s.files.copy drawing (.path (fileOf c.directory n)) with
      | .error e => .error (.file e) s
      | .ok files =>
        .ok { c with index := keep n (fileOf c.directory n) c.index } { s with files } := by
  rw [store, EStateM.run_bind, Session.run_alter]
  cases s.files.copy drawing (.path (fileOf c.directory n)) <;> rfl

theorem run_render_of_missing (r : Renderer) (out : String) (s : Session) {n : Nat}
    (hd : d.fingerprint? = some n) (hn : c.lookup n = none) :
    ∃ journal, (c.render r (.dialogue d) out).run s =
      match (r.render (.dialogue d) out).run { s with journal } with
      | .error e s' => .error e s'
      | .ok _ s' =>
        match (c.store n (.plain out)).run s' with
        | .error e s' => .error e s'
        | .ok c s' => .ok (c, false) s' := by
  rw [DialogueFrame.fingerprint?_eq_some_iff] at hd
  rw [render]
  simp only [hd, hn, EStateM.run_bind, Session.run_note]
  refine ⟨s.journal.record "render_cache" .debug
    ("Cache miss " ++ Text.natText n ++ ", rendering " ++ out), ?_⟩
  cases (r.render (.dialogue d) out).run _ with
  | error e s' => rfl
  | ok _ s' =>
    simp only
    cases (c.store n (.plain out)).run s' <;> rfl

theorem exists_of_run_render_of_kept {y : RenderCache × Bool} {s' : Session} {n : Nat} {file : Path}
    (hd : d.fingerprint? = some n) (hn : c.lookup n = some file)
    (run : (c.render r (.dialogue d) out).run s = .ok y s') :
    y.1 = c ∧ ∃ journal files content, s.files.read file.text = .ok content ∧
      s.files.write out content = .ok files ∧ s' = { s with files, journal } := by
  obtain ⟨journal, hserve⟩ := run_render_of_kept r out s hd hn
  rw [hserve] at run
  cases hcopy : s.files.copy (.path file) (.plain out) with
  | error e =>
    rw [hcopy] at run
    cases run
  | ok files =>
    rw [hcopy] at run
    cases run
    obtain ⟨content, hread, hwrite⟩ := FileTree.exists_of_copy hcopy
    exact ⟨rfl, journal, files, content, hread, hwrite, rfl⟩

/-- A frame that was not kept has been rendered, and its file has been stored. -/
theorem exists_of_run_render_of_missing {y : RenderCache × Bool} {s' : Session} {n : Nat}
    (hd : d.fingerprint? = some n) (hn : c.lookup n = none)
    (run : (c.render r (.dialogue d) out).run s = .ok y s') :
    y.1 = { c with index := keep n (fileOf c.directory n) c.index } ∧
      ∃ journal t files content, (r.render (.dialogue d) out).run { s with journal } = .ok () t ∧
        t.files.read out = .ok content ∧
        t.files.write (fileOf c.directory n).text content = .ok files ∧ s' = { t with files } := by
  obtain ⟨journal, hdraw⟩ := run_render_of_missing r out s hd hn
  rw [hdraw] at run
  cases hrender : (r.render (.dialogue d) out).run { s with journal } with
  | error e t =>
    rw [hrender] at run
    cases run
  | ok _ t =>
    rw [hrender] at run
    simp only [run_store] at run
    cases hcopy : t.files.copy (.plain out) (.path (fileOf c.directory n)) with
    | error e =>
      rw [hcopy] at run
      cases run
    | ok files =>
      rw [hcopy] at run
      cases run
      obtain ⟨content, hread, hwrite⟩ := FileTree.exists_of_copy hcopy
      exact ⟨rfl, journal, t, files, content, hrender, hread, hwrite, rfl⟩

/-- What rendering a dialogue frame comes to. If it fails, the drawing may have been written; if
the frame is kept, the file of its fingerprint is copied; otherwise the drawing is written and then
copied into the cache. -/
inductive Rendering (r : Renderer) (c : RenderCache) (s : Session) (d : DialogueFrame)
    (out : String) (drawing : Content) :
    EStateM.Result Failure Session (RenderCache × Bool) → Prop where
  | failed {e : Failure} {s' : Session}
      (files : s'.files = s.files ∨ s.files.write out drawing = .ok s'.files) :
      Rendering r c s d out drawing (.error e s')
  | served {n : Nat} {file : Path} {s' : Session} (fingerprint : d.fingerprint? = some n)
      (kept : c.lookup n = some file)
      (copied : s.files.copy (.path file) (.plain out) = .ok s'.files)
      (drawn : s'.drawn = s.drawn) :
      Rendering r c s d out drawing (.ok (c, true) s')
  | drawn {n : Nat} {t : FileTree} {s' : Session} (fingerprint : d.fingerprint? = some n)
      (missing : c.lookup n = none) (written : s.files.write out drawing = .ok t)
      (copied : t.copy (.plain out) (.path (fileOf c.directory n)) = .ok s'.files)
      (drawn : r.Counts → s'.drawn = s.drawn + 1) :
      Rendering r c s d out drawing
        (.ok ({ c with index := keep n (fileOf c.directory n) c.index }, false) s')

theorem rendering (hr : r.Draws picture) (c : RenderCache) (s : Session) (d : DialogueFrame)
    (out : String) :
    Rendering r c s d out (picture d.bare) ((c.render r (.dialogue d) out).run s) := by
  cases hd : d.fingerprint? with
  | none =>
    obtain ⟨e, he⟩ := DialogueFrame.fingerprint?_eq_none_iff.1 hd
    rw [run_render_of_fault he]
    exact .failed (Or.inl rfl)
  | some n =>
    cases hn : c.lookup n with
    | some file =>
      obtain ⟨journal, hrun⟩ := run_render_of_kept r out s hd hn
      rw [hrun]
      cases hcopy : s.files.copy (.path file) (.plain out) with
      | error e => exact .failed (Or.inl rfl)
      | ok files => exact .served hd hn hcopy rfl
    | none =>
      obtain ⟨journal, hrun⟩ := run_render_of_missing r out s hd hn
      rw [hrun]
      cases hrender : (r.render (.dialogue d) out).run { s with journal } with
      | error e s' =>
        have hfiles := hr.files_of_render_error hrender
        exact .failed (Or.inl hfiles)
      | ok _ s' =>
        obtain ⟨content, t, hdraw, hwrite, hdrawn⟩ := hr.write_of_render hrender
        rw [hr.dialogue hdraw] at hwrite
        simp only [run_store]
        cases hcopy : s'.files.copy (.plain out) (.path (fileOf c.directory n)) with
        | error e => exact .failed (Or.inr hwrite)
        | ok files =>
          refine .drawn hd hn hwrite hcopy fun counts => ?_
          have hone := counts hdraw
          exact hdrawn.trans hone

theorem run_perform_enable (r : Renderer) (c : RenderCache) (s : Session) :
    (c.perform r .enable).run s =
      match c.enable.run s with
      | .error e s' => .error e s'
      | .ok c' s' => .ok (c', .done) s' := by
  rw [perform, EStateM.run_bind]
  cases c.enable.run s <;> rfl

theorem run_perform_restart (r : Renderer) (c : RenderCache) (s : Session) :
    (c.perform r .restart).run s =
      match (enable { directory := c.directory }).run s with
      | .error e s' => .error e s'
      | .ok c' s' => .ok (c', .done) s' := by
  rw [perform, EStateM.run_bind]
  cases (enable { directory := c.directory }).run s <;> rfl

theorem run_perform_render (r : Renderer) (c : RenderCache) (f : Frame) (out : String)
    (s : Session) :
    (c.perform r (.render f out)).run s =
      match (c.render r f out).run s with
      | .error e s' => .error e s'
      | .ok (c', kept) s' => .ok (c', if kept then .served else .drawn) s' := by
  rw [perform, EStateM.run_bind]
  cases (c.render r f out).run s <;> rfl

namespace Run

variable {w : Run} {call : Call}

theorem step_of_error {e : Failure} (h : (w.cache.perform r call).run w.session = .error e s) :
    w.outcome r call = .failed e ∧
      w.step r call = ⟨w.cache.behind call, s, w.past ++ [(call, .failed e)]⟩ := by
  rw [step, outcome, h]
  exact ⟨rfl, rfl⟩

theorem step_of_ok {o : Outcome} (h : (w.cache.perform r call).run w.session = .ok (c, o) s) :
    w.outcome r call = o ∧ w.step r call = ⟨c, s, w.past ++ [(call, o)]⟩ := by
  rw [step, outcome, h]
  exact ⟨rfl, rfl⟩

theorem past_step (r : Renderer) (w : Run) (call : Call) :
    (w.step r call).past = w.past ++ [(call, w.outcome r call)] := by
  rw [step]
  cases (w.cache.perform r call).run w.session <;> rfl

theorem stored_step (r : Renderer) (w : Run) (call : Call) :
    (w.step r call).stored = w.stored ++ (storedBy (call, w.outcome r call)).toList := by
  rw [stored, past_step, List.filterMap_append]
  rfl

end Run

end RenderCache

end VisualNovel
