import VisualNovel.Cache.Basic
import VisualNovel.Picture.Scene
import VisualNovel.Proofs.Session.Blind
import VisualNovel.Settings.Load

/-!
# Quiet operations

The journal has one line for each directive that a play passes over. No other line begins like these.
A quiet operation writes none of them, leaves the thresholds of the journal as they are and has nothing
to do with the console. All operations are quiet but the ones by which a play passes over a directive or
asks for a choice.
-/
namespace VisualNovel

namespace Journal

/-- Whether a line tells of a directive that was passed over. -/
def tellsPassage (line : String) : Bool :=
  "[vn_play] INFO: Ignoring custom directive ".toList.isPrefixOf line.toList

def passages (j : Journal) : List String :=
  j.written.filter tellsPassage

/-- What is noted about a directive that is passed over. -/
def passage (name : String) (arguments : List String) : String :=
  "Ignoring custom directive " ++ name ++ "(" ++ String.intercalate ", " arguments ++ ")"

variable {module message : String} {level : Level}

theorem tellsPassage_of_module (h : module.toList.head? ≠ some 'v') :
    tellsPassage (recordText module level message) = false := by
  cases hmodule : module.toList with
  | nil => simp [tellsPassage, recordText, hmodule, List.isPrefixOf]
  | cons c rest =>
    rw [hmodule, List.head?_cons, ne_eq, Option.some.injEq] at h
    simp [tellsPassage, recordText, hmodule, List.isPrefixOf, Ne.symm h]

theorem tellsPassage_of_level (h : level ≠ .info) :
    tellsPassage (recordText "vn_play" level message) = false := by
  cases level with
  | info => exact absurd rfl h
  | trace | debug | warning | error | critical | off =>
    simp [tellsPassage, recordText, Level.name, List.isPrefixOf]

theorem tellsPassage_of_message (h : message.toList.head? ≠ some 'I') :
    tellsPassage (recordText "vn_play" .info message) = false := by
  cases hmessage : message.toList with
  | nil => simp [tellsPassage, recordText, Level.name, hmessage, List.isPrefixOf]
  | cons c rest =>
    rw [hmessage, List.head?_cons, ne_eq, Option.some.injEq] at h
    simp [tellsPassage, recordText, Level.name, hmessage, List.isPrefixOf, Ne.symm h]

theorem tellsPassage_lead (rest : String) :
    tellsPassage (recordText "vn_play" .info ("Ignoring custom directive " ++ rest)) = true := by
  have htext : recordText "vn_play" .info ("Ignoring custom directive " ++ rest) =
      "[vn_play] INFO: Ignoring custom directive " ++ rest := by
    simp only [recordText, Level.name, ← String.append_assoc]
    rfl
  rw [tellsPassage, htext, String.toList_append, List.isPrefixOf_iff_prefix]
  exact List.prefix_append _ _

theorem tellsPassage_passage (name : String) (arguments : List String) :
    tellsPassage (recordText "vn_play" .info (passage name arguments)) = true := by
  unfold passage
  generalize String.intercalate ", " arguments = text
  simp only [String.append_assoc]
  exact tellsPassage_lead _

@[simp]
theorem thresholds_record (j : Journal) (module : String) (level : Level) (message : String) :
    (j.record module level message).thresholds = j.thresholds := by
  rw [record]
  split <;> rfl

theorem passages_record (j : Journal) (h : tellsPassage (recordText module level message) = false) :
    (j.record module level message).passages = j.passages := by
  rw [record]
  split
  · simp [passages, write, h]
  · rfl

theorem passages_record_passage (j : Journal) (name : String) (arguments : List String) :
    (j.record "vn_play" .info (passage name arguments)).passages = j.passages ++
      if j.thresholds.enabled "vn_play" .info then
        [recordText "vn_play" .info (passage name arguments)] else [] := by
  rw [record]
  split
  · simp [passages, write, tellsPassage_passage]
  · simp

end Journal

open Journal (tellsPassage recordText)

/-- The second session comes from the first one without a word on the console, with the thresholds of
the journal as they are and with no line about a directive that is passed over. -/
structure Session.Quiet (s t : Session) : Prop where
  console : t.console = s.console
  thresholds : t.journal.thresholds = s.journal.thresholds
  passages : t.journal.passages = s.journal.passages

theorem Session.Quiet.refl (s : Session) : Quiet s s :=
  ⟨rfl, rfl, rfl⟩

theorem Session.Quiet.trans {s t u : Session} (h : Quiet s t) (k : Quiet t u) : Quiet s u where
  console := k.console.trans h.console
  thresholds := k.thresholds.trans h.thresholds
  passages := k.passages.trans h.passages

open Session (Quiet)

/-- Whatever the operation comes to, the session that it leaves comes quietly from the one before. -/
def Quietly {σ α : Type} (session : σ → Session) (a : EStateM Failure σ α) : Prop :=
  ∀ s, Quiet (session s) (session (leaves (a.run s)))

namespace Quietly

variable {σ α β : Type} {session : σ → Session} {a : EStateM Failure σ α}
  {f : α → EStateM Failure σ β}

theorem of_ok (h : Quietly session a) {x : α} {s t : σ} (run : a.run s = .ok x t) :
    Quiet (session s) (session t) := by
  have hs := h s
  rw [run] at hs
  exact hs

theorem pure (x : α) : Quietly session (Pure.pure x : EStateM Failure σ α) :=
  fun s => .refl (session s)

theorem throw (e : Failure) : Quietly session (MonadExcept.throw e : EStateM Failure σ α) :=
  fun s => .refl (session s)

theorem get : Quietly session (MonadState.get : EStateM Failure σ σ) :=
  fun s => .refl (session s)

theorem bind (h : Quietly session a) (hf : ∀ x, Quietly session (f x)) :
    Quietly session (a >>= f) := by
  intro s
  have hs := h s
  rw [EStateM.run_bind]
  cases ha : a.run s with
  | error e t =>
    rw [ha] at hs
    exact hs
  | ok x t =>
    rw [ha] at hs
    exact hs.trans (hf x t)

theorem foldlM {f : β → α → EStateM Failure σ β} (hf : ∀ x y, Quietly session (f x y))
    (l : List α) (x : β) : Quietly session (l.foldlM f x) := by
  induction l generalizing x with
  | nil => exact pure x
  | cons y rest ih =>
    rw [List.foldlM_cons]
    exact (hf x y).bind ih

theorem forIn {f : α → EStateM Failure σ Unit} (hf : ∀ x, Quietly session (f x)) (l : List α) :
    Quietly session (ForIn.forIn l PUnit.unit fun x _ => do
      f x
      Pure.pure (ForInStep.yield PUnit.unit) : EStateM Failure σ PUnit) := by
  induction l with
  | nil => exact pure PUnit.unit
  | cons x rest ih =>
    simp only [List.forIn_cons, bind_assoc, pure_bind]
    exact (hf x).bind fun _ => ih

end Quietly

namespace Session

variable {α : Type}

/-- An operation of the session alone. -/
abbrev IsQuiet (a : Action α) : Prop :=
  Quietly id a

theorem quiet_note {module message : String} {level : Journal.Level}
    (h : tellsPassage (recordText module level message) = false) :
    IsQuiet (note module level message) :=
  fun s => ⟨rfl, s.journal.thresholds_record _ _ _, s.journal.passages_record h⟩

theorem quiet_attempt (r : Except Failure α) : IsQuiet (attempt r) := by
  cases r with
  | ok a => exact .pure a
  | error e => exact .throw e

theorem quiet_consult (look : FileTree → Except FileError α) : IsQuiet (consult look) := by
  intro s
  rw [run_consult]
  cases look s.files <;> exact .refl s

theorem quiet_alter (change : FileTree → Except FileError FileTree) : IsQuiet (alter change) := by
  intro s
  rw [run_alter]
  cases change s.files <;> exact ⟨rfl, rfl, rfl⟩

theorem quiet_parseScript (source : List Char) (name : String) :
    IsQuiet (parseScript source name) := by
  rw [parseScript]
  cases Script.parseChars source name with
  | error e => exact .throw _
  | ok script => exact (quiet_note (Journal.tellsPassage_of_module (by decide))).bind fun _ => .pure _

theorem quiet_loadScript (path : Path) (name : Option String) : IsQuiet (loadScript path name) :=
  Quietly.get.bind fun _ => (quiet_attempt _).bind fun _ =>
    (quiet_note (Journal.tellsPassage_of_module (by decide))).bind fun _ => quiet_parseScript _ _

theorem quiet_loadImage (path : String) : IsQuiet (loadImage path) := by
  apply Quietly.get.bind
  intro s
  cases s.images.get? path with
  | some image => exact .pure image
  | none =>
    apply (quiet_attempt _).bind
    intro image
    apply (quiet_note (Journal.tellsPassage_of_module (by decide))).bind
    intro _
    have hkept : IsQuiet (modify fun s => { s with images := s.images.add path image }) :=
      fun _ => ⟨rfl, rfl, rfl⟩
    exact hkept.bind fun _ => .pure image

theorem quiet_loadSettings (environment : List (String × String)) (path : Option String) :
    IsQuiet (loadSettings environment path) :=
  Quietly.get.bind fun _ => (quiet_attempt _).bind fun settings =>
    (quiet_note (Journal.tellsPassage_of_module (by decide))).bind fun _ => .pure settings

end Session

open Session

theorem Scene.quiet_drawSprite (canvas : Surface) (v : SpriteView) :
    IsQuiet (drawSprite canvas v) :=
  (quiet_loadImage v.path).bind fun _ => (quiet_attempt _).bind fun _ => .pure _

theorem Scene.quiet_drawDialogue (settings : Settings) (d : DialogueFrame) :
    IsQuiet (drawDialogue settings d) := by
  apply (Quietly.foldlM quiet_drawSprite d.sprites _).bind
  intro canvas
  apply (quiet_attempt _).bind
  rintro ⟨canvas, lines⟩
  exact (quiet_note (Journal.tellsPassage_of_module (by decide))).bind fun _ => .pure canvas

theorem Renderer.quiet_scene (settings : Settings) (f : Frame) :
    IsQuiet ((Renderer.scene settings).draw f) := by
  have hframe : IsQuiet (Scene.drawFrame settings f) := by
    cases f with
    | dialogue d => exact Scene.quiet_drawDialogue settings d
    | choice g => exact quiet_attempt _
  exact hframe.bind fun _ => .pure _

namespace RenderCache

variable {r : Renderer} (c : RenderCache)

theorem quiet_indexEntry (index : List (Int × Path)) (file : Path) :
    IsQuiet (indexEntry index file) := by
  have hignored : IsQuiet (do
      Session.note "render_cache" .trace ("Ignoring non-cache file " ++ file.text)
      return index : Action (List (Int × Path))) :=
    (quiet_note (Journal.tellsPassage_of_module (by decide))).bind fun _ => .pure index
  apply Quietly.get.bind
  intro s
  cases fingerprintOf? file with
  | none => exact hignored
  | some n =>
    cases s.files.isFile file.text with
    | true => exact .pure _
    | false => exact hignored

theorem quiet_enable : IsQuiet c.enable := by
  apply (quiet_alter _).bind
  intro _
  apply (quiet_consult _).bind
  intro names
  apply (Quietly.foldlM quiet_indexEntry _ []).bind
  intro index
  exact (quiet_note (Journal.tellsPassage_of_module (by decide))).bind fun _ => .pure _

theorem quiet_render (draws : ∀ f, IsQuiet (r.draw f)) (f : Frame) (out : String) :
    IsQuiet (c.render r f out) := by
  have hrender : ∀ f, IsQuiet (r.render f out) := fun f =>
    (draws f).bind fun _ => quiet_alter _
  cases f with
  | choice g => exact (hrender _).bind fun _ => .pure _
  | dialogue d =>
    rw [render]
    cases d.fingerprint with
    | error e => exact .throw _
    | ok n =>
      simp only
      cases c.lookup n with
      | some file =>
        apply (quiet_note (Journal.tellsPassage_of_module (by decide))).bind
        intro _
        exact (quiet_alter _).bind fun _ => .pure _
      | none =>
        apply (quiet_note (Journal.tellsPassage_of_module (by decide))).bind
        intro _
        apply (hrender _).bind
        intro _
        have hstore : IsQuiet (c.store n (.plain out)) := (quiet_alter _).bind fun _ => .pure _
        exact hstore.bind fun _ => .pure _

end RenderCache

end VisualNovel
