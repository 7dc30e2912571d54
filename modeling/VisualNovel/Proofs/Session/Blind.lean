import VisualNovel.Picture.Load
import VisualNovel.Proofs.Session.Action
import VisualNovel.Script.Load

/-!
# What operations do on another tree

An operation carries a change of the state if it ends with the same outcome in the changed state, and
leaves what the change makes of the state that it would have left. Loading carries a change that notes
do not see, if what is wanted reads the same; so it carries the exchange of the tree of files.
-/
namespace VisualNovel

section

variable {ε σ α β : Type}

/-- The same outcome in a changed state. -/
def carry (g : σ → σ) : EStateM.Result ε σ α → EStateM.Result ε σ α
  | .ok x s => .ok x (g s)
  | .error e s => .error e (g s)

/-- The state that an operation leaves. -/
def leaves : EStateM.Result ε σ α → σ
  | .ok _ s => s
  | .error _ s => s

/-- It is all one whether the state is changed before or after the operation. -/
def Carries (g : σ → σ) (a : EStateM ε σ α) (s : σ) : Prop :=
  a.run (g s) = carry g (a.run s)

variable {g : σ → σ} {a : EStateM ε σ α} {f : α → EStateM ε σ β} {s : σ}

theorem leaves_carry (g : σ → σ) (r : EStateM.Result ε σ α) : leaves (carry g r) = g (leaves r) := by
  cases r <;> rfl

/-- A change that makes nothing of the first state makes nothing of the last one. -/
theorem Carries.leaves_eq (h : Carries g a s) (hs : g s = s) :
    leaves (a.run s) = g (leaves (a.run s)) := by
  rw [← leaves_carry g (a.run s), ← h, hs]

theorem carries_pure (g : σ → σ) (x : α) (s : σ) : Carries g (pure x : EStateM ε σ α) s :=
  rfl

theorem carries_throw (g : σ → σ) (e : ε) (s : σ) : Carries g (throw e : EStateM ε σ α) s :=
  rfl

theorem Carries.bind_of_run (h : Carries g a s)
    (hf : ∀ x t, a.run s = .ok x t → Carries g (f x) t) : Carries g (a >>= f) s := by
  rw [Carries, EStateM.run_bind, EStateM.run_bind, h]
  cases hrun : a.run s with
  | ok x t => exact hf x t hrun
  | error e t => rfl

theorem Carries.bind (h : Carries g a s) (hf : ∀ x t, Carries g (f x) t) :
    Carries g (a >>= f) s :=
  h.bind_of_run fun x t _ => hf x t

end

namespace Session

variable {u : FileTree} {g : Session → Session} {s : Session} {α : Type}

def on (u : FileTree) (s : Session) : Session :=
  { s with files := u }

/-- Notes are taken in the changed session as in the other one. -/
def CarriesNotes (g : Session → Session) : Prop :=
  ∀ module level message s, Carries g (note module level message) s

theorem carries_attempt (g : Session → Session) (r : Except Failure α) (s : Session) :
    Carries g (attempt r) s := by
  cases r <;> rfl

theorem CarriesNotes.parseScript (notes : CarriesNotes g) (source : List Char) (name : String)
    (s : Session) : Carries g (parseScript source name) s := by
  rw [Session.parseScript]
  cases Script.parseChars source name with
  | error e => exact carries_throw _ _ _
  | ok script => exact (notes _ _ _ _).bind fun _ t => carries_pure _ _ t

theorem CarriesNotes.loadScript (notes : CarriesNotes g) {path : Path}
    (source : Script.readSource (g s).files path.text = Script.readSource s.files path.text)
    (name : Option String) : Carries g (loadScript path name) s := by
  rw [Carries, Session.loadScript, EStateM.run_bind, EStateM.run_bind, EStateM.run_get,
    EStateM.run_get]
  simp only [source]
  apply (carries_attempt g _ _).bind
  intro source t
  apply (notes _ _ _ _).bind
  intro _ t
  exact notes.parseScript _ _ _

theorem CarriesNotes.loadImage (notes : CarriesNotes g) {path : String}
    (images : ∀ t images, g { t with images } = { g t with images })
    (image : s.images.get? path = none →
      ImageStore.readImage (g s).files (s.images.resolve path) path =
        ImageStore.readImage s.files (s.images.resolve path) path) :
    Carries g (loadImage path) s := by
  have hown : ∀ t, (g t).images = t.images := by
    intro t
    have hsame : g t = { g t with images := t.images } := images t t.images
    rw [hsame]
  rw [Carries, Session.loadImage, EStateM.run_bind, EStateM.run_bind, EStateM.run_get,
    EStateM.run_get]
  simp only [hown]
  cases hkept : s.images.get? path with
  | some image => exact carries_pure g image s
  | none =>
    simp only [image hkept]
    apply (carries_attempt g _ _).bind
    intro image t
    apply (notes _ _ _ _).bind
    intro _ t
    have hadd : g { t with images := t.images.add path image } =
        { g t with images := (g t).images.add path image } := by
      rw [images, hown]
    exact congrArg (EStateM.Result.ok image) hadd.symm

theorem carriesNotes_on (u : FileTree) : CarriesNotes (on u) :=
  fun _ _ _ _ => rfl

theorem carries_parseScript (u : FileTree) (source : List Char) (name : String) (s : Session) :
    Carries (on u) (parseScript source name) s :=
  (carriesNotes_on u).parseScript source name s

theorem carries_loadScript {path : Path} (same : u.read path.text = s.files.read path.text)
    (name : Option String) : Carries (on u) (loadScript path name) s := by
  apply (carriesNotes_on u).loadScript
  simp only [Script.readSource, on, same]

theorem carries_loadImage {path : String}
    (same : s.images.get? path = none →
      u.read (s.images.resolve path).text = s.files.read (s.images.resolve path).text) :
    Carries (on u) (loadImage path) s := by
  apply (carriesNotes_on u).loadImage
  · intro t images
    rfl
  · intro hmissing
    simp only [ImageStore.readImage, on, same hmissing]

end Session

end VisualNovel
