import VisualNovel.Proofs.Files.Apart
import VisualNovel.Proofs.Picture.Load
import VisualNovel.Proofs.Session.Ask
import VisualNovel.Script.Load

/-!
# Sessions side by side

Two sessions that share the console and the images, on trees that agree outside of reserved places.
Loading ends alike in both, as long as what is read avoids the reserved places; it changes neither tree
and loses no image.
-/
namespace VisualNovel

open VisualNovel.Text
open FileTree (Agree Avoids)

def ImageStore.Within (a b : ImageStore) : Prop :=
  ∀ path image, a.get? path = some image → b.get? path = some image

namespace ImageStore.Within

theorem refl (a : ImageStore) : a.Within a :=
  fun _ _ h => h

theorem trans {a b c : ImageStore} (h : a.Within b) (k : b.Within c) : a.Within c :=
  fun path image himage => k path image (h path image himage)

theorem add {a : ImageStore} {path : String} (h : a.get? path = none) (image : Surface) :
    a.Within (a.add path image) := by
  intro other found hfound
  rw [get?_add]
  split
  · rename_i hother
    rw [hother, h] at hfound
    cases hfound
  · exact hfound

end ImageStore.Within

/-- Two sessions on given trees that share the console and the images; the images of a given store are
among them. -/
structure Twins (t u : FileTree) (store : ImageStore) (p q : Session) : Prop where
  left : p.files = t
  right : q.files = u
  console : p.console = q.console
  images : p.images = q.images
  kept : store.Within p.images

/-- Two sessions that share the console and the images, on trees that agree where nothing is
reserved. -/
structure Matched (home : Location) (reserved : Location → Prop) (p q : Session) : Prop where
  home_eq : p.files.home = home
  agree : Agree reserved p.files q.files
  console : p.console = q.console
  images : p.images = q.images

theorem Matched.twins {home : Location} {reserved : Location → Prop} {p q : Session}
    (h : Matched home reserved p q) : Twins p.files q.files q.images p q := by
  refine ⟨rfl, rfl, h.console, h.images, ?_⟩
  rw [h.images]
  exact .refl _

namespace Twins

variable {reserved : Location → Prop} {t u : FileTree} {store : ImageStore} {p q : Session}
  {α : Type}

/-- How two operations end that give one value and leave the sessions side by side. -/
abbrev Both (t u : FileTree) (store : ImageStore) :
    EStateM.Result Failure Session α → EStateM.Result Failure Session α → Prop :=
  Converses.Both (Twins t u store)

theorem matched {p' q' : Session} {home : Location}
    (h : Twins p.files q.files store p' q') (before : Matched home reserved p q) :
    Matched home reserved p' q' := by
  refine ⟨?_, ?_, h.console, h.images⟩
  · rw [h.left]
    exact before.home_eq
  · rw [h.left, h.right]
    exact before.agree

theorem of_journal (h : Twins t u store p q) (journal journal' : Journal) :
    Twins t u store { p with journal } { q with journal := journal' } :=
  ⟨h.left, h.right, h.console, h.images, h.kept⟩

theorem pure (h : Twins t u store p q) (a : α) :
    Both t u store ((Pure.pure a : Action α).run p) ((Pure.pure a : Action α).run q) :=
  ⟨rfl, h⟩

theorem attempt (h : Twins t u store p q) (r : Except Failure α) :
    Both t u store ((Session.attempt r).run p) ((Session.attempt r).run q) := by
  cases r with
  | ok a => exact h.pure a
  | error e => exact ⟨rfl, h⟩

theorem note (h : Twins t u store p q) (module : String) (level : Journal.Level)
    (message : String) :
    Both t u store ((Session.note module level message).run p)
      ((Session.note module level message).run q) :=
  ⟨rfl, h.of_journal _ _⟩

theorem loadImage (h : Twins t u store p q) (agree : Agree reserved t u) {path : String}
    (avoids : q.images.get? path = none → Avoids reserved u.home (q.images.resolve path).text) :
    Both t u store ((Session.loadImage path).run p) ((Session.loadImage path).run q) := by
  cases hq : q.images.get? path with
  | some image =>
    have hp : p.images.get? path = some image := by rw [h.images, hq]
    rw [Session.run_loadImage_of_kept hp, Session.run_loadImage_of_kept hq]
    exact ⟨rfl, h⟩
  | none =>
    have hp : p.images.get? path = none := by rw [h.images, hq]
    have havoids := avoids hq
    rw [agree.home] at havoids
    have hsame : ImageStore.readImage p.files (p.images.resolve path) path =
        ImageStore.readImage q.files (q.images.resolve path) path := by
      simp only [ImageStore.readImage, h.images, h.left, h.right, agree.read havoids]
    cases hread : ImageStore.readImage q.files (q.images.resolve path) path with
    | error e =>
      rw [Session.run_loadImage_of_error hp (hsame.trans hread),
        Session.run_loadImage_of_error hq hread]
      exact ⟨rfl, h⟩
    | ok image =>
      obtain ⟨journal, hrun⟩ := Session.run_loadImage_of_read hp (hsame.trans hread)
      obtain ⟨journal', hrun'⟩ := Session.run_loadImage_of_read hq hread
      rw [hrun, hrun']
      refine ⟨rfl, h.left, h.right, h.console, ?_, h.kept.trans (.add hp image)⟩
      exact congrArg (ImageStore.add · path image) h.images

theorem loadScript (h : Twins t u store p q) (agree : Agree reserved t u) {path : Path}
    (avoids : Avoids reserved u.home path.text) (name : Option String) :
    Both t u store ((Session.loadScript path name).run p)
      ((Session.loadScript path name).run q) := by
  have hsource : Script.readSource p.files path.text = Script.readSource q.files path.text := by
    rw [agree.home] at avoids
    simp only [Script.readSource, h.left, h.right, agree.read avoids]
  rw [Session.loadScript, EStateM.run_bind, EStateM.run_bind, EStateM.run_get, EStateM.run_get]
  simp only [hsource]
  apply (h.attempt _).bind
  rintro source _ p q ⟨rfl, h⟩
  apply (h.note _ _ _).bind
  rintro _ _ p q ⟨-, h⟩
  rw [Session.parseScript]
  cases Script.parseChars source (name.getD path.text) with
  | error e => exact ⟨rfl, h⟩
  | ok script =>
    apply (h.note _ _ _).bind
    rintro _ _ p q ⟨-, h⟩
    exact h.pure script

theorem converses (t u : FileTree) (store : ImageStore) : Converses (Twins t u store) where
  journal := fun journal journal' h => h.of_journal journal journal'
  console := fun _ h => ⟨h.left, h.right, rfl, h.images, h.kept⟩
  same := fun h => h.console

end Twins

end VisualNovel
