import VisualNovel.Picture.Load
import VisualNovel.Proofs.Files.Location
import VisualNovel.Proofs.Session.Action

/-!
# What loading an image does

A load gives the image that the session has for the path, be it in its store or in a file. It changes
no image that is to be had, neither its own nor another one, so an image can be asked for again and
again.
-/
namespace VisualNovel

theorem isSome_decodeImage? (name other : String) (c : Content) :
    (decodeImage? name c).isSome = (decodeImage? other c).isSome := by
  cases c with
  | drawing picture => rfl
  | bytes data =>
    simp only [decodeImage?]
    split
    · rfl
    · split
      · rename_i width height hfields
        cases readSide? width <;> cases readSide? height <;> rfl
      · rfl

namespace ImageStore

/-- The image to be had for a path, from the store or else from its file. -/
def find (store : ImageStore) (files : FileTree) (path : String) : Except Failure Surface :=
  match store.get? path with
  | some image => .ok image
  | none => readImage files (store.resolve path) path

variable {store : ImageStore} {files : FileTree} {path : String} {image : Surface}

@[simp]
theorem resolve_add (store : ImageStore) (path : String) (image : Surface) (other : String) :
    (store.add path image).resolve other = store.resolve other :=
  rfl

theorem get?_add (store : ImageStore) (path : String) (image : Surface) (other : String) :
    (store.add path image).get? other = if other = path then some image else store.get? other := by
  simp only [get?, add, List.lookup_cons]
  by_cases h : other = path
  · simp [h]
  · have hb : (other == path) = false := by simpa using h
    simp [h, hb]

theorem readImage_eq_ok_iff {file : Path} : readImage files file path = .ok image ↔
    ∃ c, files.read file.text = .ok c ∧ decodeImage? file.name c = some image := by
  rw [readImage]
  cases files.read file.text with
  | ok c => cases hdecoded : decodeImage? file.name c <;> simp [hdecoded]
  | error e => cases e <;> simp

/-- Whatever is wrong with a file is wrong with the picture, unless its text names no file. -/
theorem readImage_error_cases {file : Path} {e : Failure}
    (h : readImage files file path = .error e) :
    (∃ fault, FileTree.nameFault? file.text.toList = some fault ∧ e = .file (.unnameable fault)) ∨
      ∃ a, e = .asset a := by
  cases hread : files.read file.text with
  | ok content =>
    simp only [readImage, hread] at h
    split at h
    · cases h
    · cases h
      exact Or.inr ⟨_, rfl⟩
  | error f =>
    obtain ⟨fault, hname, rfl⟩ | ⟨fault, rfl⟩ := FileTree.read_error_cases hread
    · simp only [readImage, hread] at h
      cases h
      exact Or.inl ⟨fault, hname, rfl⟩
    · simp only [readImage, hread] at h
      cases h
      exact Or.inr ⟨_, rfl⟩

theorem readImage_of_nameFault {file : Path} {fault : NameFault}
    (h : FileTree.nameFault? file.text.toList = some fault) :
    readImage files file path = .error (.file (.unnameable fault)) := by
  simp only [readImage, FileTree.read_of_nameFault h]

/-- Keeping an image that is to be had changes nothing about what is to be had. -/
theorem find_add (h : store.find files path = .ok image) (other : String) :
    (store.add path image).find files other = store.find files other := by
  by_cases hother : other = path
  · subst hother
    rw [h, find, get?_add, if_pos rfl]
  · rw [find, get?_add, if_neg hother, resolve_add, find]

end ImageStore

namespace Session

variable {path : String} {image : Surface} {s t : Session}

theorem run_loadImage_of_kept (h : s.images.get? path = some image) :
    (loadImage path).run s = .ok image s := by
  rw [loadImage, EStateM.run_bind, EStateM.run_get]
  simp only [h]
  rfl

theorem run_loadImage_of_read (h : s.images.get? path = none)
    (read : ImageStore.readImage s.files (s.images.resolve path) path = .ok image) :
    ∃ journal, (loadImage path).run s =
      .ok image { s with journal, images := s.images.add path image } := by
  rw [loadImage, EStateM.run_bind, EStateM.run_get]
  simp only [h, EStateM.run_bind, run_attempt, read]
  exact ⟨_, rfl⟩

theorem run_loadImage_of_error {e : Failure} (h : s.images.get? path = none)
    (read : ImageStore.readImage s.files (s.images.resolve path) path = .error e) :
    (loadImage path).run s = .error e s := by
  rw [loadImage, EStateM.run_bind, EStateM.run_get]
  simp only [h, EStateM.run_bind, run_attempt, read]

/-- A load that succeeds gives the image that is to be had, and keeps it. -/
theorem loadImage_cases (path : String) (s : Session) :
    (∃ image journal images, s.images.find s.files path = .ok image ∧
      (images = s.images ∨ images = s.images.add path image) ∧
        (loadImage path).run s = .ok image { s with journal, images }) ∨
    ∃ e, s.images.find s.files path = .error e ∧ (loadImage path).run s = .error e s := by
  rw [ImageStore.find]
  cases hkept : s.images.get? path with
  | some image =>
    exact Or.inl ⟨image, s.journal, s.images, rfl, Or.inl rfl, run_loadImage_of_kept hkept⟩
  | none =>
    cases hread : ImageStore.readImage s.files (s.images.resolve path) path with
    | ok image =>
      obtain ⟨journal, hrun⟩ := run_loadImage_of_read hkept hread
      exact Or.inl ⟨image, journal, _, rfl, Or.inr rfl, hrun⟩
    | error e => exact Or.inr ⟨e, rfl, run_loadImage_of_error hkept hread⟩

/-- A load of the path gives the image. -/
def Gives (s : Session) (path : String) (image : Surface) : Prop :=
  ∃ t, (loadImage path).run s = .ok image t

theorem gives_iff : s.Gives path image ↔ s.images.find s.files path = .ok image := by
  obtain ⟨found, journal, images, hfind, -, hrun⟩ | ⟨e, hfind, hrun⟩ := loadImage_cases path s
  · rw [Gives, hfind, hrun]
    constructor
    · rintro ⟨t, h⟩
      cases h
      rfl
    · intro h
      cases h
      exact ⟨_, rfl⟩
  · rw [Gives, hfind, hrun]
    constructor
    · rintro ⟨t, h⟩
      cases h
    · intro h
      cases h

theorem Gives.eq {other : Surface} (h : s.Gives path image) (h' : s.Gives path other) :
    image = other := by
  rw [gives_iff] at h h'
  exact Except.ok.inj (h.symm.trans h')

theorem find_loadImage (h : (loadImage path).run s = .ok image t) (other : String) :
    t.images.find t.files other = s.images.find s.files other := by
  obtain ⟨found, journal, images, hfind, himages, hrun⟩ | ⟨e, hfind, hrun⟩ := loadImage_cases path s
  · rw [hrun] at h
    cases h
    rcases himages with rfl | rfl
    · rfl
    · exact ImageStore.find_add hfind other
  · rw [hrun] at h
    cases h

theorem Gives.of_loadImage {other : String} {picture : Surface} (h : s.Gives other picture)
    (run : (loadImage path).run s = .ok image t) : t.Gives other picture := by
  rw [gives_iff, find_loadImage run, ← gives_iff]
  exact h

end Session

end VisualNovel
