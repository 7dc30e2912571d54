import VisualNovel.Proofs.Cache.Legacy
import VisualNovel.Proofs.Cache.Transparency
import VisualNovel.Proofs.Player.Gallery
import VisualNovel.Proofs.Script.Load
import VisualNovel.Proofs.Session.Ask
import VisualNovel.Proofs.Stage.Render

/-!
# Where a play leaves its drawings

A play puts drawings into two directories, under numbers and, with a cache, under fingerprints. The
files are the same everywhere else, and what is painted is neither an image nor a script. So a play with
a cache and one without it, which begin with the same files, load the same.
-/
namespace VisualNovel

open FileTree (Agree destination)
open RenderCache (Truthful place)

/-- The second tree is the first one but for painted pictures, which are on the walls. -/
structure Decorated (wall : Location → Prop) (t u : FileTree) : Prop where
  agree : Agree wall t u
  painted : ∀ l, wall l → ∀ e, u.get? l = some e → ∃ c, e = .file c ∧ c.Painted

namespace Decorated

variable {wall : Location → Prop} {t u v : FileTree} {path : String} {c : Content} {image : Surface}

theorem free (h : Decorated wall t u) : ∀ l, wall l → u.get? l ≠ some .directory := by
  intro l hl hdirectory
  obtain ⟨c, hfile, -⟩ := h.painted l hl _ hdirectory
  cases hfile

/-- What is not painted is read alike in all trees that have been decorated. -/
theorem read (h : Decorated wall t u) (k : Decorated wall t v) (hread : u.read path = .ok c)
    (plain : ¬c.Painted) : v.read path = .ok c := by
  apply (h.agree.symm.trans k.agree).read_of_ok h.free hread
  rintro l - hfile hl
  obtain ⟨c', hc, hpainted⟩ := h.painted l hl _ hfile
  cases hc
  exact plain hpainted

theorem readImage (h : Decorated wall t u) (k : Decorated wall t v) {file : Path}
    (hread : ImageStore.readImage u file path = .ok image) :
    ImageStore.readImage v file path = .ok image := by
  obtain ⟨c, hc, hplain⟩ := ImageStore.not_painted_of_readImage hread
  rw [ImageStore.readImage, hc] at hread
  rw [ImageStore.readImage, h.read k hc hplain]
  exact hread

theorem write (h : Decorated wall t u) (hwrite : u.write path c = .ok v)
    (hwall : wall (destination u.home path)) (painted : c.Painted) : Decorated wall t v where
  agree := (h.agree.symm.write_reserved hwrite hwall).symm
  painted := by
    intro l hl e he
    by_cases hplace : l = destination u.home path
    · rw [hplace, FileTree.get?_of_write_self hwrite] at he
      exact ⟨c, (Option.some.inj he).symm, painted⟩
    · rw [FileTree.get?_of_write hwrite hplace] at he
      exact h.painted l hl e he

end Decorated

/-- A session that another one can become by putting painted pictures on the walls and by loading
images. -/
structure Continues (start : Session) (wall : Location → Prop) (s : Session) : Prop where
  decorated : Decorated wall start.files s.files
  offer : ∀ path image, s.offer path = .ok image ↔ start.offer path = .ok image

namespace Continues

variable {start s t : Session} {wall : Location → Prop} {u : FileTree}

theorem within (h : Continues start wall s) : start.offer.Within s.offer :=
  fun path image => (h.offer path image).2

theorem within_start (h : Continues start wall s) : s.offer.Within start.offer :=
  fun path image => (h.offer path image).1

theorem of_loads (h : Continues start wall s) (hloads : s.Loads t) : Continues start wall t := by
  have hfiles : t.files = s.files := by rw [hloads.same]
  refine ⟨?_, fun path image => ?_⟩
  · rw [hfiles]
    exact h.decorated
  · rw [hloads.offer_eq]
    exact h.offer path image

/-- Pictures on the walls are no images, so the same images are to be had as before. -/
theorem of_decorated (h : Continues start wall s) (decorated : Decorated wall start.files u) :
    Continues start wall { s with files := u } := by
  have hoffer {t v : FileTree} (ht : Decorated wall start.files t) (hv : Decorated wall start.files v) :
      Offer.Within (s.images.find t) (s.images.find v) := by
    intro path image hfind
    rw [ImageStore.find] at hfind ⊢
    cases hkept : s.images.get? path with
    | some kept =>
      rw [hkept] at hfind
      exact hfind
    | none =>
      rw [hkept] at hfind
      exact ht.readImage hv hfind
  refine ⟨decorated, fun path image => ?_⟩
  rw [← h.offer path image]
  exact ⟨hoffer decorated h.decorated path image, hoffer h.decorated decorated path image⟩

end Continues

/-- A place for a file of one of several names in a directory, unless a directory stands there. -/
def Slot (t : FileTree) (directory : Path) (name : Nat → String) (l : Location) : Prop :=
  (∃ n, l = destination t.home directory.text ++ [name n]) ∧ t.get? l ≠ some .directory

/-- The picture of a backdrop is the image that is offered for its path. -/
structure Pictured (offer : Offer) (b : Backdrop) : Prop where
  offered : ∀ path ∈ b.id, ∃ image, b.picture = some image ∧ offer path = .ok image
  bare : b.id = none → b.picture = none

/-- A file is genuine for a fingerprint if it holds the picture of a known frame that has it. -/
def Genuine (settings : Settings) (offer : Offer) (known : DialogueFrame → Prop) (n : Nat)
    (c : Content) : Prop :=
  ∃ d canvas, known d ∧ d.fingerprint? = some n ∧ Pictured offer d.backdrop ∧
    Scene.portray settings offer d = .ok canvas ∧ c = .drawing canvas

section

variable {settings settings' : Settings} {offer offer' : Offer} {known : DialogueFrame → Prop}
  {b b' : Backdrop} {n : Nat} {c : Content}

theorem Pictured.of_within (h : Pictured offer b) (within : offer.Within offer') :
    Pictured offer' b where
  offered := by
    intro path hpath
    obtain ⟨image, hpicture, hoffer⟩ := h.offered path hpath
    exact ⟨image, hpicture, within path image hoffer⟩
  bare := h.bare

theorem Pictured.eq (h : Pictured offer b) (h' : Pictured offer b') (hid : b.id = b'.id) : b = b' := by
  have hpicture : b.picture = b'.picture := by
    cases hb : b.id with
    | none => rw [h.bare hb, h'.bare (hid.symm.trans hb)]
    | some path =>
      obtain ⟨image, hpicture, hoffer⟩ := h.offered path hb
      obtain ⟨image', hpicture', hoffer'⟩ := h'.offered path (hid.symm.trans hb)
      rw [hpicture, hpicture', Except.ok.inj (hoffer.symm.trans hoffer')]
  cases b
  cases b'
  cases hid
  cases hpicture
  rfl

theorem Genuine.painted (h : Genuine settings offer known n c) : c.Painted := by
  obtain ⟨d, canvas, -, -, -, hportray, rfl⟩ := h
  exact Scene.painted_portray hportray

/-- What is genuine stays so with more images, and under other settings of the same layout. -/
theorem Genuine.of_within (h : Genuine settings offer known n c) (within : offer.Within offer')
    (screen : settings.screen = settings'.screen) (box : settings.textBox = settings'.textBox)
    (font : settings.font = settings'.font) : Genuine settings' offer' known n c := by
  obtain ⟨d, canvas, hknown, hn, hpictured, hportray, rfl⟩ := h
  refine ⟨d, canvas, hknown, hn, hpictured.of_within within, ?_, rfl⟩
  rw [← Scene.portray_congr screen box font]
  exact Scene.portray_of_within within hportray

end

/-- Where a play begins, how it is laid out and where its drawings go, and which frames are known. No
two frames that are known and differ have one fingerprint. -/
structure Venue where
  start : Session
  settings : Settings
  out : Path
  directory : Path
  known : DialogueFrame → Prop
  out_proper : out.Proper
  directory_proper : directory.Proper
  distinct : ∀ {d e n}, known d → known e → d.fingerprint? = some n → e.fingerprint? = some n →
    Fingerprint.encode d = Fingerprint.encode e

namespace Venue

variable {x : Venue} {p q p' q' : Session} {d : DialogueFrame} {canvas : Surface} {n : Nat}
  {c : Content} {t : FileTree}

/-- What the cache may hold for a fingerprint. -/
def genuine (x : Venue) : Nat → Content → Prop :=
  Genuine x.settings x.start.offer x.known

/-- Only one picture is genuine for the fingerprint of a frame. -/
theorem portray_of_genuine (hd : x.known d) (hn : d.fingerprint? = some n)
    (pictured : Pictured x.start.offer d.backdrop) (h : x.genuine n c) :
    ∃ canvas, Scene.portray x.settings x.start.offer d = .ok canvas ∧ c = .drawing canvas := by
  obtain ⟨e, canvas, he, hen, hepictured, hportray, rfl⟩ := h
  have hbare := Fingerprint.bare_eq_of_encode_eq (RenderCache.encodable_of_fingerprint? hen)
    (RenderCache.encodable_of_fingerprint? hn) (x.distinct he hd hen hn)
  have hbackdrop := hepictured.eq pictured (DialogueFrame.bare_eq_bare_iff.1 hbare).1
  obtain rfl := Stage.frame_eq_of_bare hbackdrop hbare
  exact ⟨canvas, hportray, rfl⟩

def gallery (x : Venue) : Location → Prop :=
  Slot x.start.files x.out Play.drawingName

def shelf (x : Venue) : Location → Prop :=
  Slot x.start.files x.directory RenderCache.drawingName

def wall (x : Venue) (l : Location) : Prop :=
  x.gallery l ∨ x.shelf l

/-- A session with a cache and one without, which have come from the same start. The files differ on
the shelf alone, and what stands there is genuine. -/
structure Trails (x : Venue) (p q : Session) : Prop where
  left : Continues x.start x.wall p
  right : Continues x.start x.wall q
  agree : Agree x.shelf p.files q.files
  truthful : Truthful x.genuine (place x.start.files.home x.directory) p.files
  console : p.console = q.console

/-- Where no drawing has a number yet and the cache holds nothing but genuine drawings, the play can begin
in sessions that differ in the journal alone. -/
theorem trails_start (x : Venue)
    (clear : ∀ n c, x.start.files.get? (destination x.start.files.home x.out.text ++
      [Play.drawingName n]) ≠ some (.file c))
    (truthful : Truthful x.genuine (place x.start.files.home x.directory) x.start.files)
    (journal : Journal) : x.Trails x.start { x.start with journal } := by
  have hdecorated : Decorated x.wall x.start.files x.start.files := by
    refine ⟨⟨rfl, fun _ _ => rfl⟩, fun l hl e he => ?_⟩
    cases e with
    | directory =>
      rcases hl with ⟨-, hfree⟩ | ⟨-, hfree⟩
      · exact absurd he hfree
      · exact absurd he hfree
    | file c =>
      rcases hl with ⟨⟨n, hplace⟩, -⟩ | ⟨⟨n, hplace⟩, -⟩
      · rw [hplace] at he
        exact absurd he (clear n c)
      · rw [hplace] at he
        have hgenuine := truthful.files he (RenderCache.fingerprintOf?_drawingName n)
        exact ⟨c, rfl, hgenuine.painted⟩
  exact ⟨⟨hdecorated, fun _ _ => Iff.rfl⟩, ⟨hdecorated, fun _ _ => Iff.rfl⟩,
    ⟨rfl, fun _ _ => rfl⟩, truthful, rfl⟩

theorem slot_of_write {directory : Path} {name : Nat → String} (hp : Continues x.start x.wall p)
    (proper : directory.Proper) (hname : Path.IsName (name n))
    (hwrite : p.files.write (directory.child (name n)).text c = .ok t) :
    Slot x.start.files directory name (destination p.files.home (directory.child (name n)).text) := by
  have hhome : p.files.home = x.start.files.home := hp.decorated.agree.home
  refine ⟨⟨n, ?_⟩, ?_⟩
  · rw [Path.destination_child proper hname, hhome]
  · obtain ⟨l, hlocate, -, hl, -⟩ := FileTree.write_eq_ok_iff.1 hwrite
    rw [← FileTree.eq_destination_of_locate hlocate]
    intro hdirectory
    have hfree : ¬x.wall l := by
      rintro (⟨-, hne⟩ | ⟨-, hne⟩)
      · exact hne hdirectory
      · exact hne hdirectory
    rw [hp.decorated.agree.get? _ hfree] at hl
    exact hl hdirectory

namespace Trails

variable (h : x.Trails p q)

include h

theorem offer_iff (path : String) (image : Surface) :
    p.offer path = .ok image ↔ q.offer path = .ok image :=
  (h.left.offer path image).trans (h.right.offer path image).symm

theorem left_home : p.files.home = x.start.files.home :=
  h.left.decorated.agree.home

theorem shelf_free : (∀ l, x.shelf l → p.files.get? l ≠ some .directory) ∧
    ∀ l, x.shelf l → q.files.get? l ≠ some .directory :=
  ⟨fun l hl => h.left.decorated.free l (Or.inr hl), fun l hl => h.right.decorated.free l (Or.inr hl)⟩

theorem of_loads (hp : p.Loads p') (hq : q.Loads q') : x.Trails p' q' where
  left := h.left.of_loads hp
  right := h.right.of_loads hq
  agree := by
    rw [hp.same, hq.same]
    exact h.agree
  truthful := by
    rw [hp.same]
    exact h.truthful
  console := by
    rw [hp.same, hq.same]
    exact h.console

/-- An image that is loaded in the first session is loaded in the second. -/
theorem loadImage {path : String} {image : Surface}
    (hrun : (Session.loadImage path).run p = .ok image p') :
    ∃ q', (Session.loadImage path).run q = .ok image q' ∧ x.Trails p' q' := by
  have hp := Session.Looks.loadImage p path
  have hq := Session.Looks.loadImage q path
  rw [hrun] at hp
  obtain ⟨hoffer, hploads⟩ := hp
  cases hqrun : (Session.loadImage path).run q with
  | ok found q' =>
    rw [hqrun] at hq
    obtain ⟨hfound, hqloads⟩ := hq
    have hsame := (h.offer_iff path image).1 hoffer
    rw [hfound] at hsame
    cases hsame
    exact ⟨q', rfl, h.of_loads hploads hqloads⟩
  | error e q' =>
    rw [hqrun] at hq
    have hsame := (h.offer_iff path image).1 hoffer
    rw [hq.1] at hsame
    cases hsame

/-- A script that is loaded in the first session is loaded in the second. -/
theorem loadScript {path : Path} {name : Option String} {script : Script}
    (hrun : (Session.loadScript path name).run p = .ok script p') :
    ∃ q', (Session.loadScript path name).run q = .ok script q' ∧ x.Trails p' q' := by
  obtain ⟨content, hread, hholds, hp'⟩ := Session.exists_of_run_loadScript hrun
  have hreadq := h.left.decorated.read h.right.decorated hread hholds.not_painted
  obtain ⟨journal, hq⟩ := Session.exists_run_loadScript q hreadq hholds
  refine ⟨_, hq, h.of_loads ⟨?_, ?_⟩ ⟨rfl, rfl⟩⟩
  · rw [hp']
  · rw [hp']
    rfl

theorem display (hwrite : p.files.write (x.out.child (Play.drawingName n)).text c = .ok t)
    (painted : c.Painted) :
    ∃ u, q.files.write (x.out.child (Play.drawingName n)).text c = .ok u ∧
      x.Trails { p with files := t } { q with files := u } := by
  obtain ⟨hpfree, hqfree⟩ := h.shelf_free
  obtain ⟨u, hu, hagree⟩ := h.agree.write_of_ok hpfree hqfree hwrite
  have hname := Play.isName_drawingName n
  have hslot := slot_of_write h.left x.out_proper hname hwrite
  have hslot' := slot_of_write h.right x.out_proper hname hu
  refine ⟨u, hu, ?_, ?_, hagree, ?_, h.console⟩
  · exact h.left.of_decorated (h.left.decorated.write hwrite (Or.inl hslot) painted)
  · exact h.right.of_decorated (h.right.decorated.write hu (Or.inl hslot') painted)
  · apply h.truthful.write hwrite (Path.destination_child x.out_proper hname _) hname
    intro m hm
    rw [Play.fingerprintOf?_drawingName] at hm
    cases hm

theorem keep (hwrite : p.files.write (RenderCache.fileOf x.directory n).text c = .ok t)
    (genuine : x.genuine n c) : x.Trails { p with files := t } q := by
  rw [RenderCache.fileOf_eq] at hwrite
  have hname := RenderCache.isName_drawingName n
  have hslot := slot_of_write h.left x.directory_proper hname hwrite
  refine ⟨?_, h.right, h.agree.write_reserved hwrite hslot, ?_, h.console⟩
  · exact h.left.of_decorated (h.left.decorated.write hwrite (Or.inr hslot) genuine.painted)
  · apply h.truthful.write hwrite (Path.destination_child x.directory_proper hname _) hname
    intro m hm
    rw [RenderCache.fingerprintOf?_drawingName] at hm
    cases hm
    exact genuine

theorem read_iff (n : Nat) (c : Content) :
    p.files.read (x.out.child (Play.drawingName n)).text = .ok c ↔
      q.files.read (x.out.child (Play.drawingName n)).text = .ok c := by
  have hapart {t : FileTree} {l : Location}
      (hlocate : t.locate (x.out.child (Play.drawingName n)).text = .ok l) : ¬x.shelf l := by
    obtain ⟨m, -, -, rfl⟩ :=
      Path.locate_of_locate_child x.out_proper (Play.isName_drawingName n) hlocate
    rintro ⟨⟨k, hk⟩, -⟩
    exact Play.drawingName_ne n k (List.append_singleton_inj.1 hk).2
  obtain ⟨hpfree, hqfree⟩ := h.shelf_free
  constructor
  · intro hread
    exact h.agree.read_of_ok hpfree hread fun l hlocate _ => hapart hlocate
  · intro hread
    exact h.agree.symm.read_of_ok hqfree hread fun l hlocate _ => hapart hlocate

end Trails

theorem converses_trails (x : Venue) : Converses x.Trails where
  journal := fun _ _ h => h.of_loads ⟨rfl, rfl⟩ ⟨rfl, rfl⟩
  console := by
    intro p q console h
    exact ⟨⟨h.left.decorated, h.left.offer⟩, ⟨h.right.decorated, h.right.offer⟩, h.agree, h.truthful, rfl⟩
  same := fun h => h.console

end Venue

end VisualNovel
