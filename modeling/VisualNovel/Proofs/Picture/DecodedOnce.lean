import Mathlib.Data.List.Induction
import VisualNovel.Proofs.Picture.Load
import VisualNovel.Proofs.Session.Blind

/-!
# Images that are decoded once

A store is asked to load images and for the images that it has, and is cleared now and then, while the
files become others in any way. The history of these calls decides what it has: for every path the image
of the first load behind the last clearing whose file could be read and decoded.
-/
namespace VisualNovel.ImageStore

inductive Call where
  | load (path : String)
  | has (path : String)
  | get (path : String)
  | clear
  /-- The files become others. -/
  | change (files : FileTree)

inductive Answer where
  | image (image : Surface)
  | held (answer : Bool)
  | kept (image : Option Surface)
  | done

def perform : Call → Action Answer
  | .load path => return .image (← Session.loadImage path)
  | .has path => return .held ((← get).images.get? path).isSome
  | .get path => return .kept ((← get).images.get? path)
  | .clear => do
    modify fun s => { s with images := s.images.clear }
    return .done
  | .change files => do
    modify fun s => { s with files }
    return .done

def answer : EStateM.Result Failure Session Answer → Except Failure Answer
  | .ok answer _ => .ok answer
  | .error e _ => .error e

/-- The session that calls leave, whether they succeed or fail. -/
def after (s : Session) (calls : List Call) : Session :=
  calls.foldl (fun s call => leaves ((perform call).run s)) s

def filesAfter (files : FileTree) (calls : List Call) : FileTree :=
  calls.foldl (fun files call => match call with | .change others => others | _ => files) files

/-- The file holds the image. -/
def Decodes (files : FileTree) (file : Path) (image : Surface) : Prop :=
  ∃ content, files.read file.text = .ok content ∧ decodeImage? file.name content = some image

/-- No load of the path behind the last clearing has found an image in its file. -/
def InVain (s : Session) (past : List Call) (path : String) : Prop :=
  ∀ earlier between, past = earlier ++ .load path :: between → .clear ∉ between →
    ∀ image, ¬Decodes (filesAfter s.files earlier) (s.images.resolve path) image

/-- The image was made by the load that followed the calls `before`: its file held the image then, the
loads of the path before it had been in vain, and nothing has been cleared since. -/
structure Made (s : Session) (past : List Call) (path : String) (before : List Call)
    (image : Surface) : Prop where
  since : ∃ rest, past = before ++ .load path :: rest ∧ .clear ∉ rest
  decodes : Decodes (filesAfter s.files before) (s.images.resolve path) image
  first : InVain s before path

/-- No load of another path. -/
def spares (path : String) : Call → Bool
  | .load other => other = path
  | _ => true

variable {s t : Session} {past before before' : List Call} {path : String}
  {image image' : Surface} {files : FileTree} {file : Path} {call : Call}

theorem exists_of_spares (h : spares path call = false) :
    ∃ other, call = .load other ∧ other ≠ path := by
  cases call with
  | load other => exact ⟨other, rfl, of_decide_eq_false h⟩
  | _ => cases h

theorem Decodes.eq (h : Decodes files file image) (h' : Decodes files file image') :
    image = image' := by
  obtain ⟨content, hread, hdecoded⟩ := h
  obtain ⟨content', hread', hdecoded'⟩ := h'
  cases hread.symm.trans hread'
  exact Option.some.inj (hdecoded.symm.trans hdecoded')

theorem after_concat (s : Session) (past : List Call) (call : Call) :
    after s (past ++ [call]) = leaves ((perform call).run (after s past)) := by
  rw [after, List.foldl_append]
  rfl

theorem run_perform_load (path : String) (s : Session) :
    (perform (.load path)).run s =
      match (Session.loadImage path).run s with
      | .ok image t => .ok (.image image) t
      | .error e t => .error e t := by
  rw [perform, EStateM.run_bind]
  cases (Session.loadImage path).run s <;> rfl

theorem answer_load (path : String) (s : Session) :
    answer ((perform (.load path)).run s) = (s.images.find s.files path).map .image := by
  rw [run_perform_load]
  obtain ⟨image, journal, images, hfind, -, hrun⟩ | ⟨e, hfind, hrun⟩ :=
    Session.loadImage_cases path s
  · rw [hrun, hfind]
    rfl
  · rw [hrun, hfind]
    rfl

/-- A load leaves the journal and the store changed at most, and the store only by its image. -/
theorem leaves_loadImage (path : String) (s : Session) :
    ∃ journal images, leaves ((perform (.load path)).run s) = { s with journal, images } ∧
      (images = s.images ∨ ∃ image, images = s.images.add path image) := by
  rw [run_perform_load]
  obtain ⟨image, journal, images, -, himages, hrun⟩ | ⟨e, -, hrun⟩ :=
    Session.loadImage_cases path s
  · rw [hrun]
    exact ⟨journal, images, rfl, himages.imp_right fun h => ⟨image, h⟩⟩
  · rw [hrun]
    exact ⟨s.journal, s.images, rfl, Or.inl rfl⟩

/-- A call changes no file that a path stands for, and the files only by the call that does. -/
theorem leaves_spec (call : Call) (s : Session) :
    (leaves ((perform call).run s)).files = filesAfter s.files [call] ∧
      ∀ path, (leaves ((perform call).run s)).images.resolve path = s.images.resolve path := by
  cases call with
  | load path =>
    obtain ⟨journal, images, hleaves, rfl | ⟨image, rfl⟩⟩ := leaves_loadImage path s
    · rw [hleaves]
      exact ⟨rfl, fun _ => rfl⟩
    · rw [hleaves]
      exact ⟨rfl, fun _ => rfl⟩
  | has path => exact ⟨rfl, fun _ => rfl⟩
  | get path => exact ⟨rfl, fun _ => rfl⟩
  | clear => exact ⟨rfl, fun _ => rfl⟩
  | change files => exact ⟨rfl, fun _ => rfl⟩

theorem after_spec (s : Session) (past : List Call) :
    (after s past).files = filesAfter s.files past ∧
      ∀ path, (after s past).images.resolve path = s.images.resolve path := by
  induction past generalizing s with
  | nil => exact ⟨rfl, fun _ => rfl⟩
  | cons call past ih =>
    obtain ⟨hfiles, hresolve⟩ := leaves_spec call s
    obtain ⟨hfilesAfter, hresolveAfter⟩ := ih (leaves ((perform call).run s))
    rw [hfiles] at hfilesAfter
    exact ⟨hfilesAfter, fun path => (hresolveAfter path).trans (hresolve path)⟩

theorem Made.not_inVain (h : Made s past path before image) : ¬InVain s past path := by
  obtain ⟨rest, hpast, hrest⟩ := h.since
  exact fun hvain => hvain before rest hpast hrest image h.decodes

/-- Where one load has found an image, there is a first one. -/
theorem exists_made {between : List Call} (hpast : past = before ++ .load path :: between)
    (kept : .clear ∉ between)
    (h : Decodes (filesAfter s.files before) (s.images.resolve path) image) :
    ∃ before image, Made s past path before image := by
  induction hlength : before.length using Nat.strongRecOn generalizing before between image with
  | ind length ih =>
    by_cases hfirst : InVain s before path
    · exact ⟨before, image, ⟨between, hpast, kept⟩, h, hfirst⟩
    · simp only [InVain, Classical.not_forall, Classical.not_not] at hfirst
      obtain ⟨earlier, middle, rfl, hmiddle, other, hother⟩ := hfirst
      have hlonger : past = earlier ++ .load path :: (middle ++ .load path :: between) := by
        rw [hpast, List.append_assoc, List.cons_append]
      refine ih earlier.length ?_ hlonger (by simp [hmiddle, kept]) hother rfl
      rw [← hlength, List.length_append, List.length_cons]
      omega

theorem inVain_iff : InVain s past path ↔ ∀ before image, ¬Made s past path before image := by
  constructor
  · exact fun h before image hmade => hmade.not_inVain h
  · intro h earlier between hpast kept image hdecodes
    obtain ⟨before, image, hmade⟩ := exists_made hpast kept hdecodes
    exact h before image hmade

/-- One more call makes the image, or leaves what was made and does not clear it. -/
theorem made_concat_iff : Made s (past ++ [call]) path before image ↔
    (call ≠ .clear ∧ Made s past path before image) ∨
      (call = .load path ∧ before = past ∧
        Decodes (filesAfter s.files past) (s.images.resolve path) image ∧ InVain s past path) := by
  constructor
  · rintro ⟨⟨rest, hpast, hrest⟩, hdecodes, hfirst⟩
    rcases List.eq_nil_or_concat rest with rfl | ⟨rest, last, rfl⟩
    · obtain ⟨rfl, hcall⟩ := List.append_inj' hpast rfl
      exact Or.inr ⟨(List.cons.inj hcall).1, rfl, hdecodes, hfirst⟩
    · rw [List.concat_eq_append] at hpast hrest
      have hsplit : past ++ [call] = (before ++ .load path :: rest) ++ [last] := by
        rw [hpast, List.append_assoc, List.cons_append]
      obtain ⟨rfl, hcall⟩ := List.append_inj' hsplit rfl
      obtain rfl := (List.cons.inj hcall).1
      simp only [List.mem_append, List.mem_singleton, not_or] at hrest
      exact Or.inl ⟨Ne.symm hrest.2, ⟨rest, rfl, hrest.1⟩, hdecodes, hfirst⟩
  · rintro (⟨hcall, ⟨rest, rfl, hrest⟩, hdecodes, hfirst⟩ | ⟨rfl, rfl, hdecodes, hfirst⟩)
    · refine ⟨⟨rest ++ [call], by simp, ?_⟩, hdecodes, hfirst⟩
      simp [hrest, Ne.symm hcall]
    · exact ⟨⟨[], rfl, List.not_mem_nil⟩, hdecodes, hfirst⟩

/-- Calls other than a clearing and a load of the path make nothing of it. -/
theorem made_concat_of_ne (clear : call ≠ .clear) (load : call ≠ .load path) :
    Made s (past ++ [call]) path before image ↔ Made s past path before image := by
  simp [made_concat_iff, clear, load]

theorem Made.made_concat_load (h : Made s past path before image) :
    Made s (past ++ [.load path]) path before' image' ↔ Made s past path before' image' := by
  simp [made_concat_iff, h.not_inVain]

theorem InVain.made_concat_load (h : InVain s past path) :
    Made s (past ++ [.load path]) path before image ↔
      before = past ∧ Decodes (filesAfter s.files past) (s.images.resolve path) image := by
  simp [made_concat_iff, h, inVain_iff.1 h]

theorem inVain_of_not_mem (h : .load path ∉ past) : InVain s past path := by
  rintro earlier between rfl
  exact absurd (by simp) h

theorem inVain_concat_clear (past : List Call) : InVain s (past ++ [.clear]) path := by
  simp [inVain_iff, made_concat_iff]

theorem Made.append (h : Made s past path before image) (more : List Call) (kept : .clear ∉ more) :
    Made s (past ++ more) path before image := by
  obtain ⟨rest, rfl, hrest⟩ := h.since
  exact ⟨⟨rest ++ more, by simp, by simp [hrest, kept]⟩, h.decodes, h.first⟩

theorem Made.at_load (h : Made s past path before image) :
    Made s (before ++ [.load path]) path before image :=
  ⟨⟨[], rfl, List.not_mem_nil⟩, h.decodes, h.first⟩

theorem Made.not_longer (h : Made s past path before image) (h' : Made s past path before' image')
    (more : List Call) : before' ≠ before ++ .load path :: more := by
  rintro rfl
  obtain ⟨rest, hpast, hrest⟩ := h.since
  obtain ⟨rest', hpast', -⟩ := h'.since
  rw [hpast, List.append_assoc, List.append_right_inj, List.cons_append, List.cons.injEq] at hpast'
  have hmore : .clear ∉ more := by
    rw [hpast'.2] at hrest
    exact fun hmem => hrest (List.mem_append_left _ hmem)
  exact h'.first before more rfl hmore image h.decodes

theorem Made.unique (h : Made s past path before image) (h' : Made s past path before' image') :
    before = before' ∧ image = image' := by
  have hbefore : before = before' := by
    obtain ⟨rest, hpast, -⟩ := h.since
    obtain ⟨rest', hpast', -⟩ := h'.since
    rcases List.append_eq_append_iff.1 (hpast.symm.trans hpast') with
      ⟨more, hmore, hload⟩ | ⟨more, hmore, hload⟩
    · rcases List.cons_eq_append_iff.1 hload with ⟨rfl, -⟩ | ⟨more', rfl, -⟩
      · rw [hmore, List.append_nil]
      · exact absurd hmore (h.not_longer h' more')
    · rcases List.cons_eq_append_iff.1 hload with ⟨rfl, -⟩ | ⟨more', rfl, -⟩
      · rw [hmore, List.append_nil]
      · exact absurd hmore (h'.not_longer h more')
  subst hbefore
  exact ⟨rfl, h.decodes.eq h'.decodes⟩

theorem get?_leaves_loadImage_of_ne {other : String} (h : other ≠ path) (s : Session) :
    (leaves ((perform (.load other)).run s)).images.get? path = s.images.get? path := by
  obtain ⟨journal, images, hleaves, rfl | ⟨image, rfl⟩⟩ := leaves_loadImage other s
  · rw [hleaves]
  · rw [hleaves, get?_add, if_neg (Ne.symm h)]

theorem get?_leaves_loadImage (path : String) (s : Session) (image : Surface) :
    (leaves ((perform (.load path)).run s)).images.get? path = some image ↔ s.Gives path image := by
  rw [Session.gives_iff, run_perform_load, find]
  cases hkept : s.images.get? path with
  | some found => simp [Session.run_loadImage_of_kept hkept, leaves, hkept]
  | none =>
    cases hread : readImage s.files (s.images.resolve path) path with
    | ok found =>
      obtain ⟨journal, hrun⟩ := Session.run_loadImage_of_read hkept hread
      simp [hrun, leaves, get?_add]
    | error e => simp [Session.run_loadImage_of_error hkept hread, leaves, hkept]

theorem gives_after_of_get?
    (kept : ∀ image, (after s past).images.get? path = some image ↔
      ∃ before, Made s past path before image) (image : Surface) :
    (after s past).Gives path image ↔
      ∃ before, Made s (past ++ [.load path]) path before image := by
  obtain ⟨hfiles, hresolve⟩ := after_spec s past
  rw [Session.gives_iff, find]
  cases hkept : (after s past).images.get? path with
  | some found =>
    obtain ⟨before, hmade⟩ := (kept found).1 hkept
    simp only [hmade.made_concat_load, ← kept, hkept, Option.some.injEq, Except.ok.injEq]
  | none =>
    have hvain : InVain s past path := by
      refine inVain_iff.2 fun before image hmade => ?_
      rw [(kept image).2 ⟨before, hmade⟩] at hkept
      cases hkept
    simp only [hvain.made_concat_load, Decodes, readImage_eq_ok_iff, hfiles, hresolve, exists_eq_left]

/-- What the store has is what was made. -/
theorem get?_after (empty : s.images.images = []) (past : List Call) (path : String)
    (image : Surface) :
    (after s past).images.get? path = some image ↔ ∃ before, Made s past path before image := by
  induction past using List.reverseRecOn generalizing image with
  | nil =>
    apply iff_of_false
    · rw [after, List.foldl_nil, get?, empty]
      simp
    · rintro ⟨before, ⟨rest, hpast, -⟩, -⟩
      simp at hpast
  | append_singleton past call ih =>
    -- A call that is no clearing and no load of the path leaves its image, and makes none.
    have hother (clear : call ≠ .clear) (load : call ≠ .load path)
        (h : (leaves ((perform call).run (after s past))).images.get? path =
          (after s past).images.get? path) :
        (leaves ((perform call).run (after s past))).images.get? path = some image ↔
          ∃ before, Made s (past ++ [call]) path before image := by
      simp only [made_concat_of_ne clear load, h, ih]
    rw [after_concat]
    cases call with
    | load other =>
      by_cases hpath : other = path
      · subst hpath
        rw [get?_leaves_loadImage, gives_after_of_get? ih]
      · exact hother (by simp) (by simpa using hpath) (get?_leaves_loadImage_of_ne hpath _)
    | clear =>
      apply iff_of_false
      · rw [show (leaves ((perform .clear).run (after s past))).images.get? path = none from rfl]
        simp
      · simp [made_concat_iff]
    | has other => exact hother (by simp) (by simp) rfl
    | get other => exact hother (by simp) (by simp) rfl
    | change others => exact hother (by simp) (by simp) rfl

theorem gives_after (empty : s.images.images = []) :
    (after s past).Gives path image ↔
      ∃ before, Made s (past ++ [.load path]) path before image :=
  gives_after_of_get? (get?_after empty past path) image

/-- The loads that found no image in their files are the loads that failed. -/
theorem inVain_iff_failed (empty : s.images.images = []) : InVain s past path ↔
    ∀ earlier between, past = earlier ++ .load path :: between → .clear ∉ between →
      ∀ image, ¬(after s earlier).Gives path image := by
  constructor
  · rintro hvain earlier between rfl kept image hgives
    obtain ⟨before, hmade⟩ := (gives_after empty).1 hgives
    have hlasts := hmade.append between kept
    rw [List.append_assoc, List.singleton_append] at hlasts
    exact hlasts.not_inVain hvain
  · intro h
    refine inVain_iff.2 fun before image hmade => ?_
    obtain ⟨rest, hpast, hrest⟩ := hmade.since
    exact h before rest hpast hrest image ((gives_after empty).2 ⟨before, hmade.at_load⟩)

/-- The load that made the image is the first one behind the last clearing that succeeded. -/
theorem made_iff_first (empty : s.images.images = []) : Made s past path before image ↔
    (∃ rest, past = before ++ .load path :: rest ∧ .clear ∉ rest) ∧
      (after s before).Gives path image ∧
        ∀ earlier between, before = earlier ++ .load path :: between → .clear ∉ between →
          ∀ other, ¬(after s earlier).Gives path other := by
  rw [← inVain_iff_failed empty, gives_after empty]
  constructor
  · exact fun h => ⟨h.since, ⟨before, h.at_load⟩, h.first⟩
  · rintro ⟨hsince, ⟨before', hmade⟩, hvain⟩
    obtain ⟨-, hdecodes⟩ := hvain.made_concat_load.1 hmade
    exact ⟨hsince, hdecodes, hvain⟩

/-- The load reads the file: it fails according to what has failed, and then changes nothing, or decodes
the image and keeps it. -/
structure Anew (s : Session) (file : Path) (path : String) : Prop where
  decoded : ∀ image, Decodes s.files file image → ∃ journal,
    (perform (.load path)).run s =
      .ok (.image image) { s with journal, images := s.images.add path image }
  undecodable : ∀ content, s.files.read file.text = .ok content →
    decodeImage? file.name content = none →
      (perform (.load path)).run s = .error (.asset (.undecodable path)) s
  unreadable : FileTree.nameFault? file.text.toList = none →
    ∀ cause, s.files.read file.text = .error cause →
      (perform (.load path)).run s = .error (.asset (.unreadable path cause)) s
  /-- A text with a null character or an unpaired surrogate is the path of no file. (The characters from
  U+10D800 to U+10DFFF are the stand-ins of surrogates and are left out as characters.) -/
  unnameable : ∀ fault, FileTree.nameFault? file.text.toList = some fault →
    (perform (.load path)).run s = .error (.file (.unnameable fault)) s

theorem anew_of_get?_eq_none (h : s.images.get? path = none) :
    Anew s (s.images.resolve path) path := by
  have hfailed {e : Failure} (hread : readImage s.files (s.images.resolve path) path = .error e) :
      (perform (.load path)).run s = .error e s := by
    rw [run_perform_load, Session.run_loadImage_of_error h hread]
  constructor
  case decoded =>
    intro image hdecodes
    obtain ⟨journal, hrun⟩ := Session.run_loadImage_of_read h (readImage_eq_ok_iff.2 hdecodes)
    exact ⟨journal, by rw [run_perform_load, hrun]⟩
  case undecodable =>
    intro content hread hdecoded
    exact hfailed (by simp only [readImage, hread, hdecoded])
  case unreadable =>
    intro hname cause hread
    obtain ⟨fault, hfault, -⟩ | ⟨fault, rfl⟩ := FileTree.read_error_cases hread
    · rw [hname] at hfault
      cases hfault
    · exact hfailed (by simp only [readImage, hread])
  case unnameable =>
    intro fault hfault
    exact hfailed (readImage_of_nameFault hfault)

/-- The sessions agree on all that an image of the path depends on. -/
structure Agree (path : String) (s t : Session) : Prop where
  files : s.files = t.files
  resolve : s.images.resolve path = t.images.resolve path
  kept : s.images.get? path = t.images.get? path

namespace Agree

theorem find_eq (h : Agree path s t) :
    s.images.find s.files path = t.images.find t.files path := by
  rw [find, find, h.kept, h.files, h.resolve]

theorem answer_eq (h : Agree path s t)
    (about : call ∈ [Call.load path, .has path, .get path]) :
    answer ((perform call).run s) = answer ((perform call).run t) := by
  simp only [List.mem_cons, List.not_mem_nil, or_false] at about
  rcases about with rfl | rfl | rfl
  · rw [answer_load, answer_load, h.find_eq]
  · exact congrArg (fun kept => Except.ok (Answer.held (Option.isSome kept))) h.kept
  · exact congrArg (fun kept => Except.ok (Answer.kept kept)) h.kept

theorem leaves_perform (h : Agree path s t) (call : Call) :
    Agree path (leaves ((perform call).run s)) (leaves ((perform call).run t)) where
  files := by
    rw [(leaves_spec call s).1, (leaves_spec call t).1, h.files]
  resolve := by
    rw [(leaves_spec call s).2, (leaves_spec call t).2, h.resolve]
  kept := by
    cases call with
    | load other =>
      by_cases hother : other = path
      · subst hother
        ext image
        simp only [get?_leaves_loadImage, Session.gives_iff, h.find_eq]
      · rw [get?_leaves_loadImage_of_ne hother, get?_leaves_loadImage_of_ne hother, h.kept]
    | clear => rfl
    | has other => exact h.kept
    | get other => exact h.kept
    | change others => exact h.kept

theorem leaves_load_of_ne {other : String} (h : Agree path s t) (hother : other ≠ path) :
    Agree path (leaves ((perform (.load other)).run s)) t where
  files := (leaves_spec (.load other) s).1.trans h.files
  resolve := ((leaves_spec (.load other) s).2 path).trans h.resolve
  kept := (get?_leaves_loadImage_of_ne hother s).trans h.kept

theorem after_spared (h : Agree path s t) (past : List Call) :
    Agree path (after s past) (after t (past.filter (spares path))) := by
  induction past generalizing s t with
  | nil => exact h
  | cons call past ih =>
    cases hspares : spares path call with
    | true =>
      rw [List.filter_cons_of_pos hspares]
      exact ih (h.leaves_perform call)
    | false =>
      rw [List.filter_cons_of_neg (by simp [hspares])]
      obtain ⟨other, rfl, hother⟩ := exists_of_spares hspares
      exact ih (h.leaves_load_of_ne hother)

end Agree

/-- What the store does with a path behind some calls. -/
structure DecodedOnce (s : Session) (past : List Call) (path : String) : Prop where
  /-- An image is decoded from what the file held at the first load behind the last clearing that
  succeeded. -/
  made_iff : ∀ before image, Made s past path before image ↔
    (∃ rest, past = before ++ .load path :: rest ∧ .clear ∉ rest) ∧
      (after s before).Gives path image ∧
        ∀ earlier between, before = earlier ++ .load path :: between → .clear ∉ between →
          ∀ other, ¬(after s earlier).Gives path other
  /-- A load succeeds with the image that was decoded then, or else with the one that it decodes. -/
  gives_iff : ∀ image, (after s past).Gives path image ↔
    ∃ before, Made s (past ++ [.load path]) path before image
  /-- One load has decoded it, and it stays until a clearing. -/
  once : ∀ before image, Made s past path before image →
    (∀ before' image', Made s past path before' image' → before' = before ∧ image' = image) ∧
      ∀ more, .clear ∉ more → Made s (past ++ more) path before image
  /-- The file is not read again: whatever the files are, a load gives the image and does nothing. -/
  again : ∀ before image, Made s past path before image → ∀ u : FileTree,
    (perform (.load path)).run ((after s past).on u) = .ok (.image image) ((after s past).on u)
  /-- Where no load has succeeded, the next one reads the file as it is then. -/
  anew : (∀ before image, ¬Made s past path before image) → ∀ u : FileTree,
    Anew ((after s past).on u) (s.images.resolve path) path
  /-- The questions for the image are answered so, and change nothing. -/
  has : ∃ held, (perform (.has path)).run (after s past) = .ok (.held held) (after s past) ∧
    (held = true ↔ ∃ before image, Made s past path before image)
  get : ∃ kept, (perform (.get path)).run (after s past) = .ok (.kept kept) (after s past) ∧
    ∀ image, kept = some image ↔ ∃ before, Made s past path before image
  /-- Without the loads of other paths all answers were the same. -/
  alone : ∀ call ∈ [Call.load path, .has path, .get path],
    answer ((perform call).run (after s (past.filter (spares path)))) =
      answer ((perform call).run (after s past))

/-- In any run of loads, questions and clearings, on files that change in any way between them, an
image is decoded once until it is cleared. -/
theorem decoded_once (s : Session) (root : Option Path) (past : List Call) (path : String) :
    DecodedOnce { s with images := { root } } past path := by
  obtain ⟨start, hstart⟩ : ∃ start, start = { s with images := { root } } := ⟨_, rfl⟩
  rw [← hstart]
  have hempty : start.images.images = [] := by
    rw [hstart]
  have hkept := get?_after hempty past path
  constructor
  case made_iff => exact fun before image => made_iff_first hempty
  case gives_iff => exact fun image => gives_after hempty
  case once =>
    exact fun before image h => ⟨fun before' image' h' => h'.unique h, h.append⟩
  case again =>
    intro before image h u
    have hrun : (Session.loadImage path).run ((after start past).on u) =
        .ok image ((after start past).on u) :=
      Session.run_loadImage_of_kept ((hkept image).2 ⟨before, h⟩)
    rw [run_perform_load, hrun]
  case anew =>
    intro h u
    rw [← (after_spec start past).2]
    refine anew_of_get?_eq_none (Option.eq_none_iff_forall_ne_some.2 fun image hsome => ?_)
    obtain ⟨before, hmade⟩ := (hkept image).1 hsome
    exact h before image hmade
  case has =>
    refine ⟨_, rfl, ?_⟩
    simp only [Option.isSome_iff_exists, hkept]
    exact exists_comm
  case get => exact ⟨_, rfl, hkept⟩
  case alone =>
    have hagree : Agree path (after start past) (after start (past.filter (spares path))) :=
      Agree.after_spared ⟨rfl, rfl, rfl⟩ past
    exact fun call about => (hagree.answer_eq about).symm

/-- A picture is loaded, replaced by another one, and loaded again before and after a clearing. -/
theorem decoded_once_replaced :
    ∃ (old new : FileTree) (image other : Surface), image ≠ other ∧
      Decodes old (Path.ofText "a.png") image ∧ Decodes new (Path.ofText "a.png") other ∧
      (after {} [.change old, .load "a.png", .change new]).Gives "a.png" image ∧
      (after {} [.change old, .load "a.png", .change new, .clear]).Gives "a.png" other := by
  obtain ⟨old, hold⟩ : ∃ old : FileTree,
      old = { entries := [(["a.png"], .file (Content.ofText "IMG 4 2"))] } := ⟨_, rfl⟩
  obtain ⟨new, hnew⟩ : ∃ new : FileTree,
      new = { entries := [(["a.png"], .file (Content.ofText "IMG 1 1"))] } := ⟨_, rfl⟩
  have hdecodesOld : Decodes old (Path.ofText "a.png") (.image "a.png" 4 2) := by
    rw [hold]
    exact ⟨Content.ofText "IMG 4 2", by decide +kernel, by decide +kernel⟩
  have hdecodesNew : Decodes new (Path.ofText "a.png") (.image "a.png" 1 1) := by
    rw [hnew]
    exact ⟨Content.ofText "IMG 1 1", by decide +kernel, by decide +kernel⟩
  refine ⟨old, new, _, _, by simp, hdecodesOld, hdecodesNew, ?_, ?_⟩
  · refine ((decoded_once {} none _ "a.png").gives_iff _).2 ⟨[.change old], ?_⟩
    exact ⟨⟨[.change new, .load "a.png"], rfl, by simp⟩, hdecodesOld, inVain_of_not_mem (by simp)⟩
  · refine ((decoded_once {} none _ "a.png").gives_iff _).2
      ⟨[.change old, .load "a.png", .change new, .clear], ?_⟩
    exact ⟨⟨[], rfl, by simp⟩, hdecodesNew, inVain_concat_clear [.change old, _, _]⟩

/-- In a directory whose name is an unpaired surrogate no image is found, and the failure is none of an
image. -/
theorem exists_load_unnameable :
    ∃ (s : Session) (e : Failure), Char.ofNat 0 ∉ (s.images.resolve "b.png").text.toList ∧
      (perform (.load "b.png")).run s = .error e s ∧ (∀ a, e ≠ .asset a) ∧
      e.message =
        "'utf-8' codec can't encode character '\\ud800' in position 0: surrogates not allowed" := by
  obtain ⟨root, hroot⟩ : ∃ root, root = Path.ofText (String.singleton (Text.charOfPoint 0xD800)) :=
    ⟨_, rfl⟩
  obtain ⟨s, hs⟩ : ∃ s : Session, s = { images := { root := some root } } := ⟨_, rfl⟩
  have hfault : FileTree.nameFault? (s.images.resolve "b.png").text.toList =
      some (.surrogates ⟨0, [Text.charOfPoint 0xD800]⟩) := by
    rw [hs, hroot]
    decide +kernel
  have hkept : s.images.get? "b.png" = none := by rw [hs]; rfl
  refine ⟨s, _, ?_, (anew_of_get?_eq_none hkept).unnameable _ hfault, by simp, by decide +kernel⟩
  rw [hs, hroot]
  decide +kernel

end VisualNovel.ImageStore
