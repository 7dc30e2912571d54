import VisualNovel.Proofs.Cache.Room
import VisualNovel.Proofs.Cache.Transparency
import VisualNovel.Proofs.Session.Twins

/-!
# Rendering with and without a cache

Two sessions side by side, the first of them with a cache. What the cache keeps can be drawn again as
it was kept, so that rendering through the cache and rendering directly end alike and leave the same
drawing. The trees go on to differ below the directory of the cache alone.
-/
namespace VisualNovel.RenderCache

open FileTree (Agree Avoids destination endsInSlash)

/-- Wherever the images are at hand, the frame is drawn with this content, and nothing but the journal
changes. -/
def Redrawn (r : Renderer) (images : ImageStore) (d : DialogueFrame) (content : Content) : Prop :=
  ∀ s : Session, images.Within s.images →
    ∃ journal, (r.draw (.dialogue d)).run s = .ok content { s with journal }

/-- What is in the directory of a cache: drawings of frames, each as it is drawn again. -/
structure Stock (r : Renderer) (home : Location) (directory : Path) (kept : DialogueFrame → Prop)
    (picture : DialogueFrame → Content) (stored : List DialogueFrame) (t : FileTree)
    (images : ImageStore) (c : RenderCache) : Prop where
  sound : Sound home directory picture stored stored t c
  isDirectory : t.isDirectory directory.text = true
  flat : ∀ {l s}, place home directory <+: l → t.get? (l ++ [s]) ≠ some .directory
  kept : ∀ {e}, e ∈ stored → kept e
  redrawn : ∀ {e}, e ∈ stored → Redrawn r images e (picture e.bare)

/-- Two sessions side by side, the first with a cache that keeps frames as the second draws them. -/
structure Mirrors (r : Renderer) (home : Location) (directory : Path)
    (reserved : Location → Prop) (kept : DialogueFrame → Prop) (c : RenderCache) (p q : Session) :
    Prop where
  matched : Matched home reserved p q
  stock : ∃ picture stored, Stock r home directory kept picture stored p.files q.images c

variable {r : Renderer} {home : Location} {directory : Path} {reserved : Location → Prop}
  {kept kept' : DialogueFrame → Prop} {picture : DialogueFrame → Content}
  {stored : List DialogueFrame} {t u : FileTree} {images images' : ImageStore} {c : RenderCache}
  {p q : Session} {d : DialogueFrame} {f : Frame} {out : String} {content : Content} {n : Nat}

theorem Shelved.congr {picture' : DialogueFrame → Content}
    (h : Shelved home directory picture stored t)
    (same : ∀ e ∈ stored, picture' e.bare = picture e.bare) :
    Shelved home directory picture' stored t where
  home_eq := h.home_eq
  names := h.names
  files := h.files
  hashed := h.hashed
  drawings := by
    intro e n he hn
    rw [same e he]
    exact h.drawings he hn

namespace Stock

variable (h : Stock r home directory kept picture stored t images c)

include h

theorem imp (himp : ∀ e, kept e → kept' e) : Stock r home directory kept' picture stored t images c :=
  ⟨h.sound, h.isDirectory, h.flat, fun he => himp _ (h.kept he), h.redrawn⟩

theorem within (hwithin : images.Within images') :
    Stock r home directory kept picture stored t images' c := by
  refine ⟨h.sound, h.isDirectory, h.flat, h.kept, fun he s hs => ?_⟩
  exact h.redrawn he s (hwithin.trans hs)

/-- A file that is written is neither the directory nor a directory in it. -/
theorem keeps_directories (hwrite : t.write out content = .ok u) :
    u.isDirectory directory.text = true ∧
      ∀ {l s}, place home directory <+: l → u.get? (l ++ [s]) ≠ some .directory := by
  obtain ⟨l, hlocate, hl⟩ := FileTree.isDirectory_iff.1 h.isDirectory
  have hkeeps := FileTree.keeps_write hwrite
  refine ⟨FileTree.isDirectory_iff.2 ⟨l, hkeeps.locate hlocate, hkeeps.directory hl⟩, ?_⟩
  intro m s hm
  obtain ⟨target, -, -, htarget, rfl⟩ := FileTree.write_eq_ok_iff.1 hwrite
  rw [FileTree.get?_put t target _ _ (FileTree.not_above_of_get?_ne htarget)]
  split
  · simp
  · exact h.flat hm

theorem write (proper : directory.Proper) (hwrite : t.write out content = .ok u)
    (outside : ¬place home directory <+: destination home out) :
    Stock r home directory kept picture stored u images c := by
  obtain ⟨hdirectory, hflat⟩ := h.keeps_directories hwrite
  exact ⟨h.sound.write proper hwrite outside, hdirectory, hflat, h.kept, h.redrawn⟩

theorem store (proper : directory.Proper) (hn : d.fingerprint? = some n)
    (hmissing : c.lookup n = none) (hredrawn : Redrawn r images d content)
    (hwrite : t.write (fileOf directory n).text content = .ok u) :
    Stock r home directory (fun e => kept e ∨ e = d) (Function.update picture d.bare content)
      (stored ++ [d]) u images { c with index := keep n (fileOf c.directory n) c.index } := by
  obtain ⟨hdirectory, hflat⟩ := h.keeps_directories hwrite
  have hother : ∀ e ∈ stored, Function.update picture d.bare content e.bare = picture e.bare := by
    intro e he
    apply Function.update_of_ne
    intro hbare
    exact h.sound.not_stored_of_lookup hn hmissing ⟨e, he, hbare⟩
  have hsound : Sound home directory (Function.update picture d.bare content) (stored ++ [d])
      stored t c :=
    ⟨h.sound.shelved.congr hother, h.sound.indexed, fun e he => List.mem_append_left _ he,
      h.sound.nodup⟩
  refine ⟨hsound.store proper (by simp) hn hmissing ?_, hdirectory, hflat, ?_, ?_⟩
  · rw [Function.update_self]
    exact hwrite
  · intro e he
    rcases List.mem_append.1 he with he | he
    · exact Or.inl (h.kept he)
    · exact Or.inr (List.mem_singleton.1 he)
  · intro e he
    rcases List.mem_append.1 he with he | he
    · rw [hother e he]
      exact h.redrawn he
    · rw [List.mem_singleton.1 he, Function.update_self]
      exact hredrawn

theorem served (hn : d.fingerprint? = some n) {file : Path} (hfile : c.lookup n = some file)
    (same : ∀ e, kept e → e.fingerprint? = some n → e = d) :
    file = fileOf directory n ∧ d ∈ stored ∧
      t.read (fileOf directory n).text = .ok (picture d.bare) := by
  obtain ⟨e, he, m, hm, hnm, rfl⟩ := h.sound.indexed.lookup.1 hfile
  obtain rfl := Int.ofNat.inj hnm
  obtain rfl := same e (h.kept he) hm
  exact ⟨rfl, he, h.sound.shelved.drawings he hm⟩

end Stock

/-- What a direct rendering in sessions side by side leads to. -/
structure Rendered (r : Renderer) (home : Location) (reserved : Location → Prop) (f : Frame)
    (out : String) (p q p' q' : Session) (content : Content) : Prop where
  matched : Matched home reserved p' q'
  within : q.images.Within q'.images
  drawn : ∃ s, (r.draw f).run q = .ok content s ∧ s.images = q'.images
  written : p.files.write out content = .ok p'.files

theorem alike_render (h : Matched home reserved p q) (avoids : Avoids reserved home out)
    (hdraw : Twins.Both p.files q.files q.images ((r.draw f).run p) ((r.draw f).run q)) :
    Alike (Matched home reserved) (fun _ _ p' q' => ∃ content, Rendered r home reserved f out p q p' q' content)
      ((r.render f out).run p) ((r.render f out).run q) := by
  rw [Renderer.run_render, Renderer.run_render]
  obtain ⟨content, p₁, _, q₁, hp, hq, rfl, htwins⟩ | ⟨e, p₁, q₁, hp, hq, htwins⟩ := hdraw.cases
  · have hwithin : q.images.Within q₁.images := by
      rw [← htwins.images]
      exact htwins.kept
    simp only [hp, hq, htwins.left, htwins.right]
    obtain ⟨t', u', ht, hu, hagree⟩ | ⟨e, ht, hu⟩ := h.agree.write (h.home_eq ▸ avoids) content
    · have hhome := (FileTree.keeps_write ht).home.trans h.home_eq
      rw [ht, hu]
      exact ⟨content, ⟨hhome, hagree, htwins.console, htwins.images⟩, hwithin, ⟨q₁, hq, rfl⟩, ht⟩
    · rw [ht, hu]
      exact ⟨rfl, htwins.matched h⟩
  · rw [hp, hq]
    exact ⟨rfl, htwins.matched h⟩

namespace Mirrors

variable (h : Mirrors r home directory reserved kept c p q) (proper : directory.Proper)
  (below : ∀ l, place home directory <+: l → l ≠ place home directory → reserved l)
  (avoids : Avoids reserved home out)

include below avoids in
theorem apart (hplace : destination home (fileOf directory n).text =
      place home directory ++ [drawingName n]) :
    destination home (fileOf directory n).text ≠ destination home out := by
  intro hsame
  apply avoids.destination (t := { home })
  change reserved (destination home out)
  rw [← hsame, hplace]
  apply below _ (List.prefix_append _ _)
  simp

include h

theorem imp (himp : ∀ e, kept e → kept' e) : Mirrors r home directory reserved kept' c p q := by
  obtain ⟨picture, stored, hstock⟩ := h.stock
  exact ⟨h.matched, picture, stored, hstock.imp himp⟩

theorem home_eq : p.files.home = home :=
  h.matched.home_eq

include below avoids

/-- What can be written outside of the reserved places is not at the place of the cache either. -/
theorem outside (hwrite : p.files.write out content = .ok t) :
    ¬place home directory <+: destination home out := by
  obtain ⟨picture, stored, hstock⟩ := h.stock
  intro hprefix
  obtain ⟨l, hlocate, -, hfree, -⟩ := FileTree.write_eq_ok_iff.1 hwrite
  have hl := FileTree.eq_destination_of_locate hlocate
  rw [h.home_eq] at hl
  have hout : ¬reserved (destination home out) := avoids.destination (t := { home })
  have hplace : l = place home directory := by
    rw [hl]
    by_contra hne
    exact hout (below _ hprefix hne)
  obtain ⟨m, hm, hdirectory⟩ := FileTree.isDirectory_iff.1 hstock.isDirectory
  have hmplace := FileTree.eq_destination_of_locate hm
  rw [h.home_eq] at hmplace
  rw [hplace] at hfree
  rw [hmplace] at hdirectory
  exact hfree hdirectory

include proper

theorem render_choice {g : ChoiceFrame}
    (hdraw : Twins.Both p.files q.files q.images ((r.draw (.choice g)).run p)
      ((r.draw (.choice g)).run q)) :
    Alike (Matched home reserved) (fun x _ p' q' => Mirrors r home directory reserved kept x.1 p' q')
      ((c.render r (.choice g) out).run p) ((r.render (.choice g) out).run q) := by
  have halike := alike_render h.matched avoids hdraw
  rw [run_render_choice]
  obtain ⟨_, p', _, q', hp, hq, content, hrendered⟩ | ⟨e, p', q', hp, hq, hmatched⟩ := halike.cases
  · obtain ⟨picture, stored, hstock⟩ := h.stock
    have houtside := h.outside below avoids hrendered.written
    have hstock' := hstock.write proper hrendered.written houtside
    rw [hp, hq]
    exact ⟨hrendered.matched, picture, stored, hstock'.within hrendered.within⟩
  · rw [hp, hq]
    exact ⟨rfl, hmatched⟩

/-- A frame that is kept is drawn again by the second session and served in the first, so the drawing
is the same. -/
theorem render_of_kept (hslash : endsInSlash out = false) (hn : d.fingerprint? = some n)
    (same : ∀ e, kept e → e.fingerprint? = some n → e = d) {file : Path}
    (hfile : c.lookup n = some file) :
    Alike (Matched home reserved) (fun x _ p' q' => Mirrors r home directory reserved kept x.1 p' q')
      ((c.render r (.dialogue d) out).run p) ((r.render (.dialogue d) out).run q) := by
  obtain ⟨picture, stored, hstock⟩ := h.stock
  obtain ⟨rfl, hd, hread⟩ := hstock.served hn hfile same
  have hapart := apart below avoids (destination_fileOf proper home n)
  rw [← h.home_eq] at hapart
  have hcopy : p.files.copy (.path (fileOf directory n)) (.plain out) =
      p.files.write out (picture d.bare) := FileTree.copy_eq_write hread hapart hslash
  obtain ⟨journal, hp⟩ := run_render_of_kept r out p hn hfile
  obtain ⟨journal', hq⟩ := hstock.redrawn hd q (.refl _)
  rw [hcopy] at hp
  have hquiet := h.matched.agree.write (h.home_eq ▸ avoids) (picture d.bare)
  obtain ⟨t, u, ht, hu, hagree⟩ | ⟨e, ht, hu⟩ := hquiet
  · have hright : (r.render (.dialogue d) out).run q =
        .ok () { q with files := u, journal := journal' } := by
      rw [Renderer.run_render, hq]
      simp only [hu]
    rw [ht] at hp
    rw [hp, hright]
    have hhome := (FileTree.keeps_write ht).home.trans h.home_eq
    refine ⟨⟨hhome, hagree, h.matched.console, h.matched.images⟩, picture, stored, ?_⟩
    exact hstock.write proper ht (h.outside below avoids ht)
  · have hright : (r.render (.dialogue d) out).run q =
        .error (.file e) { q with journal := journal' } := by
      rw [Renderer.run_render, hq]
      simp only [hu]
    rw [ht] at hp
    rw [hp, hright]
    exact ⟨rfl, h.home_eq, h.matched.agree, h.matched.console, h.matched.images⟩

theorem exists_store (hn : d.fingerprint? = some n) (room : HasRoom directory n)
    (hmissing : c.lookup n = none) (hread : p.files.read out = .ok content)
    (hagain : Redrawn r q.images d content) :
    ∃ c' u, (c.store n (.plain out)).run p = .ok c' { p with files := u } ∧
      Mirrors r home directory reserved (fun e => kept e ∨ e = d) c' { p with files := u } q := by
  obtain ⟨picture, stored, hstock⟩ := h.stock
  have hfree : p.files.get? (place p.files.home directory ++ [drawingName n]) ≠
      some .directory := by
    rw [h.home_eq]
    exact hstock.flat List.prefix_rfl
  have hdigits : n < 10 ^ 20 := Nat.lt_trans (fingerprint?_lt hn) (by decide)
  obtain ⟨u, hwrite⟩ := exists_write_fileOf proper hstock.isDirectory hdigits room hfree content
  have hplace := destination_fileOf proper p.files.home n
  have hslash : endsInSlash (fileOf directory n).text = false := by
    rw [fileOf_eq]
    exact Path.endsInSlash_text_child directory (isName_drawingName n).toIsPart
  have hreserved : reserved (destination p.files.home (fileOf directory n).text) := by
    rw [hplace, h.home_eq]
    apply below _ (List.prefix_append _ _)
    simp
  rw [h.home_eq] at hplace
  have hapart := apart below avoids hplace
  rw [← h.home_eq] at hapart
  have hcopy : p.files.copy (.plain out) (.path (fileOf directory n)) =
      p.files.write (fileOf directory n).text content :=
    FileTree.copy_eq_write hread hapart.symm hslash
  have hrun : (c.store n (.plain out)).run p =
      .ok { c with index := keep n (fileOf c.directory n) c.index } { p with files := u } := by
    rw [run_store, hstock.sound.indexed.directory_eq, hcopy, hwrite]
  refine ⟨_, u, hrun, ?_, Function.update picture d.bare content, stored ++ [d], ?_⟩
  · exact ⟨(FileTree.keeps_write hwrite).home.trans h.home_eq,
      h.matched.agree.write_reserved hwrite hreserved, h.matched.console, h.matched.images⟩
  · exact hstock.store proper hn hmissing hagain hwrite

/-- A frame that is not kept is drawn alike by both sessions, and the first keeps it. -/
theorem render_of_missing (hn : d.fingerprint? = some n) (room : HasRoom directory n)
    (hmissing : c.lookup n = none)
    (hdraw : ∀ p', Twins p.files q.files q.images p' q →
      Twins.Both p.files q.files q.images ((r.draw (.dialogue d)).run p')
        ((r.draw (.dialogue d)).run q))
    (again : ∀ content s, (r.draw (.dialogue d)).run q = .ok content s →
      Redrawn r s.images d content) :
    Alike (Matched home reserved)
      (fun x _ p' q' => Mirrors r home directory reserved (fun e => kept e ∨ e = d) x.1 p' q')
      ((c.render r (.dialogue d) out).run p) ((r.render (.dialogue d) out).run q) := by
  obtain ⟨journal, hp⟩ := run_render_of_missing r out p hn hmissing
  have htwins : Twins p.files q.files q.images { p with journal } q :=
    h.matched.twins.of_journal journal q.journal
  have halike := alike_render (htwins.matched h.matched) avoids (hdraw _ htwins)
  obtain ⟨_, p', _, q', hleft, hright, content, hrendered⟩ | ⟨e, p', q', hleft, hright, hmatched⟩ :=
    halike.cases
  · obtain ⟨picture, stored, hstock⟩ := h.stock
    have hstock' := (hstock.write proper hrendered.written
      (h.outside below avoids hrendered.written)).within hrendered.within
    obtain ⟨s, hdrawn, himages⟩ := hrendered.drawn
    have hagain := again content s hdrawn
    rw [himages] at hagain
    have hmirrors : Mirrors r home directory reserved kept c p' q' :=
      ⟨hrendered.matched, picture, stored, hstock'⟩
    obtain ⟨c', u, hstore, hkept⟩ := hmirrors.exists_store proper below avoids hn room hmissing
      (FileTree.read_of_write hrendered.written) hagain
    rw [hleft] at hp
    simp only [hstore] at hp
    rw [hp, hright]
    exact hkept
  · rw [hleft] at hp
    rw [hp, hright]
    exact ⟨rfl, hmatched⟩

/-- A frame is rendered alike through the cache and directly, and then it is kept. -/
theorem render_dialogue (hslash : endsInSlash out = false) (hn : d.fingerprint? = some n)
    (room : HasRoom directory n) (same : ∀ e, kept e → e.fingerprint? = some n → e = d)
    (hdraw : ∀ p', Twins p.files q.files q.images p' q →
      Twins.Both p.files q.files q.images ((r.draw (.dialogue d)).run p')
        ((r.draw (.dialogue d)).run q))
    (again : ∀ content s, (r.draw (.dialogue d)).run q = .ok content s →
      Redrawn r s.images d content) :
    Alike (Matched home reserved)
      (fun x _ p' q' => Mirrors r home directory reserved (fun e => kept e ∨ e = d) x.1 p' q')
      ((c.render r (.dialogue d) out).run p) ((r.render (.dialogue d) out).run q) := by
  cases hfile : c.lookup n with
  | none => exact h.render_of_missing proper below avoids hn room hfile hdraw again
  | some file =>
    have halike := h.render_of_kept proper below avoids hslash hn same hfile
    apply halike.imp (fun _ _ hmatched => hmatched)
    intro x _ p' q' hmirrors
    exact hmirrors.imp fun _ => Or.inl

end Mirrors

/-- Where entries may differ once a cache is in use: below its directory, and wherever enabling it has
made a directory. -/
def Reserved (directory : Path) (t u : FileTree) (l : Location) : Prop :=
  place t.home directory <+: l ∧ l ≠ place t.home directory ∨ u.get? l ≠ t.get? l

theorem agree_reserved (directory : Path) (home : u.home = t.home) :
    Agree (Reserved directory t u) u t := by
  refine ⟨home.symm, fun l hl => ?_⟩
  by_contra hne
  exact hl (Or.inr (Ne.symm hne))

/-- Enabling a cache makes directories at most; where it finds no entries it keeps nothing. -/
theorem sound_enabled {directory : String} {s s' : Session}
    (enabled : (enable { directory := Path.ofText directory }).run s = .ok c s')
    (vacant : Run.Vacant directory s') (picture : DialogueFrame → Content) :
    FileTree.AddsDirectories s.files s'.files ∧
      s'.files.isDirectory (Path.ofText directory).text = true ∧
      Sound s.files.home (Path.ofText directory) picture [] [] s'.files c ∧
      s'.console = s.console ∧ s'.images = s.images := by
  cases hensure : s.files.ensureDirectory (Path.ofText directory) with
  | error e =>
    rw [run_enable_of_error hensure] at enabled
    cases enabled
  | ok t =>
    obtain ⟨names, journal, -, hrun⟩ :=
      run_enable_of_ok (c := { directory := Path.ofText directory }) hensure
    obtain ⟨hadds, hdirectory⟩ := FileTree.addsDirectories_ensureDirectory hensure
    rw [hrun] at enabled
    cases enabled
    have hvacant : Run.Vacant directory s := by
      intro l name hl
      have hnone := vacant l name (hadds.home ▸ hl)
      rcases hadds.get? (l ++ [name]) with hget | ⟨-, hget, -⟩
      · rw [← hget]
        exact hnone
      · rw [hget] at hnone
        cases hnone
    have hopening : Sound s.files.home (Path.ofText directory) picture [] [] s.files
        { directory := Path.ofText directory } :=
      Run.holds_opening hvacant [] picture
    have hsound := hopening.enable (Path.proper_ofText directory)
      { directory := Path.ofText directory } rfl
    rw [hrun] at hsound
    exact ⟨hadds, hdirectory, hsound.1, rfl, rfl⟩

/-- A session in which a cache has been enabled on a directory without entries, beside the session
without it. -/
theorem mirrors_enabled {directory : String} {s s' : Session}
    (enabled : (enable { directory := Path.ofText directory }).run s = .ok c s')
    (vacant : Run.Vacant directory s') (r : Renderer) (kept : DialogueFrame → Prop) :
    Mirrors r s.files.home (Path.ofText directory)
      (Reserved (Path.ofText directory) s.files s'.files) kept c s' s := by
  obtain ⟨hadds, hdirectory, hsound, hconsole, himages⟩ :=
    sound_enabled enabled vacant fun _ => .bytes []
  refine ⟨⟨hadds.home, agree_reserved _ hadds.home, hconsole, himages⟩, fun _ => .bytes [], [],
    hsound, hdirectory, ?_, ?_, ?_⟩
  · intro l name hl hget
    have hnone := vacant l name (hadds.home ▸ hl)
    rw [hget] at hnone
    cases hnone
  · intro e he
    cases he
  · intro e he
    cases he

/-- A drawing that has no room cannot be stored, so a frame that is not kept cannot be rendered. -/
theorem run_render_of_not_hasRoom (r : Renderer) (out : String) (s : Session)
    (hn : d.fingerprint? = some n) (hmissing : c.lookup n = none)
    (room : ¬HasRoom c.directory n) :
    ∃ e s', (c.render r (.dialogue d) out).run s = .error e s' := by
  obtain ⟨journal, hrun⟩ := run_render_of_missing r out s hn hmissing
  cases hrender : (r.render (.dialogue d) out).run { s with journal } with
  | error e s' =>
    rw [hrender] at hrun
    exact ⟨e, s', hrun⟩
  | ok _ s' =>
    have hstore := run_store c n (.plain out) s'
    cases hcopy : s'.files.copy (.plain out) (.path (fileOf c.directory n)) with
    | error e =>
      rw [hcopy] at hstore
      rw [hrender] at hrun
      simp only [hstore] at hrun
      exact ⟨_, _, hrun⟩
    | ok u =>
      obtain ⟨content, -, hwrite⟩ := FileTree.exists_of_copy hcopy
      obtain ⟨l, hlocate, -⟩ := FileTree.write_eq_ok_iff.1 hwrite
      exact absurd (FileTree.locate_eq_ok_iff.1 hlocate).2.2.1 room

end VisualNovel.RenderCache
