import VisualNovel.Proofs.Cache.Run

/-!
# What a cache keeps

The files below the directory of a cache are the drawings of the frames that were stored, and the
index holds exactly the files of these frames. Writing elsewhere, storing one more frame and reading
the index again each keep both.
-/
namespace VisualNovel.RenderCache

open FileTree (AddsDirectories destination)

def place (home : Location) (directory : Path) : Location :=
  destination home directory.text

/-- The files below the directory of a cache are the drawings of the stored frames. -/
structure Shelved (home : Location) (directory : Path) (picture : DialogueFrame → Content)
    (stored : List DialogueFrame) (t : FileTree) : Prop where
  home_eq : t.home = home
  names : ∀ {l s}, place home directory <+: l → t.get? (l ++ [s]) ≠ none → Path.IsName s
  files : ∀ {l s c}, place home directory <+: l → t.get? (l ++ [s]) = some (.file c) →
    l = place home directory ∧
      ∃ d ∈ stored, ∃ n, d.fingerprint? = some n ∧ s = drawingName n
  hashed : ∀ {d}, d ∈ stored → ∃ n, d.fingerprint? = some n
  drawings : ∀ {d n}, d ∈ stored → d.fingerprint? = some n →
    t.read (fileOf directory n).text = .ok (picture d.bare)

/-- The index of a cache holds the files of the stored frames. -/
structure Indexed (directory : Path) (stored : List DialogueFrame) (c : RenderCache) : Prop where
  directory_eq : c.directory = directory
  lookup : ∀ {k p}, c.lookup k = some p ↔
    ∃ d ∈ stored, ∃ n : Nat, d.fingerprint? = some n ∧ k = n ∧ p = fileOf directory n

variable {home : Location} {directory : Path} {picture : DialogueFrame → Content}
  {stored : List DialogueFrame} {t u : FileTree} {c : RenderCache} {d : DialogueFrame} {n : Nat}

/-- The file of a fingerprint is found only in the directory of the cache. -/
theorem locate_directory_of_locate_fileOf (proper : directory.Proper) {l : Location}
    (h : t.locate (fileOf directory n).text = .ok l) :
    t.isDirectory directory.text = true ∧ l = place t.home directory ++ [drawingName n] := by
  rw [fileOf_eq] at h
  obtain ⟨m, hm, hdirectory, rfl⟩ :=
    Path.locate_of_locate_child proper (isName_drawingName n) h
  refine ⟨FileTree.isDirectory_iff.2 ⟨m, hm, hdirectory⟩, ?_⟩
  rw [place, FileTree.eq_destination_of_locate hm]

theorem destination_fileOf (proper : directory.Proper) (home : Location) (n : Nat) :
    destination home (fileOf directory n).text = place home directory ++ [drawingName n] := by
  rw [fileOf_eq, Path.destination_child proper (isName_drawingName n)]
  rfl

namespace Shelved

variable (h : Shelved home directory picture stored t)

include h

theorem isDirectory (proper : directory.Proper) (hd : d ∈ stored)
    (hn : d.fingerprint? = some n) : t.isDirectory directory.text = true := by
  obtain ⟨l, hlocate, -⟩ := FileTree.read_eq_ok_iff.1 (h.drawings hd hn)
  exact (locate_directory_of_locate_fileOf proper hlocate).1

theorem write (proper : directory.Proper) {out : String} {content : Content}
    (hwrite : t.write out content = .ok u)
    (outside : ¬place home directory <+: destination home out) :
    Shelved home directory picture stored u where
  home_eq := (FileTree.keeps_write hwrite).home.trans h.home_eq
  names := by
    intro l s hl hs
    rw [FileTree.get?_of_write hwrite] at hs
    · exact h.names hl hs
    · intro hout
      rw [h.home_eq] at hout
      exact outside (hout ▸ hl.trans (List.prefix_append l [s]))
  files := by
    intro l s content hl hs
    rw [FileTree.get?_of_write hwrite] at hs
    · exact h.files hl hs
    · intro hout
      rw [h.home_eq] at hout
      exact outside (hout ▸ hl.trans (List.prefix_append l [s]))
  hashed := h.hashed
  drawings := by
    intro d n hd hn
    refine FileTree.read_of_write_of_ne hwrite (h.drawings hd hn) ?_
    rw [h.home_eq, destination_fileOf proper]
    intro hout
    exact outside (hout ▸ List.prefix_append _ _)

/-- One more drawing is stored under a fingerprint that is not taken. -/
theorem store (proper : directory.Proper) (hn : d.fingerprint? = some n)
    (new : ∀ e ∈ stored, e.fingerprint? ≠ some n)
    (hwrite : t.write (fileOf directory n).text (picture d.bare) = .ok u) :
    Shelved home directory picture (stored ++ [d]) u := by
  have hplace := destination_fileOf proper t.home n
  rw [h.home_eq] at hplace
  have hget {m : Location} (hm : m ≠ place home directory ++ [drawingName n]) :
      u.get? m = t.get? m := by
    refine FileTree.get?_of_write hwrite ?_
    rwa [h.home_eq, hplace]
  refine ⟨(FileTree.keeps_write hwrite).home.trans h.home_eq, ?_, ?_, ?_, ?_⟩
  · intro l s hl hs
    by_cases hsame : l ++ [s] = place home directory ++ [drawingName n]
    · rw [(List.append_singleton_inj.1 hsame).2]
      exact isName_drawingName n
    · rw [hget hsame] at hs
      exact h.names hl hs
  · intro l s content hl hs
    by_cases hsame : l ++ [s] = place home directory ++ [drawingName n]
    · obtain ⟨hl, hname⟩ := List.append_singleton_inj.1 hsame
      exact ⟨hl, d, by simp, n, hn, hname⟩
    · rw [hget hsame] at hs
      obtain ⟨hl, e, he, hfile⟩ := h.files hl hs
      exact ⟨hl, e, List.mem_append_left _ he, hfile⟩
  · intro e he
    rcases List.mem_append.1 he with he | he
    · exact h.hashed he
    · rw [List.mem_singleton.1 he]
      exact ⟨n, hn⟩
  · intro e k he hk
    rcases List.mem_append.1 he with he | he
    · refine FileTree.read_of_write_of_ne hwrite (h.drawings he hk) ?_
      rw [h.home_eq, hplace, destination_fileOf proper]
      intro hsame
      rw [drawingName_inj (List.append_singleton_inj.1 hsame).2] at hk
      exact new e he hk
    · rw [List.mem_singleton.1 he] at hk ⊢
      rw [hn] at hk
      rw [← Option.some.inj hk]
      exact FileTree.read_of_write hwrite

theorem addsDirectories (hadds : AddsDirectories t u) :
    Shelved home directory picture stored u where
  home_eq := hadds.home.trans h.home_eq
  names := by
    intro l s hl hs
    rcases hadds.get? (l ++ [s]) with hget | ⟨-, -, m, s', hsplit, hname⟩
    · rw [hget] at hs
      exact h.names hl hs
    · rw [(List.append_singleton_inj.1 hsplit).2]
      exact hname
  files := by
    intro l s content hl hs
    exact h.files hl (hadds.get?_file.1 hs)
  hashed := h.hashed
  drawings := fun hd hn => hadds.read (h.drawings hd hn)

/-- A file in the directory that names a fingerprint is the drawing of a stored frame. -/
theorem fileOf_of_isFile (proper : directory.Proper) {name : String} (hname : Path.IsName name)
    (hfile : t.isFile (directory.child name).text = true)
    (hn : fingerprintOf? (directory.child name) = some n) :
    ∃ d ∈ stored, d.fingerprint? = some n ∧ directory.child name = fileOf directory n := by
  obtain ⟨l, content, hlocate, hget, -⟩ := FileTree.isFile_iff.1 hfile
  obtain ⟨m, hm, -, rfl⟩ := Path.locate_of_locate_child proper hname hlocate
  have hplace : place home directory <+: m := by
    rw [FileTree.eq_destination_of_locate hm, h.home_eq]
    exact List.prefix_rfl
  obtain ⟨-, d, hd, k, hk, rfl⟩ := h.files hplace hget
  rw [fingerprintOf?_child, Option.some.injEq] at hn
  exact ⟨d, hd, hn ▸ hk, hn ▸ (fileOf_eq directory k).symm⟩

theorem isFile_fileOf (hd : d ∈ stored) (hn : d.fingerprint? = some n) :
    t.isFile (fileOf directory n).text = true := by
  obtain ⟨l, hlocate, hfile, hslash⟩ := FileTree.read_eq_ok_iff.1 (h.drawings hd hn)
  exact FileTree.isFile_iff.2 ⟨l, _, hlocate, hfile, hslash⟩

/-- The index that is read from the directory holds the files of the stored frames. -/
theorem indexed_scan {names : List String} (proper : directory.Proper)
    (hdirectory : t.isDirectory directory.text = true)
    (hnames : t.list directory.text = .ok names) (hc : c.directory = directory) :
    Indexed directory stored
      { c with index := scan t [] (names.map directory.child), enabled := true } := by
  obtain ⟨l, hlocate, hl⟩ := FileTree.isDirectory_iff.1 hdirectory
  obtain ⟨listed, hlisted, hlist⟩ := FileTree.list_of_isDirectory hlocate hl
  obtain rfl : names = listed := Except.ok.inj (hnames.symm.trans hlisted)
  have hplace : l = place home directory := by
    rw [FileTree.eq_destination_of_locate hlocate, h.home_eq]
    rfl
  have hfound : ∀ {k p}, (scan t [] (names.map directory.child)).lookup k = some p →
      ∃ d ∈ stored, ∃ n : Nat, d.fingerprint? = some n ∧ k = n ∧ p = fileOf directory n := by
    intro k p
    refine of_lookup_scan (P := fun k p => ∃ d ∈ stored, ∃ n : Nat,
      d.fingerprint? = some n ∧ k = n ∧ p = fileOf directory n) (fun k p hnil => ?_) ?_
    · cases hnil
    intro file hfile n hn hisFile
    obtain ⟨name, hname, rfl⟩ := List.mem_map.1 hfile
    have hproper : Path.IsName name := h.names (hplace ▸ List.prefix_rfl) ((hlist name).1 hname)
    obtain ⟨d, hd, hdn, heq⟩ := h.fileOf_of_isFile proper hproper hisFile hn
    exact ⟨d, hd, n, hdn, rfl, heq⟩
  refine ⟨hc, fun {k p} => ⟨hfound, ?_⟩⟩
  rintro ⟨d, hd, n, hn, rfl, rfl⟩
  obtain ⟨m, hm, hfile, -⟩ := FileTree.read_eq_ok_iff.1 (h.drawings hd hn)
  rw [(locate_directory_of_locate_fileOf proper hm).2, h.home_eq, ← hplace] at hfile
  have hmem : fileOf directory n ∈ names.map directory.child := by
    rw [fileOf_eq]
    exact List.mem_map_of_mem ((hlist _).2 (by simp [hfile]))
  have hnamed : fingerprintOf? (fileOf directory n) = some n := by
    rw [fileOf_eq]
    exact fingerprintOf?_child directory n
  obtain ⟨p, hp⟩ := Option.isSome_iff_exists.1
    (isSome_lookup_scan [] hmem hnamed (h.isFile_fileOf hd hn))
  obtain ⟨e, -, m, -, hm, rfl⟩ := hfound hp
  rw [Int.ofNat.inj hm]
  rw [Int.ofNat.inj hm] at hp
  exact hp

end Shelved

namespace Indexed

variable (h : Indexed directory stored c)

include h

theorem lookup_of_mem (hd : d ∈ stored) (hn : d.fingerprint? = some n) :
    c.lookup n = some (fileOf directory n) :=
  h.lookup.2 ⟨d, hd, n, hn, rfl, rfl⟩

theorem keep (hn : d.fingerprint? = some n) :
    Indexed directory (stored ++ [d])
      { c with index := keep n (fileOf c.directory n) c.index } where
  directory_eq := h.directory_eq
  lookup := by
    intro k p
    have hlookup : RenderCache.lookup
        { c with index := RenderCache.keep n (fileOf c.directory n) c.index } k =
          if k = n then some (fileOf directory n) else c.lookup k := by
      rw [← h.directory_eq]
      exact lookup_keep n k _ c.index
    rw [hlookup]
    by_cases hk : k = n
    · rw [if_pos hk]
      constructor
      · intro hp
        exact ⟨d, by simp, n, hn, hk, (Option.some.inj hp).symm⟩
      · rintro ⟨e, -, m, -, hm, rfl⟩
        rw [← hk, hm]
    · rw [if_neg hk, h.lookup]
      constructor
      · rintro ⟨e, he, rest⟩
        exact ⟨e, List.mem_append_left _ he, rest⟩
      · rintro ⟨e, he, m, hm, rfl, rfl⟩
        rcases List.mem_append.1 he with he | he
        · exact ⟨e, he, m, hm, rfl, rfl⟩
        · rw [List.mem_singleton.1 he, hn] at hm
          cases hm
          exact absurd rfl hk

end Indexed

theorem indexed_nil (directory : Path) : Indexed directory [] { directory } where
  directory_eq := rfl
  lookup := by
    intro k p
    simp [RenderCache.lookup]

end VisualNovel.RenderCache
