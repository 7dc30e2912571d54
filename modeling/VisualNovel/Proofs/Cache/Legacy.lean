import VisualNovel.Proofs.Cache.Shelf
import VisualNovel.Proofs.Files.Apart

/-!
# What a cache leaves to the next one

A cache serves whatever stands in its directory under the name of a fingerprint, no matter which call
left it there. So what counts is that every such file is genuine for the fingerprint. Drawings that are
made elsewhere, directories and files that disappear do not matter to that, and storing a genuine
drawing keeps it.
-/
namespace VisualNovel.RenderCache

open FileTree (AddsDirectories destination)

/-- What stands in the directory of a cache has proper names, and every file whose name writes a
fingerprint is genuine for it. -/
structure Truthful (genuine : Nat → Content → Prop) (place : Location) (t : FileTree) : Prop where
  names : ∀ {s}, t.get? (place ++ [s]) ≠ none → Path.IsName s
  files : ∀ {s n c}, t.get? (place ++ [s]) = some (.file c) → fingerprintOf? ⟨"", [s]⟩ = some n →
    genuine n c

/-- What a cache finds are files in its directory whose names write their fingerprints. -/
structure Finds (directory : Path) (c : RenderCache) : Prop where
  directory_eq : c.directory = directory
  named : ∀ {k file}, c.lookup k = some file →
    ∃ s n, Path.IsName s ∧ fingerprintOf? ⟨"", [s]⟩ = some n ∧ k = n ∧ file = directory.child s

variable {genuine : Nat → Content → Prop} {directory : Path} {l : Location} {t u : FileTree}
  {c : RenderCache} {n : Nat} {path : String} {content : Content}

theorem truthful_of_vacant (vacant : ∀ s, t.get? (l ++ [s]) = none) : Truthful genuine l t where
  names := fun {s} hsome => absurd (vacant s) hsome
  files := by
    intro s n c hfile
    rw [vacant s] at hfile
    cases hfile

namespace Truthful

variable (h : Truthful genuine l t)

include h

theorem of_get? (hu : ∀ s e, u.get? (l ++ [s]) = some e →
    t.get? (l ++ [s]) = some e ∨ e = .directory ∧ Path.IsName s) : Truthful genuine l u where
  names := by
    intro s hsome
    obtain ⟨e, he⟩ := Option.ne_none_iff_exists'.1 hsome
    rcases hu s e he with ht | ⟨-, hname⟩
    · exact h.names (by simp [ht])
    · exact hname
  files := by
    intro s n c hfile hn
    rcases hu s _ hfile with ht | ⟨hdirectory, -⟩
    · exact h.files ht hn
    · cases hdirectory

theorem imp {genuine' : Nat → Content → Prop} (himp : ∀ n c, genuine n c → genuine' n c) :
    Truthful genuine' l t where
  names := h.names
  files := fun hfile hn => himp _ _ (h.files hfile hn)

theorem of_directories (hu : ∀ m e, u.get? m = some e →
    t.get? m = some e ∨ e = .directory ∧ ∃ r s, m = r ++ [s] ∧ Path.IsName s) :
    Truthful genuine l u := by
  apply h.of_get?
  intro s e he
  rcases hu _ e he with ht | ⟨hnew, r, s', hsplit, hname⟩
  · exact Or.inl ht
  · rw [(List.append_singleton_inj.1 hsplit).2]
    exact Or.inr ⟨hnew, hname⟩

theorem addsDirectories (hadds : AddsDirectories t u) : Truthful genuine l u := by
  apply h.of_directories
  intro m e he
  rcases hadds.get? m with hget | ⟨-, hget, hname⟩
  · exact Or.inl (hget.symm.trans he)
  · exact Or.inr ⟨(Option.some.inj (hget.symm.trans he)).symm, hname⟩

/-- What is written in the directory under the name of a fingerprint must be genuine. -/
theorem write (hwrite : t.write path content = .ok u) {m : Location} {s : String}
    (hdestination : destination t.home path = m ++ [s]) (hname : Path.IsName s)
    (hgenuine : ∀ n, fingerprintOf? ⟨"", [s]⟩ = some n → genuine n content) :
    Truthful genuine l u := by
  have hself := FileTree.get?_of_write_self hwrite
  have hother : ∀ r, r ≠ m ++ [s] → u.get? r = t.get? r := by
    intro r hr
    rw [← hdestination] at hr
    exact FileTree.get?_of_write hwrite hr
  rw [hdestination] at hself
  constructor
  · intro r hsome
    by_cases hr : l ++ [r] = m ++ [s]
    · rw [(List.append_singleton_inj.1 hr).2]
      exact hname
    · rw [hother _ hr] at hsome
      exact h.names hsome
  · intro r n c hfile hn
    by_cases hr : l ++ [r] = m ++ [s]
    · rw [hr, hself] at hfile
      cases hfile
      rw [(List.append_singleton_inj.1 hr).2] at hn
      exact hgenuine n hn
    · rw [hother _ hr] at hfile
      exact h.files hfile hn

end Truthful

namespace Finds

variable (h : Finds directory c)

include h

theorem keep (n : Nat) :
    Finds directory { c with index := RenderCache.keep n (fileOf c.directory n) c.index } where
  directory_eq := h.directory_eq
  named := by
    intro k file hfile
    rw [RenderCache.lookup, lookup_keep] at hfile
    split at hfile
    · rename_i hk
      refine ⟨drawingName n, n, isName_drawingName n, fingerprintOf?_drawingName n, hk, ?_⟩
      rw [← Option.some.inj hfile, h.directory_eq, fileOf_eq]
    · exact h.named hfile

theorem served (htruthful : Truthful genuine (place t.home directory) t) (proper : directory.Proper)
    {file : Path} (hfile : c.lookup n = some file) (hread : t.read file.text = .ok content) :
    genuine n content := by
  obtain ⟨s, m, hname, hm, hn, rfl⟩ := h.named hfile
  obtain ⟨target, hlocate, hget, -⟩ := FileTree.read_eq_ok_iff.1 hread
  obtain ⟨above, habove, -, rfl⟩ := Path.locate_of_locate_child proper hname hlocate
  rw [FileTree.eq_destination_of_locate habove] at hget
  rw [Int.ofNat.inj hn]
  exact htruthful.files hget hm

end Finds

/-- The index of a directory whose entries have proper names finds files in it. -/
theorem Truthful.finds_scan (h : Truthful genuine (place t.home directory) t)
    (hdirectory : t.isDirectory directory.text = true) {names : List String}
    (hnames : t.list directory.text = .ok names) :
    Finds directory
      { directory, index := scan t [] (names.map directory.child), enabled := true } where
  directory_eq := rfl
  named := by
    obtain ⟨m, hlocate, hm⟩ := FileTree.isDirectory_iff.1 hdirectory
    obtain ⟨listed, hlisted, hmem⟩ := FileTree.list_of_isDirectory hlocate hm
    obtain rfl : names = listed := Except.ok.inj (hnames.symm.trans hlisted)
    have hplace : m = place t.home directory := FileTree.eq_destination_of_locate hlocate
    intro k file
    refine of_lookup_scan (P := fun k file => ∃ s n, Path.IsName s ∧
      fingerprintOf? ⟨"", [s]⟩ = some n ∧ k = (n : Int) ∧ file = directory.child s)
      (fun _ _ hnil => ?_) ?_
    · cases hnil
    · intro file hfile n hn _
      obtain ⟨s, hs, rfl⟩ := List.mem_map.1 hfile
      have hname : Path.IsName s := h.names (hplace ▸ (hmem s).1 hs)
      rw [fingerprintOf?_eq directory hname.toIsPart] at hn
      exact ⟨s, n, hname, hn, rfl, rfl⟩

end VisualNovel.RenderCache
