import Mathlib.Algebra.Group.Nat.Defs
import Mathlib.Data.List.Induction
import VisualNovel.Proofs.Cache.Shelf
import VisualNovel.Proofs.Files.Apart

/-!
# Room for drawings

A fingerprint has 64 bits, so the name of the file that keeps a drawing is short. The file can be
written in the directory of the cache unless the text of its path is too long.
-/
namespace VisualNovel.RenderCache

open VisualNovel.Text
open FileTree (longestName longestPath)

theorem length_encode_le (s : List Char) : (Utf8.encode s).length ≤ 4 * s.length := by
  induction s with
  | nil => exact Nat.le_refl _
  | cons c rest ih =>
    have hchar : (Utf8.encodeChar c).length ≤ 4 := by
      simp only [Utf8.encodeChar]
      split
      · simp
      · split
        · simp
        · split <;> simp
    have hcons : Utf8.encode (c :: rest) = Utf8.encodeChar c ++ Utf8.encode rest := rfl
    rw [hcons, List.length_append, List.length_cons]
    omega

theorem numberOf_lt (bytes : List UInt8) : Fingerprint.numberOf bytes < 256 ^ bytes.length := by
  induction bytes using List.reverseRecOn with
  | nil => decide
  | append_singleton init b ih =>
    have hb := b.toNat_lt
    rw [Fingerprint.numberOf, List.foldl_append, List.length_append, List.length_singleton, Nat.pow_succ]
    change Fingerprint.numberOf init * 256 + b.toNat < _
    omega

theorem fingerprint?_lt {d : DialogueFrame} {n : Nat} (h : d.fingerprint? = some n) :
    n < 2 ^ 64 := by
  rw [DialogueFrame.fingerprint?_eq] at h
  split at h
  · cases h
    have hlength : (Digest.Blake2b.hash 8 (Fingerprint.encode d)).length ≤ 8 := by
      rw [Digest.Blake2b.hash, List.length_take]
      exact Nat.min_le_left _ _
    calc Fingerprint.numberOf (Digest.Blake2b.hash 8 (Fingerprint.encode d))
        < 256 ^ (Digest.Blake2b.hash 8 (Fingerprint.encode d)).length := numberOf_lt _
      _ ≤ 256 ^ 8 := Nat.pow_le_pow_right (by decide) hlength
      _ = 2 ^ 64 := by decide
  · cases h

theorem length_encode_drawingName_le {n : Nat} (h : n < 10 ^ 20) :
    (Utf8.encode (drawingName n).toList).length ≤ longestName := by
  have hdigits : (natDigits 10 n).length ≤ 20 := length_natDigits_le h
  have hname : (drawingName n).toList.length ≤ 24 := by
    rw [toList_drawingName, List.length_append]
    simp only [List.length_cons, List.length_nil]
    omega
  have := length_encode_le (drawingName n).toList
  rw [longestName]
  omega

theorem nameFault?_drawingName (n : Nat) : FileTree.nameFault? (drawingName n).toList = none := by
  rw [FileTree.nameFault?_eq_none_iff]
  intro c hc
  have hascii : 0 < c.toNat ∧ c.toNat < 128 := by
    rw [toList_drawingName, List.mem_append] at hc
    rcases hc with hc | hc
    · have hdigit := List.all_eq_true.1 (all_isAsciiDigit_natDigits n) c hc
      simp only [isAsciiDigit, Bool.and_eq_true, decide_eq_true_eq, Char.le_def,
        UInt32.le_iff_toNat_le] at hdigit
      have h9 : ('9' : Char).val.toNat = 57 := rfl
      have h0 : ('0' : Char).val.toNat = 48 := rfl
      simp only [Char.toNat]
      omega
    · simp only [List.mem_cons, List.not_mem_nil, or_false] at hc
      obtain rfl | rfl | rfl | rfl := hc
      all_goals decide
  have hpoint : pointOfChar c = c.toNat := by
    rw [pointOfChar, surrogateShift, Nat.sub_eq_zero_of_le (by omega)]
    rfl
  constructor
  · rw [hpoint, isSurrogate, decide_eq_false (by omega : ¬0xD800 ≤ c.toNat)]
    rfl
  · rintro rfl
    exact absurd hascii.1 (by decide)

/-- The text of the path of a kept drawing can be walked. -/
def HasRoom (directory : Path) (n : Nat) : Prop :=
  (Utf8.encode (fileOf directory n).text.toList).length ≤ longestPath

variable {directory : Path} {t : FileTree} {n : Nat}

theorem length_encode_fileOf (h : ¬(directory.root = "" ∧ directory.parts = [])) (n : Nat) :
    ∃ k, k ≤ 1 ∧ (Utf8.encode (fileOf directory n).text.toList).length =
      (Utf8.encode directory.text.toList).length + k +
        (Utf8.encode (drawingName n).toList).length := by
  obtain ⟨tail, htext, rfl | rfl⟩ := Path.toList_text_child h (isName_drawingName n).toIsPart
  · refine ⟨0, by omega, ?_⟩
    rw [fileOf_eq, htext, Utf8.encode_append, List.length_append]
    rfl
  · refine ⟨1, by omega, ?_⟩
    have hslash : (Utf8.encode ('/' :: (drawingName n).toList)).length =
        1 + (Utf8.encode (drawingName n).toList).length := by
      rw [← List.singleton_append, Utf8.encode_append, List.length_append]
      rfl
    rw [fileOf_eq, htext, Utf8.encode_append, List.length_append, hslash]
    omega

/-- There is room where the text of the directory leaves enough of it for any name. -/
theorem hasRoom_of_le (h : ¬(directory.root = "" ∧ directory.parts = [])) (hn : n < 10 ^ 20)
    (room : (Utf8.encode directory.text.toList).length + longestName < longestPath) :
    HasRoom directory n := by
  obtain ⟨k, hk, hlength⟩ := length_encode_fileOf h n
  have hname := length_encode_drawingName_le hn
  rw [HasRoom, hlength]
  omega

/-- There is none where the text of the directory is as long as texts of paths can be. -/
theorem not_hasRoom_of_le (h : ¬(directory.root = "" ∧ directory.parts = []))
    (room : longestPath ≤ (Utf8.encode directory.text.toList).length) : ¬HasRoom directory n := by
  obtain ⟨k, hk, hlength⟩ := length_encode_fileOf h n
  have hname : 0 < (Utf8.encode (drawingName n).toList).length := by
    rw [toList_drawingName, Utf8.encode_append, List.length_append]
    have hending : (Utf8.encode ['.', 'p', 'n', 'g']).length = 4 := rfl
    omega
  rw [HasRoom, hlength]
  omega

theorem locate_fileOf (proper : directory.Proper) (hdirectory : t.isDirectory directory.text = true)
    (hn : n < 10 ^ 20) (room : HasRoom directory n) :
    t.locate (fileOf directory n).text = .ok (place t.home directory ++ [drawingName n]) := by
  obtain ⟨m, hm, hplace⟩ := FileTree.isDirectory_iff.1 hdirectory
  rw [HasRoom, fileOf_eq] at room
  rw [fileOf_eq, Path.locate_child proper (isName_drawingName n) hm hplace
    (nameFault?_drawingName n) (length_encode_drawingName_le hn) room,
    FileTree.eq_destination_of_locate hm]
  rfl

/-- A drawing can be kept where there is room and no directory stands in the way. -/
theorem exists_write_fileOf (proper : directory.Proper)
    (hdirectory : t.isDirectory directory.text = true) (hn : n < 10 ^ 20)
    (room : HasRoom directory n)
    (free : t.get? (place t.home directory ++ [drawingName n]) ≠ some .directory) (c : Content) :
    ∃ u, t.write (fileOf directory n).text c = .ok u := by
  refine ⟨_, FileTree.write_eq_ok_iff.2
    ⟨_, locate_fileOf proper hdirectory hn room, ?_, free, rfl⟩⟩
  rw [fileOf_eq]
  exact Path.endsInSlash_text_child directory (isName_drawingName n).toIsPart

end VisualNovel.RenderCache
