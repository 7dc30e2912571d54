import VisualNovel.Text.Quoted

/-!
# Unpaired surrogates

The code points from U+D800 to U+DFFF are no characters, but an escape in a document can name one.
A text keeps such a code point as a character at the end of the last private plane, always at the
same distance, and shows it as the code point that it stands for. So the characters from U+10D800 to
U+10DFFF are reserved: a text that holds one of them as a character of its own is left out, here and
in whatever is proved about texts.
-/
namespace VisualNovel.Text

def isSurrogate (n : Nat) : Bool :=
  0xD800 ≤ n && n ≤ 0xDFFF

/-- How far the character that stands for a surrogate is from it. -/
def surrogateShift : Nat := 0x100000

/-- The character that stands for a code point. -/
def charOfPoint (n : Nat) : Char :=
  Char.ofNat (if isSurrogate n then n + surrogateShift else n)

/-- The code point that a character stands for. -/
def pointOfChar (c : Char) : Nat :=
  if isSurrogate (c.toNat - surrogateShift) then c.toNat - surrogateShift else c.toNat

theorem toNat_ofNat_of_isValidChar {n : Nat} (h : n.isValidChar) : (Char.ofNat n).toNat = n := by
  rw [Char.ofNat, dif_pos h]
  rfl

theorem pointOfChar_charOfPoint {n : Nat} (h : isSurrogate n = true) :
    pointOfChar (charOfPoint n) = n := by
  have hn : 0xD800 ≤ n ∧ n ≤ 0xDFFF := by simpa [isSurrogate] using h
  have hv : (n + surrogateShift).isValidChar := Or.inr (by unfold surrogateShift; omega)
  have ht : (charOfPoint n).toNat = n + surrogateShift := by
    rw [charOfPoint, if_pos h, toNat_ofNat_of_isValidChar hv]
  rw [pointOfChar, ht, Nat.add_sub_cancel, if_pos h]

def holdsSurrogate (s : String) : Bool :=
  s.toList.any fun c => isSurrogate (pointOfChar c)

def quotedPoints (s : String) : String :=
  quotedBy isPrintable pointOfChar s

/-- Whether a code point is one of the surrogates that stand for single bytes in names of files. -/
def isByteSurrogate (n : Nat) : Bool :=
  0xDC80 ≤ n && n ≤ 0xDCFF

/-- Surrogates that cannot be encoded: where they begin, and the characters that stand for them. -/
structure Unencodable where
  position : Nat
  run : List Char
deriving DecidableEq, Repr

/-- The first surrogate of a text that is refused, with all surrogates right behind it. -/
def unencodableBy? (isRefused : Nat → Bool) (s : List Char) : Option Unencodable :=
  (s.findIdx? fun c => isRefused (pointOfChar c)).map fun i =>
    ⟨i, (s.drop i).takeWhile fun c => isSurrogate (pointOfChar c)⟩

/-- What keeps a text from being encoded as the name of a file, where some surrogates stand for
bytes. -/
def unencodable? (s : List Char) : Option Unencodable :=
  unencodableBy? (fun n => isSurrogate n && !isByteSurrogate n) s

/-- What keeps a text from being encoded where no surrogate stands for anything. -/
def strictlyUnencodable? (s : List Char) : Option Unencodable :=
  unencodableBy? isSurrogate s

theorem unencodableBy?_eq_none_iff {isRefused : Nat → Bool} {s : List Char} :
    unencodableBy? isRefused s = none ↔ ∀ c ∈ s, isRefused (pointOfChar c) = false := by
  rw [unencodableBy?, Option.map_eq_none_iff, List.findIdx?_eq_none_iff]

theorem unencodable?_eq_none_iff {s : List Char} :
    unencodable? s = none ↔
      ∀ c ∈ s, (isSurrogate (pointOfChar c) && !isByteSurrogate (pointOfChar c)) = false := by
  rw [unencodable?, unencodableBy?_eq_none_iff]

theorem strictlyUnencodable?_eq_none_iff {s : String} :
    strictlyUnencodable? s.toList = none ↔ holdsSurrogate s = false := by
  rw [strictlyUnencodable?, unencodableBy?_eq_none_iff, holdsSurrogate, List.any_eq_false]
  simp only [Bool.not_eq_true]

def Unencodable.message (u : Unencodable) : String :=
  let place :=
    if u.run.length = 1 then
      " " ++ quotedPoints (String.ofList u.run) ++ " in position " ++ natText u.position
    else
      "s in position " ++ natText u.position ++ "-" ++ natText (u.position + u.run.length - 1)
  "'utf-8' codec can't encode character" ++ place ++ ": surrogates not allowed"

end VisualNovel.Text
