import VisualNovel.Digest.Blake2b
import VisualNovel.Frame.Basic
import VisualNovel.Text.Surrogate
import VisualNovel.Text.Utf8

/-!
# Frame fingerprints

The fingerprint of a dialogue frame is a hash of 64 bits over an encoding of its fields. Every field
is opened by a letter and either has a fixed length or tells its length, so that the encoding can be
read back. The decoded picture behind the scene is not part of it; the path that it came from is.
A frame has no fingerprint if one of its fields has no bytes; the first such field says why.
-/
namespace VisualNovel

open VisualNovel.Number
open VisualNovel.Text

namespace Fingerprint

/-- The lowest `size` bytes of a number, highest byte first. -/
def bytesOf (size n : Nat) : List UInt8 :=
  match size with
  | 0 => []
  | k + 1 => bytesOf k (n / 256) ++ [UInt8.ofNat n]

def numberOf (bytes : List UInt8) : Nat :=
  bytes.foldl (fun acc b => acc * 256 + b.toNat) 0

def letter (c : Char) : UInt8 :=
  UInt8.ofNat c.toNat

def absent : List UInt8 :=
  [letter 'N']

def textField (s : String) : List UInt8 :=
  let data := Utf8.encodeString s
  letter 'S' :: bytesOf 8 data.length ++ data

def optionalText : Option String → List UInt8
  | none => absent
  | some s => textField s

/-- Whether the size of a text fits into its length field. -/
def sizable (s : String) : Bool :=
  (Utf8.encodeString s).length < 0x10000000000000000

/-- Whether an integer fits into 64 bits with a sign. -/
def fits (i : Int) : Bool :=
  -0x8000000000000000 ≤ i && i < 0x8000000000000000

/-- An integer in two's complement. -/
def integerField (i : Int) : List UInt8 :=
  letter 'I' :: bytesOf 8 (i % 0x10000000000000000).toNat

def scaleField : Option Binary64 → List UInt8
  | none => absent
  | some x => letter 'F' :: bytesOf 8 x.bits.toNat

def colorField (c : Color) : List UInt8 :=
  letter 'C' :: c.channels

def spriteFields (s : SpriteView) : List UInt8 :=
  textField s.name ++ textField s.path ++ integerField s.x ++ integerField s.y ++ scaleField s.scale

def encode (f : DialogueFrame) : List UInt8 :=
  optionalText f.backdrop.id ++ integerField f.sprites.length ++ f.sprites.flatMap spriteFields ++
    textField f.speaker ++ textField f.text ++ colorField f.textColor ++ colorField f.boxColor

/-- Why a field has no bytes: a text holds an unpaired surrogate, or a number does not fit into the
bytes that are kept for it. -/
inductive Fault where
  | surrogates (u : Unencodable)
  | range
deriving DecidableEq, Repr

def Fault.message : Fault → String
  | .surrogates u => u.message
  | .range => "int too large to convert"

/-- What is wrong with a text. Its bytes are made before they are counted. -/
def textFault? (s : String) : Option Fault :=
  match strictlyUnencodable? s.toList with
  | some u => some (.surrogates u)
  | none => if sizable s then none else some .range

def integerFault? (i : Int) : Option Fault :=
  if fits i then none else some .range

def spriteFault? (s : SpriteView) : Option Fault :=
  textFault? s.name <|> textFault? s.path <|> integerFault? s.x <|> integerFault? s.y

/-- What is wrong with the first field of a frame that has no bytes. -/
def fault? (f : DialogueFrame) : Option Fault :=
  f.backdrop.id.bind textFault? <|> integerFault? f.sprites.length <|>
    f.sprites.findSome? spriteFault? <|> textFault? f.speaker <|> textFault? f.text

/-- Whether a text can be encoded: it holds no unpaired surrogate, and its size fits. -/
def textEncodable (s : String) : Bool :=
  !holdsSurrogate s && sizable s

def spriteEncodable (s : SpriteView) : Bool :=
  textEncodable s.name && textEncodable s.path && fits s.x && fits s.y

/-- Whether the fields of a frame can be encoded: every text has bytes, and every length, count and
coordinate fits into the bytes that are kept for it. -/
def encodable (f : DialogueFrame) : Bool :=
  f.backdrop.id.all textEncodable && fits f.sprites.length && f.sprites.all spriteEncodable &&
    textEncodable f.speaker && textEncodable f.text

theorem textFault?_eq_none_iff {s : String} : textFault? s = none ↔ textEncodable s = true := by
  rw [textEncodable, Bool.and_eq_true, Bool.not_eq_true', ← strictlyUnencodable?_eq_none_iff,
    textFault?]
  cases strictlyUnencodable? s.toList <;> simp

theorem integerFault?_eq_none_iff {i : Int} : integerFault? i = none ↔ fits i = true := by
  simp [integerFault?]

theorem spriteFault?_eq_none_iff {s : SpriteView} :
    spriteFault? s = none ↔ spriteEncodable s = true := by
  simp only [spriteFault?, spriteEncodable, Option.orElse_eq_orElse, Option.orElse_eq_or,
    Option.or_eq_none_iff, textFault?_eq_none_iff, integerFault?_eq_none_iff, Bool.and_eq_true,
    and_assoc]

theorem fault?_eq_none_iff {f : DialogueFrame} : fault? f = none ↔ encodable f = true := by
  have hid : f.backdrop.id.bind textFault? = none ↔ f.backdrop.id.all textEncodable = true := by
    cases f.backdrop.id <;> simp [textFault?_eq_none_iff]
  have hsprites : f.sprites.findSome? spriteFault? = none ↔ f.sprites.all spriteEncodable = true := by
    simp only [List.findSome?_eq_none_iff, List.all_eq_true, spriteFault?_eq_none_iff]
  simp only [fault?, encodable, Option.orElse_eq_orElse, Option.orElse_eq_or,
    Option.or_eq_none_iff, hid, hsprites, textFault?_eq_none_iff, integerFault?_eq_none_iff,
    Bool.and_eq_true, and_assoc]

end Fingerprint

namespace DialogueFrame

/-- The fingerprint of a frame, or what is wrong with the frame, such as a coordinate beyond 64
bits. -/
def fingerprint (f : DialogueFrame) : Except Fingerprint.Fault Nat :=
  match Fingerprint.fault? f with
  | some e => .error e
  | none => .ok (Fingerprint.numberOf (Digest.Blake2b.hash 8 (Fingerprint.encode f)))

def fingerprint? (f : DialogueFrame) : Option Nat :=
  f.fingerprint.toOption

variable {f : DialogueFrame} {n : Nat}

theorem fingerprint?_eq_some_iff : f.fingerprint? = some n ↔ f.fingerprint = .ok n := by
  rw [fingerprint?]
  cases f.fingerprint <;> simp [Except.toOption]

theorem fingerprint?_eq_none_iff : f.fingerprint? = none ↔ ∃ e, f.fingerprint = .error e := by
  rw [fingerprint?]
  cases f.fingerprint <;> simp [Except.toOption]

theorem fingerprint?_eq (f : DialogueFrame) :
    f.fingerprint? =
      if Fingerprint.encodable f then
        some (Fingerprint.numberOf (Digest.Blake2b.hash 8 (Fingerprint.encode f)))
      else none := by
  rw [fingerprint?, fingerprint]
  cases h : Fingerprint.fault? f with
  | none => rw [if_pos (Fingerprint.fault?_eq_none_iff.1 h), Except.toOption]
  | some e =>
    have hnot : ¬Fingerprint.encodable f = true := by
      rw [← Fingerprint.fault?_eq_none_iff, h]
      exact Option.some_ne_none e
    rw [if_neg hnot, Except.toOption]

end DialogueFrame

end VisualNovel
