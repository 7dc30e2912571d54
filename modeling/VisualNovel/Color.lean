import VisualNovel.Text.Blank
import VisualNovel.Text.Quoted

/-!
# Colors

Colors of four channels, one byte each, and their hexadecimal notation: two digits for each channel
in the order red, green, blue, alpha, where alpha may be left out and then is full.
-/
namespace VisualNovel

open VisualNovel.Text

structure Color where
  red : UInt8
  green : UInt8
  blue : UInt8
  alpha : UInt8 := 255
deriving DecidableEq, Inhabited, Repr

namespace Color

def white : Color := ⟨255, 255, 255, 255⟩

def black : Color := ⟨0, 0, 0, 255⟩

/-- Half transparent black. -/
def shade : Color := ⟨0, 0, 0, 127⟩

def channels (c : Color) : List UInt8 :=
  [c.red, c.green, c.blue, c.alpha]

/-- The notation of a color: a number sign and eight lower-case digits. -/
def text (c : Color) : String :=
  String.ofList ('#' :: c.channels.flatMap fun b => hexDigits 2 b.toNat)

/-- Why a text is not a color. -/
inductive Problem where
  | length (value : String)
  | digit (position : Nat)
  | channels (count : Nat)
deriving DecidableEq, Repr

def Problem.message : Problem → String
  | .length value => "Expected RRGGBB or RRGGBBAA, got " ++ quoted value
  | .digit position =>
    "non-hexadecimal number found in fromhex() arg at position " ++ natText position
  | .channels count => "not enough values to unpack (expected 4, got " ++ natText count ++ ")"

/-- Blanks that may stand between two pairs of digits. -/
def isGap (c : Char) : Bool :=
  c = ' ' || (9 ≤ c.toNat && c.toNat ≤ 13)

/-- Reads pairs of digits, with gaps in front of a pair; `position` is where the text stands. -/
def readPairs (position : Nat) : List Char → Except Problem (List UInt8)
  | [] => .ok []
  | c :: r =>
    if isGap c then readPairs (position + 1) r
    else
      match hexValue? c, r with
      | none, _ => .error (.digit position)
      | some _, [] => .error (.digit (position + 1))
      | some high, d :: r =>
        match hexValue? d with
        | none => .error (.digit (position + 1))
        | some low => (readPairs (position + 2) r).map (UInt8.ofNat (high * 16 + low) :: ·)

/-- Reads the bytes of a text of hexadecimal digits. The first character outside ASCII is reported
before any other. -/
def readBytes (s : List Char) : Except Problem (List UInt8) :=
  match s.findIdx? fun c => 128 ≤ c.toNat with
  | some i => .error (.digit i)
  | none => readPairs 0 s

/-- Reads a color; blanks around it and number signs in front of the digits are dropped. -/
def ofText (value : String) : Except Problem Color := do
  let digits := (trimChars value.toList).dropWhile (· == '#')
  if digits.length ≠ 6 ∧ digits.length ≠ 8 then throw (.length value)
  match ← readBytes digits with
  | [r, g, b] => return ⟨r, g, b, 255⟩
  | [r, g, b, a] => return ⟨r, g, b, a⟩
  | bytes => throw (.channels bytes.length)

end Color

end VisualNovel
