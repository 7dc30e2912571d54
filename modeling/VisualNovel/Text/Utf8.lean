import VisualNovel.Text.Quoted

/-!
# UTF-8

Encoding of characters as bytes and a decoder that says where and how a byte sequence goes wrong.
Decoding is the inverse of encoding.
-/
namespace VisualNovel.Text.Utf8

inductive Problem where
  | invalidStart
  | invalidContinuation
  | unexpectedEnd
deriving DecidableEq, Repr

/-- The malformed stretch: the offset of its first byte, the bytes themselves, and what is wrong. -/
structure DecodeError where
  offset : Nat
  bytes : List UInt8
  problem : Problem
deriving DecidableEq, Repr

def Problem.message : Problem → String
  | .invalidStart => "invalid start byte"
  | .invalidContinuation => "invalid continuation byte"
  | .unexpectedEnd => "unexpected end of data"

def DecodeError.message (e : DecodeError) : String :=
  let place :=
    match e.bytes with
    | [b] =>
      "byte 0x" ++ String.ofList (hexDigits 2 b.toNat) ++ " in position " ++ natText e.offset
    | bs =>
      "bytes in position " ++ natText e.offset ++ "-" ++ natText (e.offset + bs.length - 1)
  "'utf-8' codec can't decode " ++ place ++ ": " ++ e.problem.message

def encodeChar (c : Char) : List UInt8 :=
  let n := c.toNat
  if n < 0x80 then [UInt8.ofNat n]
  else if n < 0x800 then [UInt8.ofNat (0xC0 + n / 64), UInt8.ofNat (0x80 + n % 64)]
  else if n < 0x10000 then
    [UInt8.ofNat (0xE0 + n / 4096), UInt8.ofNat (0x80 + n / 64 % 64), UInt8.ofNat (0x80 + n % 64)]
  else
    [UInt8.ofNat (0xF0 + n / 262144), UInt8.ofNat (0x80 + n / 4096 % 64),
      UInt8.ofNat (0x80 + n / 64 % 64), UInt8.ofNat (0x80 + n % 64)]

def encode (s : List Char) : List UInt8 :=
  s.flatMap encodeChar

def encodeString (s : String) : List UInt8 :=
  encode s.toList

/-- What follows a start byte: how many continuation bytes, and the range of the first of them. -/
def continuation? (b : Nat) : Option (Nat × Nat × Nat) :=
  if b < 0x80 then some (0, 0x80, 0xBF)
  else if b < 0xC2 then none
  else if b < 0xE0 then some (1, 0x80, 0xBF)
  else if b = 0xE0 then some (2, 0xA0, 0xBF)
  else if b = 0xED then some (2, 0x80, 0x9F)
  else if b < 0xF0 then some (2, 0x80, 0xBF)
  else if b = 0xF0 then some (3, 0x90, 0xBF)
  else if b < 0xF4 then some (3, 0x80, 0xBF)
  else if b = 0xF4 then some (3, 0x80, 0x8F)
  else none

/-- Reads `count` continuation bytes, the first between `lo` and `hi`, onto the value `acc`. On
failure it gives the bytes that were in order and what is wrong with the next. -/
def takeTail (lo hi : Nat) : (count acc : Nat) → List UInt8 →
    Except (List UInt8 × Problem) (Nat × List UInt8)
  | 0, acc, rest => .ok (acc, rest)
  | _ + 1, _, [] => .error ([], .unexpectedEnd)
  | k + 1, acc, b :: rest =>
    if lo ≤ b.toNat && b.toNat ≤ hi then
      match takeTail 0x80 0xBF k (acc * 64 + b.toNat % 64) rest with
      | .ok r => .ok r
      | .error (bs, p) => .error (b :: bs, p)
    else .error ([], .invalidContinuation)

/-- The payload of a start byte that announces `count` continuation bytes. -/
def startBits (b count : Nat) : Nat :=
  match count with
  | 0 => b
  | 1 => b % 32
  | 2 => b % 16
  | _ => b % 8

theorem takeTail_length {lo hi count acc : Nat} {bs rest : List UInt8} {n : Nat}
    (h : takeTail lo hi count acc bs = .ok (n, rest)) : rest.length ≤ bs.length := by
  induction count generalizing lo hi acc bs with
  | zero => simp [takeTail] at h; simp [h]
  | succ k ih =>
    cases bs with
    | nil => simp [takeTail] at h
    | cons b t =>
      simp only [takeTail] at h
      split at h
      · split at h
        · rename_i r heq
          have hr : r = (n, rest) := by simpa using h
          subst hr
          have := ih heq
          simp
          omega
        · simp at h
      · simp at h

def decodeFrom (offset : Nat) : List UInt8 → Except DecodeError (List Char)
  | [] => .ok []
  | b :: rest =>
    match continuation? b.toNat with
    | none => .error ⟨offset, [b], .invalidStart⟩
    | some (count, lo, hi) =>
      match h : takeTail lo hi count (startBits b.toNat count) rest with
      | .error (bs, p) => .error ⟨offset, b :: bs, p⟩
      | .ok (n, rest') => (decodeFrom (offset + 1 + count) rest').map (Char.ofNat n :: ·)
termination_by bs => bs.length
decreasing_by
  have := takeTail_length h
  simp
  omega

def decode (bytes : List UInt8) : Except DecodeError (List Char) :=
  decodeFrom 0 bytes

def decodeString (bytes : List UInt8) : Except DecodeError String :=
  (decode bytes).map String.ofList

end VisualNovel.Text.Utf8
