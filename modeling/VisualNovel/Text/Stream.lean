import VisualNovel.Text.Line
import VisualNovel.Text.Utf8

/-!
# Text streams

Bytes that are read as text piece by piece. They are decoded a chunk at a time, as far as characters
are asked for, and line ends become LF. So bytes that are no text are found when their chunk is
decoded, not before; their place is counted from the start of the chunk and what was left over.
-/
namespace VisualNovel.Text

structure Stream where
  /-- What has not been decoded. -/
  bytes : List UInt8
  /-- The start of a sequence whose end is in the next chunk. -/
  carry : List UInt8 := []
  /-- Whether a CR is held back because LF may follow it. -/
  heldReturn : Bool := false
  /-- Characters that are decoded and have not been asked for. -/
  ready : List Char := []
  /-- The bytes of the last chunk and the characters in it. -/
  lastChunk : Nat × Nat := (0, 0)

namespace Stream

/-- The least size of a chunk. -/
def chunkSize : Nat := 8192

/-- The size of the next chunk when some characters are asked for. It is larger if the characters of
the last chunk took several bytes each. -/
def nextSize (s : Stream) (wanted : Nat) : Nat :=
  let (bytes, characters) := s.lastChunk
  max chunkSize (if characters < bytes then wanted * bytes / characters else wanted)

/-- Decodes bytes. Unless they are the last ones, a sequence that they leave unfinished is given
back. -/
def decodeChunk (last : Bool) (bytes : List UInt8) :
    Except Utf8.DecodeError (List Char × List UInt8) :=
  match Utf8.decode bytes with
  | .ok s => .ok (s, [])
  | .error e =>
    if e.problem = .unexpectedEnd && !last then
      (Utf8.decode (bytes.take e.offset)).map fun s => (s, bytes.drop e.offset)
    else .error e

def refill (s : Stream) (wanted : Nat) : Except Utf8.DecodeError (Option Stream) := do
  let size := s.nextSize wanted
  let chunk := s.bytes.take size
  let last := chunk.isEmpty
  let (decoded, carry) ← decodeChunk last (s.carry ++ chunk)
  let joined := if s.heldReturn && (last || !decoded.isEmpty) then '\r' :: decoded else decoded
  let endsInReturn := !last && joined.getLast? = some '\r'
  let text := unifyLineEnds (if endsInReturn then joined.dropLast else joined)
  if last && text.isEmpty then return none
  else
    return some {
      bytes := s.bytes.drop size
      carry
      heldReturn := endsInReturn || (s.heldReturn && !last && decoded.isEmpty)
      ready := s.ready ++ text
      lastChunk := (chunk.length, text.length) }

/-- Takes characters. Every round but the last takes a chunk, so the number of bytes bounds the
rounds. -/
def takeFrom (wanted : Nat) : (rounds : Nat) → Stream → Except Utf8.DecodeError (List Char × Stream)
  | 0, s => .ok ([], s)
  | n + 1, s => do
    let got := s.ready.take wanted
    let s := { s with ready := s.ready.drop wanted }
    let missing := wanted - got.length
    if missing = 0 then return (got, s)
    match ← s.refill missing with
    | none => return (got, s)
    | some s =>
      let (more, s) ← takeFrom missing n s
      return (got ++ more, s)

/-- Takes as many characters as are wanted, or all that are left. -/
def take (s : Stream) (wanted : Nat) : Except Utf8.DecodeError (List Char × Stream) :=
  takeFrom wanted (s.bytes.length + 3) s

end Stream

end VisualNovel.Text
