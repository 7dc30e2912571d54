import VisualNovel.Text.Stream
import VisualNovel.Yaml.Failure

/-!
# Sources

The text of a document as it becomes known: it is taken from its bytes in blocks, and a block that
is no text or holds a character that no document may hold ends what can be read. That failure counts
only if reading gets as far as the block.
-/
namespace VisualNovel.Yaml

open VisualNovel.Text

def isReadable (c : Char) : Bool :=
  let n := c.toNat
  n = 9 || n = 10 || n = 13 || (0x20 ≤ n && n ≤ 0x7E) || n = 0x85 || (0xA0 ≤ n && n ≤ 0xD7FF) ||
    (0xE000 ≤ n && n ≤ 0xFFFD) || 0x10000 ≤ n

/-- The characters that can be read, and why there are no more if that is not the end. -/
structure Source where
  text : List Char
  stop : Option Failure := none

namespace Source

/-- How many characters a block has. -/
def blockSize : Nat := 4096

def takeBlock (s : Stream) : Except Failure (List Char × Stream) :=
  (s.take blockSize).mapError .encoding

/-- Puts a block in front of a source, if its characters may be read. -/
def cons (block : List Char) (s : Source) : Source :=
  if block.all isReadable then { s with text := block ++ s.text } else { text := [], stop := some .malformed }

/-- The blocks of a stream, one in each round, up to an empty one. -/
def ofStream : (rounds : Nat) → Stream → Source
  | 0, _ => { text := [] }
  | n + 1, s =>
    match takeBlock s with
    | .error f => { text := [], stop := some f }
    | .ok ([], _) => { text := [] }
    | .ok (block, s) => cons block (ofStream n s)

/-- The source that bytes make. Its first two blocks are taken at once. -/
def ofBytes (bytes : List UInt8) : Source :=
  let first : Except Failure (List Char × Stream) := do
    let (one, s) ← takeBlock { bytes }
    let (two, s) ← takeBlock s
    return (one ++ two, s)
  match first with
  | .error f => { text := [], stop := some f }
  | .ok (block, s) => cons block (ofStream (bytes.length + 1) s)

end Source

end VisualNovel.Yaml
