/-!
# BLAKE2b

The hash function BLAKE2b without a key. The message is cut into blocks of 128 bytes, and every
block is compressed into a chain of eight words; the digest is the front of the last chain.
-/
namespace VisualNovel.Digest.Blake2b

abbrev Chain := Vector UInt64 8

abbrev Work := Vector UInt64 16

def initial : Chain := #v[
  0x6a09e667f3bcc908, 0xbb67ae8584caa73b, 0x3c6ef372fe94f82b, 0xa54ff53a5f1d36f1,
  0x510e527fade682d1, 0x9b05688c2b3e6c1f, 0x1f83d9abfb41bd6b, 0x5be0cd19137e2179]

/-- The order in which the message words enter each of the rounds. -/
def schedule : List (Vector (Fin 16) 16) := [
  #v[0, 1, 2, 3, 4, 5, 6, 7, 8, 9, 10, 11, 12, 13, 14, 15],
  #v[14, 10, 4, 8, 9, 15, 13, 6, 1, 12, 0, 2, 11, 7, 5, 3],
  #v[11, 8, 12, 0, 5, 2, 15, 13, 10, 14, 3, 6, 7, 1, 9, 4],
  #v[7, 9, 3, 1, 13, 12, 11, 14, 2, 6, 5, 10, 4, 0, 15, 8],
  #v[9, 0, 5, 7, 2, 4, 10, 15, 14, 1, 11, 12, 6, 8, 3, 13],
  #v[2, 12, 6, 10, 0, 11, 8, 3, 4, 13, 7, 5, 15, 14, 1, 9],
  #v[12, 5, 1, 15, 14, 13, 4, 10, 0, 7, 6, 3, 9, 2, 8, 11],
  #v[13, 11, 7, 14, 12, 1, 3, 9, 5, 0, 15, 4, 8, 6, 2, 10],
  #v[6, 15, 14, 9, 11, 3, 0, 8, 12, 2, 13, 7, 1, 4, 10, 5],
  #v[10, 2, 8, 4, 7, 6, 1, 5, 15, 11, 9, 14, 3, 12, 13, 0],
  #v[0, 1, 2, 3, 4, 5, 6, 7, 8, 9, 10, 11, 12, 13, 14, 15],
  #v[14, 10, 4, 8, 9, 15, 13, 6, 1, 12, 0, 2, 11, 7, 5, 3]]

def rotateRight (x n : UInt64) : UInt64 :=
  (x >>> n) ||| (x <<< (64 - n))

def mix (v : Work) (a b c d : Fin 16) (x y : UInt64) : Work :=
  let va := v[a] + v[b] + x
  let vd := rotateRight (v[d] ^^^ va) 32
  let vc := v[c] + vd
  let vb := rotateRight (v[b] ^^^ vc) 24
  let va := va + vb + y
  let vd := rotateRight (vd ^^^ va) 16
  let vc := vc + vd
  let vb := rotateRight (vb ^^^ vc) 63
  (((v.set a va).set b vb).set c vc).set d vd

/-- One round: the columns and then the diagonals of the work vector. -/
def round (m : Work) (v : Work) (s : Vector (Fin 16) 16) : Work :=
  let v := mix v 0 4 8 12 m[s[0]] m[s[1]]
  let v := mix v 1 5 9 13 m[s[2]] m[s[3]]
  let v := mix v 2 6 10 14 m[s[4]] m[s[5]]
  let v := mix v 3 7 11 15 m[s[6]] m[s[7]]
  let v := mix v 0 5 10 15 m[s[8]] m[s[9]]
  let v := mix v 1 6 11 12 m[s[10]] m[s[11]]
  let v := mix v 2 7 8 13 m[s[12]] m[s[13]]
  mix v 3 4 9 14 m[s[14]] m[s[15]]

/-- Eight bytes as a word, the first byte lowest. -/
def word (bytes : List UInt8) : UInt64 :=
  bytes.foldr (fun b acc => acc <<< 8 ||| b.toUInt64) 0

def wordBytes (w : UInt64) : List UInt8 :=
  (List.range 8).map fun i => (w >>> UInt64.ofNat (8 * i)).toUInt8

/-- The words of a block; missing bytes are zero. -/
def blockWords (block : List UInt8) : Work :=
  let padded := block ++ List.replicate (128 - block.length) 0
  Vector.ofFn fun i => word ((padded.drop (8 * i.val)).take 8)

/-- Compresses a block; `count` is the number of bytes up to its end. -/
def compress (h : Chain) (block : List UInt8) (count : Nat) (last : Bool) : Chain :=
  let m := blockWords block
  let v : Work := h ++ initial
  let v := v.set 12 (v[12] ^^^ UInt64.ofNat count)
  let v := v.set 13 (v[13] ^^^ UInt64.ofNat (count / 0x10000000000000000))
  let v := if last then v.set 14 (v[14] ^^^ 0xFFFFFFFFFFFFFFFF) else v
  let v := schedule.foldl (round m) v
  Vector.ofFn fun i => h[i] ^^^ v[i.val] ^^^ v[i.val + 8]

/-- Compresses a message of which `count` bytes came before. The last block is the one that reaches
the end, even if it is empty. -/
def absorb (h : Chain) (count : Nat) (message : List UInt8) : Chain :=
  if message.length ≤ 128 then compress h message (count + message.length) true
  else absorb (compress h (message.take 128) (count + 128) false) (count + 128) (message.drop 128)
termination_by message.length

/-- The digest of `size` bytes, at most 64. -/
def hash (size : Nat) (message : List UInt8) : List UInt8 :=
  let parameters := 0x01010000 ^^^ UInt64.ofNat size
  let h := initial.set 0 (initial[0] ^^^ parameters)
  ((absorb h 0 message).toList.flatMap wordBytes).take size

end VisualNovel.Digest.Blake2b
