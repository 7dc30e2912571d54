/-!
# Binary64 numbers

The 64-bit binary floating-point format as bit patterns with exact arithmetic. The magnitude of a
finite number is a whole number of units, the smallest positive number being one unit; every
operation computes with whole numbers and rounds once, to the nearest number, a tie going to the
even one.
-/
namespace VisualNovel.Number

structure Binary64 where
  bits : UInt64
deriving DecidableEq, Inhabited, Repr

namespace Binary64

/-- How many units make one: two to the power of 1074, as a power with small exponents. -/
def unitsPerOne : Nat := Nat.pow (Nat.pow 2 179) 6

/-- How many numbers share an exponent: two to the power of 52. -/
def fractionSpan : Nat := 0x10000000000000

/-- The magnitude bits of infinity; larger magnitude bits are not numbers. -/
def infinityBits : Nat := 2047 * fractionSpan

def signBit : Nat := 0x8000000000000000

def magnitudeBits (x : Binary64) : Nat :=
  x.bits.toNat % signBit

def isNegative (x : Binary64) : Bool :=
  signBit ≤ x.bits.toNat

def isNaN (x : Binary64) : Bool :=
  infinityBits < x.magnitudeBits

def isInfinite (x : Binary64) : Bool :=
  x.magnitudeBits == infinityBits

/-- The magnitude of a finite number in units. -/
def unitsOf (magnitude : Nat) : Nat :=
  let e := magnitude / fractionSpan
  let m := magnitude % fractionSpan
  if e = 0 then m else (fractionSpan + m) * Nat.pow 2 (e - 1)

def units (x : Binary64) : Nat :=
  unitsOf x.magnitudeBits

/-- The whole number nearest to `n / d`, a tie going to the even one. -/
def roundDiv (n d : Nat) : Nat :=
  let q := n / d
  let r := n % d
  if d < 2 * r ∨ (d = 2 * r ∧ q % 2 = 1) then q + 1 else q

/-- The magnitude bits of the number nearest to `n / d` units. -/
def nearestBits (n d : Nat) : Nat :=
  let shift := (n / d).log2 - 52
  min (shift * fractionSpan + roundDiv n (d * Nat.pow 2 shift)) infinityBits

def ofMagnitude (negative : Bool) (magnitude : Nat) : Binary64 :=
  ⟨UInt64.ofNat (magnitude + if negative then signBit else 0)⟩

def ofRatio (negative : Bool) (n d : Nat) : Binary64 :=
  ofMagnitude negative (nearestBits (n * unitsPerOne) d)

def nan (negative : Bool) : Binary64 :=
  ofMagnitude negative (infinityBits + fractionSpan / 2)

def infinity (negative : Bool) : Binary64 :=
  ofMagnitude negative infinityBits

def ofInt? (i : Int) : Option Binary64 :=
  let x := ofRatio (i < 0) i.natAbs 1
  if x.isInfinite then none else some x

def mul (x y : Binary64) : Binary64 :=
  let negative := x.isNegative != y.isNegative
  if x.isNaN || y.isNaN then nan false
  else if x.isInfinite || y.isInfinite then
    if x.magnitudeBits = 0 || y.magnitudeBits = 0 then nan true else infinity negative
  else ofMagnitude negative (nearestBits (x.units * y.units) unitsPerOne)

def signedUnits (x : Binary64) : Int :=
  if x.isNegative then -(x.units : Int) else x.units

/-- The sum of two numbers; a sum of zero is positive unless both are negative. -/
def add (x y : Binary64) : Binary64 :=
  if x.isNaN || y.isNaN then nan false
  else if x.isInfinite then
    if y.isInfinite && x.isNegative != y.isNegative then nan true else x
  else if y.isInfinite then y
  else
    let s := x.signedUnits + y.signedUnits
    if s = 0 then ofMagnitude (x.isNegative && y.isNegative) 0
    else ofMagnitude (s < 0) (nearestBits s.natAbs 1)

def neg (x : Binary64) : Binary64 :=
  ofMagnitude (!x.isNegative) x.magnitudeBits

/-- Why a number has no integer part. -/
inductive NoInteger where
  | notANumber
  | infinite
deriving DecidableEq, Repr

def NoInteger.message : NoInteger → String
  | .notANumber => "cannot convert float NaN to integer"
  | .infinite => "cannot convert float infinity to integer"

/-- The integer part, toward zero. -/
def truncate (x : Binary64) : Except NoInteger Int :=
  if x.isNaN then .error .notANumber
  else if x.isInfinite then .error .infinite
  else
    let n := x.units / unitsPerOne
    .ok (if x.isNegative then -(n : Int) else n)

/-- Whether a finite number is a whole number. -/
def isWhole (x : Binary64) : Bool :=
  x.units % unitsPerOne == 0

end Binary64

end VisualNovel.Number
