import VisualNovel.Number.Binary64
import VisualNovel.Number.Numeral

/-!
# Decimal notation of binary64 numbers

Reading a decimal numeral gives the nearest number. Writing takes three forms: the shortest decimal
that reads back, a fixed number of places, and a fixed number of significant digits. All of them are
computed exactly and rounded once, a tie going to the even digit.
-/
namespace VisualNovel.Number

open VisualNovel.Text

namespace Binary64

/-- The number nearest to `digits · 10 ^ exponent`. A number whose leading digit stands beyond every
finite number, or below every positive one, is settled without computing the power. -/
def ofDecimal (negative : Bool) (digits : Nat) (exponent : Int) : Binary64 :=
  let top := (natDigits 10 digits).length + exponent
  if digits = 0 || top < -400 then ofMagnitude negative 0
  else if 400 < top then infinity negative
  else if 0 ≤ exponent then ofRatio negative (digits * Nat.pow 10 exponent.toNat) 1
  else ofRatio negative digits (Nat.pow 10 (-exponent).toNat)

/-- Digits at the front of a text, with single underscores between them, and the rest. -/
def takeDigits (s : List Char) : List Nat × List Char :=
  match s with
  | [] => ([], [])
  | [c] => match digitValue? c with
    | some v => ([v], [])
    | none => ([], [c])
  | c :: d :: r => match digitValue? c with
    | none => ([], s)
    | some v =>
      if d = '_' then
        match r with
        | e :: _ =>
          if (digitValue? e).isSome then let (vs, t) := takeDigits r; (v :: vs, t) else ([v], d :: r)
        | [] => ([v], d :: r)
      else let (vs, t) := takeDigits (d :: r); (v :: vs, t)

def readExponent? : List Char → Option Int
  | [] => some 0
  | c :: r =>
    if c = 'e' || c = 'E' then
      let (negative, body) := takeSign r
      match takeDigits body with
      | ([], _) => none
      | (ds, []) => some (applySign negative (ofDigits 10 ds))
      | _ => none
    else none

/-- Reads an unsigned numeral: digits with an optional point and an optional exponent. -/
def readMagnitude? (negative : Bool) (s : List Char) : Option Binary64 :=
  let (whole, rest) := takeDigits s
  let (places, rest) :=
    match rest with
    | '.' :: r => takeDigits r
    | r => ([], r)
  if whole.isEmpty && places.isEmpty then none
  else
    (readExponent? rest).map fun e =>
      ofDecimal negative (ofDigits 10 (whole ++ places)) (e - places.length)

/-- Reads a numeral, or a name of infinity or of what is not a number. -/
def read? (s : String) : Option Binary64 :=
  let (negative, body) := takeSign (trimChars s.toList)
  let name := String.ofList (body.map Char.toLower)
  if name = "inf" || name = "infinity" then some (infinity negative)
  else if name = "nan" then some (nan negative)
  else readMagnitude? negative body

/-- A decimal: `digits` with the point after the first, times ten to the `exponent`. -/
structure Scientific where
  digits : List Char
  exponent : Int
deriving DecidableEq, Repr

def scaled (x : Binary64) (shift : Int) : Nat × Nat :=
  if 0 ≤ shift then (x.units * Nat.pow 10 shift.toNat, unitsPerOne)
  else (x.units, unitsPerOne * Nat.pow 10 (-shift).toNat)

/-- The exponent of the leading decimal digit of a positive finite number. -/
def leadingExponent (x : Binary64) : Int :=
  if unitsPerOne ≤ x.units then ((natDigits 10 (x.units / unitsPerOne)).length : Int) - 1
  else
    -- the first power of ten that brings the number to at least one, found from the binary size
    let guess := (unitsPerOne / x.units).log2 * 30103 / 100000
    let reaches (k : Nat) : Bool := unitsPerOne ≤ x.units * Nat.pow 10 k
    match (List.range 4).find? fun i => reaches (guess + i) with
    | some i => -((guess + i : Nat) : Int)
    | none => -((guess + 4 : Nat) : Int)

def significant (x : Binary64) (count : Nat) : Scientific :=
  if x.units = 0 then ⟨List.replicate count '0', 0⟩
  else
    let e := x.leadingExponent
    let (n, d) := x.scaled (count - 1 - e)
    let ds := natDigits 10 (roundDiv n d)
    if count < ds.length then ⟨ds.take count, e + 1⟩ else ⟨ds, e⟩

/-- The decimals of `count` significant digits next to the number, the nearer one first. -/
def neighbours (x : Binary64) (count : Nat) : List (Nat × Int) :=
  let e := x.leadingExponent
  let shift := count - 1 - e
  let (n, d) := x.scaled shift
  let q := n / d
  let near := roundDiv n d
  let far := if near = q then q + 1 else q
  [(near, -shift), (far, -shift)]

/-- The shortest decimal that reads back as the number; of several, the nearest to it. -/
def shortest (x : Binary64) : Scientific :=
  if x.units = 0 then ⟨['0'], 0⟩
  else
    let readsBack (c : Nat × Int) : Bool :=
      (ofDecimal false c.1 c.2).magnitudeBits == x.magnitudeBits
    match (List.range 17).findSome? fun k => (x.neighbours (k + 1)).find? readsBack with
    | some (n, e) =>
      let ds := natDigits 10 n
      let kept := dropEndWhile (· == '0') ds
      ⟨if kept.isEmpty then ['0'] else kept, e + ds.length - 1⟩
    | none => x.significant 17

def exponentText (e : Int) : List Char :=
  let ds := natDigits 10 e.natAbs
  (if e < 0 then '-' else '+') :: (if ds.length < 2 then '0' :: ds else ds)

/-- Digits with a point after the first `whole` of them; `bare` drops a point that ends the text. -/
def withPoint (ds : List Char) (whole : Nat) (bare : Bool) : List Char :=
  match ds.drop whole with
  | [] => if bare then ds else ds ++ ['.']
  | rest => ds.take whole ++ '.' :: rest

/-- A decimal without an exponent, with at least one digit on each side of the point. -/
def positional (s : Scientific) : List Char :=
  if s.exponent < 0 then
    '0' :: '.' :: (List.replicate (s.exponent.natAbs - 1) '0' ++ s.digits)
  else
    let whole := s.exponent.toNat + 1
    if s.digits.length ≤ whole then
      s.digits ++ List.replicate (whole - s.digits.length) '0' ++ ['.', '0']
    else withPoint s.digits whole true

def signText (x : Binary64) : List Char :=
  if x.isNegative && !x.isNaN then ['-'] else []

def specialText? (x : Binary64) : Option (List Char) :=
  if x.isNaN then some ['n', 'a', 'n']
  else if x.isInfinite then some (x.signText ++ ['i', 'n', 'f'])
  else none

/-- The plain text of a number: the shortest decimal that reads back, positional when its leading
digit stands between the fourth place after the point and the sixteenth before it. -/
def plainText (x : Binary64) : List Char :=
  match x.specialText? with
  | some t => t
  | none =>
    let s := x.shortest
    x.signText ++
      if -4 ≤ s.exponent ∧ s.exponent < 16 then positional s
      else withPoint s.digits 1 true ++ 'e' :: exponentText s.exponent

def fixedText (x : Binary64) (places : Nat) (keepPoint : Bool) : List Char :=
  match x.specialText? with
  | some t => t
  | none =>
    let (n, d) := x.scaled places
    let ds := natDigits 10 (roundDiv n d)
    let ds := List.replicate (places + 1 - ds.length) '0' ++ ds
    x.signText ++ withPoint ds (ds.length - places) (!keepPoint)

/-- One digit, a point, a fixed number of places and an exponent. -/
def exponentialText (x : Binary64) (places : Nat) (keepPoint : Bool) : List Char :=
  match x.specialText? with
  | some t => t
  | none =>
    let s := x.significant (places + 1)
    x.signText ++ withPoint s.digits 1 (!keepPoint) ++ 'e' :: exponentText s.exponent

/-- No number has more significant digits. -/
def exactDigits : Nat := 800

/-- At most `count` significant digits, without trailing zeros unless `keepPoint`, positional unless
the exponent is below -4 or at least the number of digits. -/
def generalText (x : Binary64) (count : Nat) (keepPoint : Bool) : List Char :=
  match x.specialText? with
  | some t => t
  | none =>
    let count := max count 1
    let s := x.significant (if keepPoint then count else min count exactDigits)
    let e := s.exponent
    let scientific := e < -4 ∨ (count : Int) ≤ e
    let ds :=
      if 0 ≤ e ∨ scientific then s.digits
      else List.replicate e.natAbs '0' ++ s.digits
    let whole := if scientific then 1 else if 0 ≤ e then e.toNat + 1 else 1
    let ds :=
      if keepPoint then ds else ds.take whole ++ dropEndWhile (· == '0') (ds.drop whole)
    x.signText ++ withPoint ds whole (!keepPoint) ++
      if scientific then 'e' :: exponentText e else []

end Binary64

end VisualNovel.Number
