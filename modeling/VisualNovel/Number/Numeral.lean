import VisualNovel.Text.Blank
import VisualNovel.Text.Digit

/-!
# Numerals

Integers as people write them in attribute values: blanks around, a sign, decimal digits of any
script, single underscores between digits. A numeral of more than `maxDigits` digits is refused.
-/
namespace VisualNovel.Number

open VisualNovel.Text

/-- The most digits that a decimal numeral may have. -/
def maxDigits : Nat := 4300

/-- Whether an integer has few enough digits to be written in decimal. -/
def isWritable (i : Int) : Bool :=
  i.natAbs < Nat.pow 10 maxDigits

def unwritable : String :=
  "Exceeds the limit (" ++ natText maxDigits ++
    " digits) for integer string conversion; use sys.set_int_max_str_digits() to increase the limit"

/-- The values of the digits of a digit run in which single underscores may separate digits. -/
def digitRun? (value? : Char → Option Nat) : List Char → Option (List Nat)
  | [] => none
  | [c] => (value? c).map ([·])
  | c :: '_' :: r => do
    let v ← value? c
    let vs ← digitRun? value? r
    return v :: vs
  | c :: r => do
    let v ← value? c
    let vs ← digitRun? value? r
    return v :: vs

def takeSign : List Char → Bool × List Char
  | '-' :: r => (true, r)
  | '+' :: r => (false, r)
  | r => (false, r)

def applySign (negative : Bool) (n : Nat) : Int :=
  if negative then -(n : Int) else n

def readInt? (s : String) : Option Int :=
  let (negative, body) := takeSign (trimChars s.toList)
  match digitRun? digitValue? body with
  | some ds => if ds.length ≤ maxDigits then some (applySign negative (ofDigits 10 ds)) else none
  | none => none

def digitIn? (base : Nat) (c : Char) : Option Nat :=
  let v :=
    match digitValue? c with
    | some v => some v
    | none =>
      if 'a' ≤ c && c ≤ 'z' then some (c.toNat - 87)
      else if 'A' ≤ c && c ≤ 'Z' then some (c.toNat - 55)
      else none
  v.filter (· < base)

def baseMark (base : Nat) (c : Char) : Bool :=
  match base with
  | 2 => c == 'b' || c == 'B'
  | 8 => c == 'o' || c == 'O'
  | 16 => c == 'x' || c == 'X'
  | _ => false

/-- Reads an integer numeral of a given base, which may carry the mark of the base. -/
def readIntBase? (base : Nat) (s : List Char) : Option Int :=
  let (negative, body) := takeSign (trimChars s)
  let body :=
    match body with
    | '0' :: m :: '_' :: r => if baseMark base m then r else body
    | '0' :: m :: r => if baseMark base m then r else body
    | _ => body
  match digitRun? (digitIn? base) body with
  | some ds =>
    if base = 10 && maxDigits < ds.length then none
    else some (applySign negative (ofDigits base ds))
  | none => none

end VisualNovel.Number
