import VisualNovel.Number.Decimal
import VisualNovel.Number.Numeral
import VisualNovel.Text.Quoted
import VisualNovel.Text.Surrogate

/-!
# Message templates

Messages are written as templates in which a percent sign opens a directive: flags, a width, a
precision and a letter that says how the next argument is shown. Filling a template consumes the
arguments from left to right and fails unless every directive finds a fitting argument and every
argument is used. It also fails if it would have to make more characters at once than there is room for,
which depends on the machine.
-/
namespace VisualNovel.Text

open VisualNovel.Number

/-- A value that a message can show. -/
inductive Argument where
  | none
  | truth (b : Bool)
  | integer (i : Int)
  | real (x : Binary64)
  | text (s : String)
  | list (items : List Argument)
  | map (entries : List (String × Argument))
deriving Inhabited

namespace Argument

mutual

def literal (quote : String → String) : Argument → String
  | none => "None"
  | truth b => if b then "True" else "False"
  | integer i => intText i
  | real x => String.ofList x.plainText
  | text s => quote s
  | list items => "[" ++ literalItems quote items ++ "]"
  | map entries => "\x7b" ++ literalEntries quote entries ++ "\x7d"

def literalItems (quote : String → String) : List Argument → String
  | [] => ""
  | [a] => literal quote a
  | a :: b :: r => literal quote a ++ ", " ++ literalItems quote (b :: r)

def literalEntries (quote : String → String) : List (String × Argument) → String
  | [] => ""
  | [(k, a)] => quote k ++ ": " ++ literal quote a
  | (k, a) :: b :: r => quote k ++ ": " ++ literal quote a ++ ", " ++ literalEntries quote (b :: r)

end

/-- The display form of a value: a text as it is, anything else in its literal form. -/
def display : Argument → String
  | text s => s
  | a => literal quoted a

/-- The literal form of a whole argument list; a single argument is followed by a comma. -/
def tuple (args : List Argument) : String :=
  match args with
  | [a] => "(" ++ literal quoted a ++ ",)"
  | as => "(" ++ literalItems quoted as ++ ")"

mutual

/-- Whether a value has a literal form: none of its integers has too many digits to be written. -/
def isWritable : Argument → Bool
  | integer i => Number.isWritable i
  | list items => areWritable items
  | map entries => areEntriesWritable entries
  | _ => true

def areWritable : List Argument → Bool
  | [] => true
  | a :: r => isWritable a && areWritable r

def areEntriesWritable : List (String × Argument) → Bool
  | [] => true
  | (_, a) :: r => isWritable a && areEntriesWritable r

end

def integer? : Argument → Option Int
  | truth b => some (if b then 1 else 0)
  | integer i => some i
  | _ => Option.none

end Argument

namespace Template

/-- Numbers that cannot be shown, and texts that are too long to be held. -/
inductive RangeError where
  | codePoint
  | size
  | count
  | precision
  | real
  | infinite
  | digits
  | memory
deriving DecidableEq, Repr

def RangeError.message : RangeError → String
  | .codePoint => "%c arg not in range(0x110000)"
  | .size => "Python int too large to convert to C ssize_t"
  | .count => "Python int too large to convert to C int"
  | .precision => "precision too large"
  | .real => "int too large to convert to float"
  | .infinite => "cannot convert float infinity to integer"
  | .digits => unwritable
  | .memory => ""

/-- Why a template cannot be filled: its arguments do not fit it, or a number is out of range. -/
inductive Problem where
  | mismatch
  | range (e : RangeError)
deriving DecidableEq, Repr

structure Flags where
  left : Bool := false
  sign : Bool := false
  blank : Bool := false
  alternate : Bool := false
  zero : Bool := false
deriving DecidableEq, Repr

/-- A directive up to its letter. -/
structure Directive where
  flags : Flags := {}
  width : Option Nat := none
  precision : Option Nat := none
deriving DecidableEq, Repr

def takeFlags (f : Flags) : List Char → Flags × List Char
  | '-' :: r => takeFlags { f with left := true } r
  | '+' :: r => takeFlags { f with sign := true } r
  | ' ' :: r => takeFlags { f with blank := true } r
  | '#' :: r => takeFlags { f with alternate := true } r
  | '0' :: r => takeFlags { f with zero := true } r
  | r => (f, r)

def takeCount (limit : Nat) (error : RangeError) :
    List Argument → Except Problem (Int × List Argument)
  | a :: args =>
    match a.integer? with
    | some i =>
      if (limit : Int) ≤ i || i < -(limit : Int) then .error (.range error) else .ok (i, args)
    | none => .error .mismatch
  | [] => .error .mismatch

def sizeLimit : Nat := 0x8000000000000000

def countLimit : Nat := 0x80000000

/-- The most places that an integer can be filled up to. -/
def maxPrecision : Nat := 0x7FFFFFFC

def takeNumber (limit : Nat) (s : List Char) : Except Problem (Nat × List Char) :=
  let n := ofDigits 10 ((s.takeWhile isAsciiDigit).map fun c => c.toNat - 48)
  if limit ≤ n then .error .mismatch else .ok (n, s.dropWhile isAsciiDigit)

/-- Reads a width. A negative width taken from the arguments aligns to the left; the least one has no
positive counterpart and asks for nothing. -/
def takeWidth (d : Directive) (args : List Argument) (s : List Char) :
    Except Problem (Directive × List Argument × List Char) :=
  match s with
  | '*' :: r => do
    let (i, args) ← takeCount sizeLimit .size args
    let flags := if i < 0 then { d.flags with left := true } else d.flags
    let width := if i.natAbs = sizeLimit then 0 else i.natAbs
    return ({ d with flags, width := some width }, args, r)
  | c :: _ =>
    if isAsciiDigit c then do
      let (n, r) ← takeNumber sizeLimit s
      return ({ d with width := some n }, args, r)
    else .ok (d, args, s)
  | [] => .ok (d, args, s)

/-- Reads a point and a precision, which may be left out and then is zero. -/
def takePrecision (d : Directive) (args : List Argument) (s : List Char) :
    Except Problem (Directive × List Argument × List Char) :=
  match s with
  | '.' :: '*' :: r => do
    let (i, args) ← takeCount countLimit .count args
    return ({ d with precision := some i.toNat }, args, r)
  | '.' :: r => do
    let (n, r) ← takeNumber countLimit r
    return ({ d with precision := some n }, args, r)
  | _ => .ok (d, args, s)

def dropSize : List Char → List Char
  | 'h' :: r => r
  | 'l' :: r => r
  | 'L' :: r => r
  | r => r

/-- What a directive shows, before it is padded: a sign, the mark of a base, and the rest. Only a
number may be padded with zeros. -/
structure Shown where
  sign : List Char := []
  mark : List Char := []
  body : List Char
  isNumber : Bool := false
deriving DecidableEq, Repr

section

-- From `room` characters on the memory does not hold what a directive asks for.
variable (room : Nat)

/-- Refuses what there is no room for. -/
def checkRoom (n : Nat) : Except Problem Unit :=
  if room ≤ n then .error (.range .memory) else .ok ()

/-- Pads to the width: on the right, or on the left with zeros behind sign and mark, or on the left
with blanks. -/
def pad (d : Directive) (s : Shown) : Except Problem (List Char) := do
  let text := s.sign ++ s.mark ++ s.body
  let width := d.width.getD 0
  checkRoom room width
  let missing := width - text.length
  if d.flags.left then return text ++ List.replicate missing ' '
  else if s.isNumber && d.flags.zero then
    return s.sign ++ s.mark ++ List.replicate missing '0' ++ s.body
  else return List.replicate missing ' ' ++ text

def plusSign (f : Flags) : List Char :=
  if f.sign then ['+'] else if f.blank then [' '] else []

def cut (precision : Option Nat) (s : List Char) : List Char :=
  match precision with
  | some n => s.take n
  | none => s

/-- An integer in a base with at least as many digits as the precision says. Only in base ten may it
have too many digits of its own. -/
def showInteger (d : Directive) (base : Nat) (capital : Bool) (i : Int) : Except Problem Shown := do
  let precision := d.precision.getD 0
  if maxPrecision < precision then throw (.range .precision)
  if base = 10 && !Number.isWritable i then throw .mismatch
  checkRoom room precision
  let digits := natDigits base i.natAbs
  let digits := List.replicate (precision - digits.length) '0' ++ digits
  let case (s : List Char) : List Char := if capital then s.map Char.toUpper else s
  let mark : List Char :=
    if d.flags.alternate then
      match base with
      | 8 => ['0', 'o']
      | 16 => ['0', 'x']
      | _ => []
    else []
  return {
    sign := if i < 0 then ['-'] else plusSign d.flags
    mark := case mark
    body := case digits
    isNumber := true }

def showReal (d : Directive) (letter : Char) (x : Binary64) : Except Problem Shown := do
  let keepPoint := d.flags.alternate
  let places := d.precision.getD 6
  if x.specialText?.isNone && (keepPoint || letter.toLower ≠ 'g') then
    checkRoom room places
  let text :=
    if letter.toLower = 'e' then x.exponentialText places keepPoint
    else if letter.toLower = 'f' then x.fixedText places keepPoint
    else x.generalText places keepPoint
  let text := if letter.isUpper then text.map Char.toUpper else text
  match text with
  | '-' :: body => return { sign := ['-'], body, isNumber := true }
  | body => return { sign := plusSign d.flags, body, isNumber := true }

/-- The integer that a decimal directive shows: a number loses its places. -/
def wholePart : Argument → Except Problem Int
  | .real x =>
    match x.truncate with
    | .ok i => .ok i
    | .error .notANumber => .error .mismatch
    | .error .infinite => .error (.range .infinite)
  | a =>
    match a.integer? with
    | some i => .ok i
    | none => .error .mismatch

def realPart : Argument → Except Problem Binary64
  | .real x => .ok x
  | a =>
    match a.integer? with
    | some i =>
      match Binary64.ofInt? i with
      | some x => .ok x
      | none => .error (.range .real)
    | none => .error .mismatch

def shownAs (d : Directive) (letter : Char) (a : Argument) : Except Problem Shown :=
  let inBase (base : Nat) (capital : Bool) : Except Problem Shown :=
    match a.integer? with
    | some i => showInteger room d base capital i
    | none => .error .mismatch
  let written (s : String) : Except Problem Shown :=
    if a.isWritable then .ok { body := cut d.precision s.toList } else .error .mismatch
  match letter with
  | 's' => written a.display
  | 'r' => written (a.literal quoted)
  | 'a' => written (a.literal quotedAscii)
  | 'c' =>
    match a with
    | .text s =>
      match s.toList with
      | [c] => .ok { body := [c] }
      | _ => .error .mismatch
    | _ =>
      match a.integer? with
      | some i =>
        if 0 ≤ i && i < 0x110000 then .ok { body := [charOfPoint i.toNat] }
        else .error (.range .codePoint)
      | none => .error .mismatch
  | 'd' | 'i' | 'u' => do showInteger room d 10 false (← wholePart a)
  | 'o' => inBase 8 false
  | 'x' => inBase 16 false
  | 'X' => inBase 16 true
  | 'e' | 'E' | 'f' | 'F' | 'g' | 'G' => do showReal room d letter (← realPart a)
  | _ => .error .mismatch

def showArgument (d : Directive) (letter : Char) (a : Argument) : Except Problem (List Char) := do
  pad room d (← shownAs room d letter a)

def takeDirective (args : List Argument) (s : List Char) :
    Except Problem (Directive × List Argument × List Char) := do
  let (flags, r) := takeFlags {} s
  let (d, args, r) ← takeWidth { flags } args r
  let (d, args, r) ← takePrecision d args r
  return (d, args, dropSize r)

/-- Fills a template. The first number bounds the work: every directive and every plain character
takes one unit, so the length of the template is enough. -/
def fillFrom : Nat → List Argument → List Char → Except Problem (List Char)
  | 0, _, _ => .error .mismatch
  | _ + 1, [], [] => .ok []
  | _ + 1, _ :: _, [] => .error .mismatch
  | n + 1, args, '%' :: '%' :: r => do return '%' :: (← fillFrom n args r)
  | n + 1, args, '%' :: r => do
    let (d, args, r) ← takeDirective args r
    match r, args with
    | c :: r, a :: args =>
      let shown ← showArgument room d c a
      return shown ++ (← fillFrom n args r)
    | _, _ => .error .mismatch
  | n + 1, args, c :: r => do return c :: (← fillFrom n args r)

def fill (template : String) (args : List Argument) : Except Problem String :=
  (fillFrom room (template.length + 1) args template.toList).map String.ofList

end

end Template

end VisualNovel.Text
