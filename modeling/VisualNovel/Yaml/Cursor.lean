import VisualNovel.Yaml.Source

/-!
# Cursors

A place in a source that is being read: what comes next, and the line and column that it stands in.
At the end of a text a cursor sees the NUL character, which no readable text holds; where a source
breaks off, to look further or to step there is its failure.
-/
namespace VisualNovel.Yaml

def isBreak (c : Char) : Bool :=
  c = '\n' || c = '\u0085' || c = '\u2028' || c = '\u2029'

/-- The byte order mark, which takes no room in a line. -/
def orderMark : Char := '\ufeff'

def nul : Char := Char.ofNat 0

def isSpace (c : Char) : Bool :=
  c = ' '

def isSpaceOrTab (c : Char) : Bool :=
  c = ' ' || c = '\t'

/-- What has to follow an indicator: a blank, a line break or the end. -/
def isGap (c : Char) : Bool :=
  c = nul || isSpaceOrTab c || isBreak c

def endsLine (c : Char) : Bool :=
  c = nul || isBreak c

def endsWord (c : Char) : Bool :=
  c = ' ' || endsLine c

structure Cursor where
  rest : List Char
  stop : Option Failure := none
  /-- How many characters the source has. -/
  size : Nat
  line : Nat := 0
  column : Nat := 0
  index : Nat := 0
deriving Repr

def Cursor.ofSource (s : Source) : Cursor :=
  { rest := s.text, stop := s.stop, size := s.text.length }

namespace Cursor

def advance (c : Cursor) : Cursor :=
  match c.rest with
  | [] => c
  | x :: rest =>
    let c := { c with rest, index := c.index + 1 }
    if isBreak x then { c with line := c.line + 1, column := 0 }
    else if x = orderMark then c
    else { c with column := c.column + 1 }

def skip (c : Cursor) : Nat → Cursor
  | 0 => c
  | n + 1 => c.advance.skip n

end Cursor

abbrev Scan := StateT Cursor (Except Failure)

namespace Scan

def ahead (n : Nat) : Scan Char := do
  let c ← get
  match c.rest.drop n, c.stop with
  | x :: _, _ => return x
  | [], none => return nul
  | [], some f => throw f

def peek : Scan Char :=
  ahead 0

def skip (n : Nat) : Scan Unit := do
  modify fun c => c.skip n
  let _ ← peek

def column : Scan Nat :=
  return (← get).column

def span (p : Char → Bool) : Scan (List Char) := do
  let taken := (← get).rest.takeWhile p
  skip taken.length
  return taken

def skipWhile (p : Char → Bool) : Scan Unit := do
  let _ ← span p

def skipSpaces : Scan Unit :=
  skipWhile isSpace

def skipComment : Scan Unit := do
  if (← peek) = '#' then skipWhile fun x => !isBreak x

def accept (x : Char) : Scan Bool := do
  if (← peek) = x then
    skip 1
    return true
  else return false

/-- Takes a line break, if one comes next, and tells what it stands for in a scalar. -/
def takeBreak : Scan (List Char) := do
  let x ← peek
  if x = '\n' || x = '\u0085' then
    skip 1
    return ['\n']
  else if x = '\u2028' || x = '\u2029' then
    skip 1
    return [x]
  else return []

def startMark : List Char := ['-', '-', '-']

def endMark : List Char := ['.', '.', '.']

/-- Whether one of some marks of three characters comes next and stands alone. -/
def atMark (marks : List (List Char)) : Scan Bool := do
  let _ ← ahead 2
  if marks.contains ((← get).rest.take 3) then return isGap (← ahead 3) else return false

/-- Whether a document separator comes next. -/
def atSeparator : Scan Bool :=
  atMark [startMark, endMark]

end Scan

end VisualNovel.Yaml
