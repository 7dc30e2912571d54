import VisualNovel.Text.Surrogate
import VisualNovel.Yaml.Cursor

/-!
# Scalars in a text

The presentation of scalars: plain, quoted in two ways, and as indented blocks. Line breaks inside a
scalar are folded or kept as its style says. Every loop takes at least one character in a round, so
the number of characters bounds the rounds.
-/
namespace VisualNovel.Yaml

open VisualNovel.Text

namespace Scan

def malformed {α : Type} : Scan α :=
  throw .malformed

/-- Runs a loop with one round more than the source has characters. -/
def looping {α : Type} (loop : Nat → Scan α) : Scan α := do
  loop ((← get).size + 1)

def skipIndent (indent : Nat) : (rounds : Nat) → Scan Unit
  | 0 => return
  | n + 1 => do
    if (← column) < indent then
      if ← accept ' ' then skipIndent indent n

def blockBreaks (indent : Nat) : (rounds : Nat) → Scan (List Char)
  | 0 => return []
  | n + 1 => do
    looping (skipIndent indent)
    match ← takeBreak with
    | [] => return []
    | b => return b ++ (← blockBreaks indent n)

/-- Empty lines at the start of a block whose indentation is not given, and the widest of them. -/
def blockIndent (widest : Nat) : (rounds : Nat) → Scan (List Char × Nat)
  | 0 => return ([], widest)
  | n + 1 => do
    if ← accept ' ' then
      blockIndent (max widest (← column)) n
    else
      match ← takeBreak with
      | [] => return ([], widest)
      | b =>
        let (bs, w) ← blockIndent widest n
        return (b ++ bs, w)

/-- What happens to the line breaks at the end of a block. -/
inductive Chomping where
  | strip
  | clip
  | keep
deriving DecidableEq, Repr

def takeChomping : Scan (Option Chomping) := do
  if ← accept '+' then return some .keep
  else if ← accept '-' then return some .strip
  else return none

def takeIncrement : Scan (Option Nat) := do
  let x ← peek
  if x = '0' then malformed
  else if isAsciiDigit x then
    skip 1
    return some (x.toNat - 48)
  else return none

def blockHeader : Scan (Chomping × Option Nat) := do
  let first ← takeChomping
  let increment ← takeIncrement
  let second ← if first.isNone && increment.isSome then takeChomping else pure none
  if !endsWord (← peek) then malformed
  return ((first.or second).getD .clip, increment)

/-- Skips spaces and a comment up to the end of the line, and the line break. -/
def skipToLineEnd : Scan Unit := do
  skipSpaces
  skipComment
  if !endsLine (← peek) then malformed
  let _ ← takeBreak

/-- Whether a line of a block begins here. -/
def atBlockLine (indent : Nat) : Scan Bool := do
  if (← column) = indent then return (← peek) ≠ nul else return false

/-- The text of the lines of a block without the last line break, that line break, and the empty
lines behind it. -/
structure BlockText where
  text : List Char := []
  lastBreak : List Char := []
  emptyLines : List Char

def blockLines (folded : Bool) (indent : Nat) : (rounds : Nat) → (breaks : List Char) → Scan BlockText
  | 0, breaks => return { emptyLines := breaks }
  | n + 1, breaks => do
    let leadsWithText := !isSpaceOrTab (← peek)
    let line ← span fun x => !isBreak x
    let lineBreak ← takeBreak
    let next ← looping (blockBreaks indent)
    if ← atBlockLine indent then
      let joint :=
        if folded && lineBreak = ['\n'] && leadsWithText && !isSpaceOrTab (← peek) then
          if next.isEmpty then [' '] else []
        else lineBreak
      let b ← blockLines folded indent n next
      return { b with text := breaks ++ line ++ joint ++ b.text }
    else return { text := breaks ++ line, lastBreak := lineBreak, emptyLines := next }

/-- Reads a block scalar; `indent` is the indentation of the collection around it. -/
def blockScalar (folded : Bool) (indent : Int) : Scan (List Char) := do
  skip 1
  let (chomping, increment) ← blockHeader
  skipToLineEnd
  let least := (max (indent + 1) 1).toNat
  let (indent, breaks) ←
    match increment with
    | some k => do
      let indent := least + k - 1
      pure (indent, ← looping (blockBreaks indent))
    | none => do
      let (breaks, widest) ← looping (blockIndent 0)
      pure (max least widest, breaks)
  let b ←
    if ← atBlockLine indent then looping fun n => blockLines folded indent n breaks
    else pure { emptyLines := breaks }
  return match chomping with
    | .strip => b.text
    | .clip => b.text ++ b.lastBreak
    | .keep => b.text ++ b.lastBreak ++ b.emptyLines

def escapes : List (Char × Nat) := [
  ('0', 0), ('a', 7), ('b', 8), ('t', 9), ('\t', 9), ('n', 10), ('v', 11), ('f', 12), ('r', 13),
  ('e', 27), (' ', 32), ('"', 34), ('\\', 92), ('/', 47), ('N', 0x85), ('_', 0xA0), ('L', 0x2028),
  ('P', 0x2029)]

def escapeWidth? (x : Char) : Option Nat :=
  match x with
  | 'x' => some 2
  | 'u' => some 4
  | 'U' => some 8
  | _ => none

/-- Looks at exactly `width` hexadecimal digits from some place on. -/
def hexAhead (place : Nat) : (width : Nat) → Scan (List Nat)
  | 0 => return []
  | n + 1 => do
    match hexValue? (← ahead place) with
    | some d => return d :: (← hexAhead (place + 1) n)
    | none => malformed

/-- Reads the number of a code point in exactly `width` hexadecimal digits. -/
def takePoint (width : Nat) : Scan Char := do
  let n := ofDigits 16 (← hexAhead 0 width)
  if 0x110000 ≤ n then throw (.codePoint n)
  skip width
  return charOfPoint n

/-- Line breaks and blanks behind the first line break in a quoted scalar. -/
def quotedBreaks : (rounds : Nat) → Scan (List Char)
  | 0 => malformed
  | n + 1 => do
    if ← atSeparator then malformed
    skipWhile isSpaceOrTab
    match ← takeBreak with
    | [] => return []
    | b => return b ++ (← quotedBreaks n)

/-- What a line break and the empty lines behind it stand for: a line break alone is a space. -/
def foldBreaks (lineBreak empty : List Char) : List Char :=
  if lineBreak ≠ ['\n'] then lineBreak ++ empty else if empty.isEmpty then [' '] else empty

def quotedBlanks : Scan (List Char) := do
  let blanks ← span isSpaceOrTab
  if (← peek) = nul then malformed
  match ← takeBreak with
  | [] => return blanks
  | b => return foldBreaks b (← looping quotedBreaks)

def escape : Scan (List Char) := do
  let x ← peek
  match escapes.lookup x, escapeWidth? x with
  | some n, _ =>
    skip 1
    return [Char.ofNat n]
  | none, some width =>
    skip 1
    return [← takePoint width]
  | none, none =>
    match ← takeBreak with
    | [] => malformed
    | _ => looping quotedBreaks

def endsQuotedRun (x : Char) : Bool :=
  x = '\x27' || x = '"' || x = '\\' || isGap x

def quotedFrom (double : Bool) : (rounds : Nat) → Scan (List Char)
  | 0 => malformed
  | n + 1 => do
    let run ← span fun y => !endsQuotedRun y
    let x ← peek
    if x = (if double then '"' else '\x27') then
      let escaped ← if double then pure false else pure ((← ahead 1) = '\x27')
      if escaped then
        skip 2
        return run ++ '\x27' :: (← quotedFrom double n)
      else
        skip 1
        return run
    else if x = '\\' && double then
      skip 1
      let e ← escape
      return run ++ e ++ (← quotedFrom double n)
    else if isGap x then
      let b ← quotedBlanks
      return run ++ b ++ (← quotedFrom double n)
    else
      skip 1
      return run ++ x :: (← quotedFrom double n)

def quotedScalar (double : Bool) : Scan (List Char) := do
  skip 1
  looping (quotedFrom double)

def isFlowMark (x : Char) : Bool :=
  x = ',' || x = '?' || x = '[' || x = ']' || x = '\x7b' || x = '\x7d'

/-- Whether a plain scalar ends in front of the rest of a text. -/
def endsPlain (inFlow : Bool) : List Char → Bool
  | [] => true
  | x :: rest =>
    let next := rest.headD nul
    isGap x || (inFlow && isFlowMark x) ||
      (x = ':' && (isGap next || (inFlow && isFlowMark next && next ≠ '?')))

/-- The length of the part of a plain scalar that holds no blanks. -/
def plainRun (inFlow : Bool) : List Char → Nat
  | [] => 0
  | x :: rest => if endsPlain inFlow (x :: rest) then 0 else plainRun inFlow rest + 1

/-- Looks for the end of the part of a plain scalar that holds no blanks. A colon ends it only on
account of what follows. -/
def plainLength (inFlow : Bool) : Scan Nat := do
  let length := plainRun inFlow (← get).rest
  if (← ahead length) = ':' then
    let _ ← ahead (length + 1)
  return length

/-- Empty lines inside a plain scalar; nothing is given if a document separator follows. -/
def plainBreaks : (rounds : Nat) → Scan (Option (List Char))
  | 0 => return none
  | n + 1 => do
    skipSpaces
    match ← takeBreak with
    | [] => return some []
    | b =>
      if ← atSeparator then return none
      else return (← plainBreaks n).map (b ++ ·)

/-- Spaces and line breaks behind a part of a plain scalar: the text that they stand for, and whether
there was a line break. -/
def plainBlanks : Scan (List Char × Bool) := do
  let blanks ← span isSpace
  match ← takeBreak with
  | [] => return (blanks, false)
  | b =>
    if ← atSeparator then return ([], true)
    else
      match ← looping plainBreaks with
      | none => return ([], true)
      | some bs => return (foldBreaks b bs, true)

/-- Reads a plain scalar. `broken` tells whether a line break was the last thing that was read, and
`gap` is what stands in front of the next part. -/
def plainFrom (inFlow : Bool) (indent : Int) :
    (rounds : Nat) → (gap : List Char) → (broken : Bool) → Scan (List Char × Bool)
  | 0, _, broken => return ([], broken)
  | n + 1, gap, broken => do
    if (← peek) = '#' then return ([], broken)
    let length ← plainLength inFlow
    if length = 0 then return ([], broken)
    let part := (← get).rest.take length
    skip length
    let (next, broken) ← plainBlanks
    let isEnd ←
      if next.isEmpty then pure true
      else if (← peek) = '#' then pure true
      else pure (!inFlow && ((← column) : Int) < indent)
    if isEnd then return (gap ++ part, broken)
    else
      let (s, broken) ← plainFrom inFlow indent n next broken
      return (gap ++ part ++ s, broken)

/-- Reads a plain scalar below an indentation: its text, and whether it ended in a line break. -/
def plainScalar (inFlow : Bool) (indent : Int) : Scan (List Char × Bool) :=
  looping fun n => plainFrom inFlow (indent + 1) n [] false

end Scan

end VisualNovel.Yaml
