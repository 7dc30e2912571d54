import VisualNovel.Number.Numeral
import VisualNovel.Yaml.Scalar

/-!
# Tokens

A source as its tokens, which are read when they are asked for. Indentation becomes tokens that open
and close collections, and a value mark that follows a simple key puts a token in front of the key.
So a token that may yet turn out to be a key is not given out before more tokens have been read.
-/
namespace VisualNovel.Yaml

open VisualNovel.Text

/-- A directive line. -/
inductive Pragma where
  | version (major : Nat)
  | handle (handle lead : String)
  | unknown
deriving DecidableEq, Repr

/-- A tag as it is written: with a handle that stands for the front of it, or in full. -/
structure TagText where
  handle : Option String
  suffix : String
deriving DecidableEq, Repr

inductive Token where
  | pragma (p : Pragma)
  | documentStart
  | documentEnd
  | sequenceStart
  | mappingStart
  | blockEnd
  | flowSequenceStart
  | flowSequenceEnd
  | flowMappingStart
  | flowMappingEnd
  | entry
  | flowEntry
  | key
  | value
  | alias (name : String)
  | anchor (name : String)
  | tag (t : TagText)
  | scalar (text : String) (plain : Bool)
deriving DecidableEq, Repr

/-- A token that turns out to be a key if a value mark follows on its line. -/
structure SimpleKey where
  position : Nat
  required : Bool
  line : Nat
  column : Nat
  index : Nat
deriving Repr

def isNameChar (x : Char) : Bool :=
  isAsciiDigit x || ('A' ≤ x && x ≤ 'Z') || ('a' ≤ x && x ≤ 'z') || x = '-' || x = '_'

def uriMarks : List Char :=
  "-;/?:@&=+$,_.!~*'()[]%".toList

def isUriChar (x : Char) : Bool :=
  isNameChar x || uriMarks.contains x

def endsName (x : Char) : Bool :=
  isGap x || x = '?' || x = ':' || x = ',' || x = ']' || x = '\x7d' || x = '%' || x = '@' || x = '\x60'

/-- Characters with which no plain scalar begins, unless what follows makes them text. -/
def indicators : List Char :=
  "-?:,[]\x7b\x7d#&*!|>'\"%@\x60".toList

namespace Scan

/-- Reads a name that is not empty. -/
def takeName : Scan String := do
  match ← span isNameChar with
  | [] => malformed
  | name => return String.ofList name

/-- Reads a tag handle: an exclamation mark alone, or a name between two of them. -/
def takeHandle : Scan String := do
  if (← peek) ≠ '!' then malformed
  if (← ahead 1) = ' ' then
    skip 1
    return "!"
  else
    skip 1
    let name ← span isNameChar
    if ← accept '!' then return "!" ++ String.ofList name ++ "!" else malformed

/-- Reads bytes written as a percent sign and two hexadecimal digits. -/
def takeUriBytes : (rounds : Nat) → Scan (List UInt8)
  | 0 => return []
  | n + 1 => do
    if ← accept '%' then
      let b := ofDigits 16 (← hexAhead 0 2)
      skip 2
      return UInt8.ofNat b :: (← takeUriBytes n)
    else return []

def takeUri : (rounds : Nat) → Scan (List Char)
  | 0 => return []
  | n + 1 => do
    let run ← span fun x => isUriChar x && x ≠ '%'
    if (← peek) = '%' then
      match Utf8.decode (← looping takeUriBytes) with
      | .ok s => return run ++ s ++ (← takeUri n)
      | .error _ => malformed
    else return run

def takeWholeUri : Scan String := do
  let before := (← get).index
  let uri ← looping takeUri
  if (← get).index = before then malformed
  return String.ofList uri

def takeNatural : Scan Nat := do
  let digits := (← get).rest.takeWhile isAsciiDigit
  let _ ← ahead digits.length
  if digits.isEmpty then malformed
  if Number.maxDigits < digits.length then throw (.integerDigits digits.length)
  skip digits.length
  return ofDigits 10 (digits.filterMap digitValue?)

def expectWordEnd : Scan Unit := do
  if !endsWord (← peek) then malformed

def takePragma : Scan Pragma := do
  let name ← takeName
  expectWordEnd
  let pragma ←
    if name = "YAML" then do
      skipSpaces
      let major ← takeNatural
      if !(← accept '.') then malformed
      let _ ← takeNatural
      expectWordEnd
      pure (Pragma.version major)
    else if name = "TAG" then do
      skipSpaces
      let handle ← takeHandle
      if (← peek) ≠ ' ' then malformed
      skipSpaces
      let lead ← takeWholeUri
      expectWordEnd
      pure (Pragma.handle handle lead)
    else do
      skipWhile fun x => !isBreak x
      pure Pragma.unknown
  skipToLineEnd
  return pragma

/-- Whether an exclamation mark follows in what stands up to the next blank. -/
def holdsHandle : Scan Bool := do
  let word := ((← get).rest.drop 1).takeWhile fun x => !(endsWord x || x = '!')
  return (← ahead (word.length + 1)) = '!'

def takeTag : Scan TagText := do
  let x ← ahead 1
  let t ←
    if x = '<' then do
      skip 2
      let suffix ← takeWholeUri
      if !(← accept '>') then malformed
      pure (⟨none, suffix⟩ : TagText)
    else if isGap x then do
      skip 1
      pure ⟨none, "!"⟩
    else do
      let handle ←
        if ← holdsHandle then takeHandle
        else do
          skip 1
          pure "!"
      pure ⟨some handle, ← takeWholeUri⟩
  expectWordEnd
  return t

def takeAnchor : Scan String := do
  skip 1
  let name ← takeName
  if endsName (← peek) then return name else malformed

/-- Skips blanks, comments and line breaks, and tells whether there was a line break. -/
def skipToText : (rounds : Nat) → Scan Bool
  | 0 => return false
  | n + 1 => do
    skipSpaces
    skipComment
    match ← takeBreak with
    | [] => return false
    | _ =>
      let _ ← skipToText n
      return true

/-- Whether a plain scalar begins here. -/
def startsPlain (inFlow : Bool) : Scan Bool := do
  let x ← peek
  if !(isGap x || indicators.contains x) then return true
  else
    let next ← ahead 1
    return !isGap next && (x = '-' || (!inFlow && (x = '?' || x = ':')))

end Scan

structure Scanner where
  cursor : Cursor
  flow : Nat := 0
  indent : Int := -1
  indents : List Int := []
  keyAllowed : Bool := true
  /-- The possible keys, by the depth of brackets. -/
  keys : List (Nat × SimpleKey) := []
  /-- The tokens that have been read and not given out. -/
  tokens : List Token := []
  /-- How many tokens have been given out. -/
  taken : Nat := 0
  finished : Bool := false

abbrev Scanning := StateT Scanner (Except Failure)

namespace Scanner

def malformed {α : Type} : Scanning α :=
  throw .malformed

def scan {α : Type} (act : Scan α) : Scanning α := do
  let s ← get
  let (a, cursor) ← act s.cursor
  set { s with cursor }
  return a

def push (t : Token) : Scanning Unit :=
  modify fun s => { s with tokens := s.tokens ++ [t] }

/-- Puts a token in front of the one that was or will be given out after `position` others. -/
def insertToken (position : Nat) (t : Token) : Scanning Unit :=
  modify fun s =>
    let place := position - s.taken
    { s with tokens := s.tokens.take place ++ t :: s.tokens.drop place }

def allowKey (allowed : Bool) : Scanning Unit :=
  modify fun s => { s with keyAllowed := allowed }

/-- How far a simple key may reach. -/
def keyReach : Nat := 1024

/-- Forgets the possible keys that satisfy a test; none of them may be required. -/
def forget (test : Nat × SimpleKey → Bool) : Scanning Unit := do
  if (← get).keys.any fun k => test k && k.2.required then malformed
  modify fun s => { s with keys := s.keys.filter fun k => !test k }

def dropStaleKeys : Scanning Unit := do
  let c := (← get).cursor
  forget fun k => k.2.line != c.line || keyReach < c.index - k.2.index

def dropKey : Scanning Unit := do
  let flow := (← get).flow
  forget fun k => k.1 == flow

def saveKey : Scanning Unit := do
  if (← get).keyAllowed then
    dropKey
    modify fun s =>
      let c := s.cursor
      let required := s.flow == 0 && s.indent == c.column
      let key : SimpleKey := ⟨s.taken + s.tokens.length, required, c.line, c.column, c.index⟩
      { s with keys := (s.flow, key) :: s.keys }

def closeBlocks (column : Int) : (rounds : Nat) → Scanning Unit
  | 0 => return
  | n + 1 => do
    if column < (← get).indent then
      push .blockEnd
      modify fun s => { s with indent := s.indents.headD (-1), indents := s.indents.tail }
      closeBlocks column n

/-- Closes the blocks that are indented more than a column. Inside brackets there are none. -/
def unwind (column : Int) : Scanning Unit := do
  let s ← get
  if s.flow = 0 then closeBlocks column (s.indents.length + 1)

/-- Opens a block at a column if it is indented more than the one around it. -/
def openBlock (column : Nat) : Scanning Bool := do
  let s ← get
  if s.indent < column then
    set { s with indent := column, indents := s.indent :: s.indents }
    return true
  else return false

def pushMark (t : Token) (width : Nat) : Scanning Unit := do
  scan (Scan.skip width)
  push t

/-- Skips to the next token. Outside brackets a line break makes room for a key. -/
def skipToToken : Scanning Unit := do
  if (← get).cursor.index = 0 then
    let _ ← scan (Scan.accept orderMark)
  let broken ← scan (Scan.looping Scan.skipToText)
  if broken && (← get).flow = 0 then allowKey true

/-- Leaves all blocks for a line that separates documents or speaks about them. -/
def leaveDocument : Scanning Unit := do
  unwind (-1)
  dropKey
  allowKey false

def fetchEnd : Scanning Unit := do
  leaveDocument
  modify fun s => { s with keys := [], finished := true }

def fetchPragma : Scanning Unit := do
  leaveDocument
  let p ← scan do
    Scan.skip 1
    Scan.takePragma
  push (.pragma p)

def fetchSeparator (t : Token) : Scanning Unit := do
  leaveDocument
  pushMark t 3

def fetchFlowStart (t : Token) : Scanning Unit := do
  saveKey
  modify fun s => { s with flow := s.flow + 1, keyAllowed := true }
  pushMark t 1

def fetchFlowEnd (t : Token) : Scanning Unit := do
  dropKey
  modify fun s => { s with flow := s.flow - 1, keyAllowed := false }
  pushMark t 1

def fetchFlowEntry : Scanning Unit := do
  allowKey true
  dropKey
  pushMark .flowEntry 1

/-- Opens a block collection here unless it is open already; outside brackets that needs room. -/
def startBlock (t : Token) : Scanning Unit := do
  let s ← get
  if s.flow = 0 then
    if !s.keyAllowed then malformed
    if ← openBlock s.cursor.column then push t

def fetchEntry : Scanning Unit := do
  startBlock .sequenceStart
  allowKey true
  dropKey
  pushMark .entry 1

def fetchKey : Scanning Unit := do
  startBlock .mappingStart
  allowKey ((← get).flow == 0)
  dropKey
  pushMark .key 1

/-- A value mark: behind a simple key, in front of which it puts a token, or on its own. -/
def fetchValue : Scanning Unit := do
  let s ← get
  match s.keys.lookup s.flow with
  | some k =>
    set { s with keys := s.keys.filter fun k => k.1 != s.flow }
    insertToken k.position .key
    if s.flow = 0 then
      if ← openBlock k.column then insertToken k.position .mappingStart
    allowKey false
  | none =>
    startBlock .mappingStart
    allowKey (s.flow == 0)
    dropKey
  pushMark .value 1

/-- Takes a token that may be a key, and behind which there is no room for another one. -/
def fetchToken (act : Scan Token) : Scanning Unit := do
  saveKey
  allowKey false
  push (← scan act)

def fetchBlockScalar (folded : Bool) : Scanning Unit := do
  allowKey true
  dropKey
  let text ← scan (Scan.blockScalar folded (← get).indent)
  push (.scalar (String.ofList text) false)

def fetchQuoted (double : Bool) : Scanning Unit :=
  fetchToken do return .scalar (String.ofList (← Scan.quotedScalar double)) false

def fetchPlain : Scanning Unit := do
  saveKey
  let s ← get
  let (text, broken) ← scan (Scan.plainScalar (s.flow ≠ 0) s.indent)
  allowKey broken
  push (.scalar (String.ofList text) true)

/-- What the character at the cursor begins if it is no plain scalar. -/
def fetchMarked (x : Char) : Scanning Bool := do
  let s ← get
  let inFlow := s.flow ≠ 0
  let gapFollows : Scanning Bool := do return isGap (← scan (Scan.ahead 1))
  let done (act : Scanning Unit) : Scanning Bool := do
    act
    return true
  if s.cursor.column = 0 then
    if x = '%' then return ← done fetchPragma
    if x = '-' then
      if ← scan (Scan.atMark [Scan.startMark]) then return ← done (fetchSeparator .documentStart)
    if x = '.' then
      if ← scan (Scan.atMark [Scan.endMark]) then return ← done (fetchSeparator .documentEnd)
  match x with
  | '[' => done (fetchFlowStart .flowSequenceStart)
  | '\x7b' => done (fetchFlowStart .flowMappingStart)
  | ']' => done (fetchFlowEnd .flowSequenceEnd)
  | '\x7d' => done (fetchFlowEnd .flowMappingEnd)
  | ',' => done fetchFlowEntry
  | '-' => if ← gapFollows then done fetchEntry else return false
  | '?' => if inFlow then done fetchKey else if ← gapFollows then done fetchKey else return false
  | ':' => if inFlow then done fetchValue else if ← gapFollows then done fetchValue else return false
  | '*' => done (fetchToken do return .alias (← Scan.takeAnchor))
  | '&' => done (fetchToken do return .anchor (← Scan.takeAnchor))
  | '!' => done (fetchToken do return .tag (← Scan.takeTag))
  | '|' => if inFlow then return false else done (fetchBlockScalar false)
  | '>' => if inFlow then return false else done (fetchBlockScalar true)
  | '\x27' => done (fetchQuoted false)
  | '"' => done (fetchQuoted true)
  | _ => return false

/-- Reads on to the next token, or to the end. Further tokens may come with it. -/
def fetch : Scanning Unit := do
  skipToToken
  dropStaleKeys
  unwind (← get).cursor.column
  let x ← scan Scan.peek
  if x = nul then fetchEnd
  else if !(← fetchMarked x) then
    if ← scan (Scan.startsPlain ((← get).flow ≠ 0)) then fetchPlain else malformed

/-- Reads on until the next token is there and is no possible key. -/
def fill : (rounds : Nat) → Scanning Unit
  | 0 => return
  | n + 1 => do
    if (← get).finished then return
    if !(← get).tokens.isEmpty then
      dropStaleKeys
      let s ← get
      if !(s.keys.any fun k => k.2.position == s.taken) then return
    fetch
    fill n

/-- The next token; nothing follows the last one. -/
def peek : Scanning (Option Token) := do
  fill ((← get).cursor.size + 2)
  return (← get).tokens.head?

def skip : Scanning Unit := do
  let _ ← peek
  modify fun s => { s with tokens := s.tokens.tail, taken := s.taken + 1 }

end Scanner

end VisualNovel.Yaml
