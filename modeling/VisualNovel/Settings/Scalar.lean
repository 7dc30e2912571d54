import VisualNovel.Number.Numeral
import VisualNovel.Settings.Datum
import VisualNovel.Settings.Issue
import VisualNovel.Text.Field
import VisualNovel.Text.Surrogate
import VisualNovel.Text.Utf8

/-!
# Scalar settings

How the scalar of a document becomes an integer, a truth value or a text. Integers may be written as
truth values, whole numbers or numerals, truth values as words or as zero and one; texts are never
made from anything else. Only a text that stays a text may hold unpaired surrogates.
-/
namespace VisualNovel.Settings

open VisualNovel.Number
open VisualNovel.Text

def isNumeralBlank (c : Char) : Bool :=
  isBlank c && !(28 ≤ c.toNat && c.toNat ≤ 31)

/-- Drops zeros and underscores in front of the first other digit, minus sign or point. A numeral of
zeros only keeps its last character. -/
def dropZeros (last : Char) : List Char → Option (List Char)
  | [] => some [last]
  | c :: r =>
    if c = '0' || c = '_' then dropZeros c r
    else if ('1' ≤ c && c ≤ '9') || c = '-' then some (c :: r)
    else if c = '.' then some (last :: c :: r)
    else none

def stripZeros : List Char → Option (List Char)
  | '0' :: r => dropZeros '0' r
  | c :: r => if ('1' ≤ c && c ≤ '9') || c = '-' then some (c :: r) else none
  | [] => none

/-- The numeral without a plus sign and without leading zeros, also behind a minus sign. -/
def stripLead : List Char → Option (List Char)
  | '+' :: '-' :: _ => none
  | '+' :: r => stripZeros r
  | '-' :: r => (stripZeros r).map ('-' :: ·)
  | s => stripZeros s

/-- The numeral without a point that only zeros follow, of which there has to be one. -/
def stripPlaces (s : List Char) : List Char :=
  match splitFirst '.' s with
  | some (whole, places) => if places ≠ [] && places.all (· == '0') then whole else s
  | none => s

/-- Whether two underscores stand side by side. -/
def hasDoubleUnderscore : List Char → Bool
  | '_' :: '_' :: _ => true
  | _ :: r => hasDoubleUnderscore r
  | [] => false

/-- The numeral without its underscores, which stand alone and between other characters. -/
def stripUnderscores (s : List Char) : Option (List Char) :=
  if s.head? = some '_' || s.getLast? = some '_' || hasDoubleUnderscore s then none
  else some (s.filter (· ≠ '_'))

/-- ASCII digits that do not begin with a zero unless they are zero. -/
def readDigits? : List Char → Option Nat
  | ['0'] => some 0
  | c :: r =>
    if c ≠ '0' && (c :: r).all isAsciiDigit then some (ofDigits 10 ((c :: r).filterMap digitValue?))
    else none
  | [] => none

/-- Whether the digits that a text starts with, counted with a minus sign in front of them, are more
than a numeral may have. Digits that begin with a zero are not counted. -/
def isOverlong (s : List Char) : Bool :=
  let digits := match s with
    | '-' :: r => r
    | _ => s
  match digits with
  | '0' :: _ => false
  | _ =>
    let run := digits.takeWhile isAsciiDigit
    run ≠ [] && maxDigits < run.length + (s.length - digits.length)

def readPlain (s : List Char) : Checked Int :=
  if isOverlong s then Checked.fail .integerSize
  else
    let value? := match s with
      | '-' :: r => (readDigits? r).map fun n => -(n : Int)
      | _ => (readDigits? s).map Int.ofNat
    match value? with
    | some i => .ok i
    | none => Checked.fail .integerText

/-- Reads an integer from the text of a setting. A text that starts with too many digits is refused
for its size, whatever stands behind them. -/
def integerOfText (s : String) : Checked Int :=
  if isOverlong s.toList then Checked.fail .integerSize
  else
    let trimmed := stripWhile isNumeralBlank s.toList
    match (stripLead trimmed).bind fun s => stripUnderscores (stripPlaces s) with
    | some plain => readPlain plain
    | none => Checked.fail .integerText

/-- What integers of 64 bits with a sign stay below. -/
def wordLimit : Int := 0x8000000000000000

/-- The integer that a whole number stands for; it has to fit into 64 bits. -/
def integerOfReal (x : Binary64) : Checked Int :=
  match x.truncate with
  | .error _ => Checked.fail .notFinite
  | .ok i =>
    if !x.isWhole then Checked.fail .integerPart
    else if -wordLimit < i && i < wordLimit then .ok i
    else Checked.fail .integerSize

def textOf? : Datum → Option (Option String)
  | .text s => some (some s)
  | .bytes b =>
    match Utf8.decodeString b with
    | .ok s => some (some s)
    | .error _ => some none
  | _ => none

def integer (d : Datum) : Checked Int :=
  match textOf? d with
  | some (some s) => if holdsSurrogate s then Checked.fail .textEncoding else integerOfText s
  | some none => Checked.fail .integerText
  | none =>
    match d with
    | .integer i => .ok i
    | .truth b => .ok (if b then 1 else 0)
    | .real x => integerOfReal x
    | _ => Checked.fail .integerType

def trueWords : List String :=
  ["1", "on", "t", "true", "y", "yes"]

def falseWords : List String :=
  ["0", "off", "f", "false", "n", "no"]

def truthOfText (s : String) : Checked Bool :=
  let word := String.ofList (s.toList.map Char.toLower)
  if trueWords.contains word then .ok true
  else if falseWords.contains word then .ok false
  else Checked.fail .truthText

def truthOfInteger (i : Int) : Checked Bool :=
  if i = 0 then .ok false else if i = 1 then .ok true else Checked.fail .truthText

def truth (d : Datum) : Checked Bool :=
  match textOf? d with
  | some (some s) => if holdsSurrogate s then Checked.fail .textEncoding else truthOfText s
  | some none => Checked.fail .truthText
  | none =>
    match d with
    | .truth b => .ok b
    | .integer i =>
      if -wordLimit ≤ i && i < wordLimit then truthOfInteger i else Checked.fail .truthType
    | .real x =>
      match integerOfReal x with
      | .ok i => truthOfInteger i
      | .error _ => Checked.fail .truthType
    | _ => Checked.fail .truthType

def text (d : Datum) : Checked String :=
  match textOf? d with
  | some (some s) => .ok s
  | some none => Checked.fail .textEncoding
  | none => Checked.fail .textType

def optionalText : Datum → Checked (Option String)
  | .null => .ok none
  | d => (text d).map some

def integerThat (test : Int → Option IssueKind) (d : Datum) : Checked Int :=
  match integer d with
  | .error e => .error e
  | .ok i =>
    match test i with
    | some kind => Checked.fail kind
    | none => .ok i

def greaterThan (bound : Int) (i : Int) : Option IssueKind :=
  if i ≤ bound then some (.notGreater bound) else none

def positive (i : Int) : Option IssueKind :=
  if i ≤ 0 then some (.notPositive i) else none

def channelRange (i : Int) : Option IssueKind :=
  if 255 < i then some (.notAtMost 255) else if i < 0 then some (.notAtLeast 0) else none

end VisualNovel.Settings
