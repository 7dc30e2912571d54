import VisualNovel.Text.Blank
import VisualNovel.Text.Digit

/-!
# Tags

The types that a node can have, and the type that a plain scalar has by its form. A form is tested
only if the first character of the scalar is one with which it can begin; a line break at the very
end does not count.
-/
namespace VisualNovel.Yaml

open VisualNovel.Text

inductive Tag where
  | null
  | truth
  | integer
  | real
  | binary
  | timestamp
  | orderedMap
  | pairs
  | set
  | text
  | sequence
  | mapping
  /-- The key whose value is merged into the mapping around it. -/
  | merge
  /-- The key whose value stands for the mapping around it. -/
  | default
  | unknown
deriving DecidableEq, Inhabited, Repr

namespace Tag

def standardLead : String :=
  "tag:yaml.org,2002:"

def standard : List (String × Tag) := [
  ("null", null), ("bool", truth), ("int", integer), ("float", real), ("binary", binary),
  ("timestamp", timestamp), ("omap", orderedMap), ("pairs", pairs), ("set", set), ("str", text),
  ("seq", sequence), ("map", mapping), ("merge", merge), ("value", default)]

def ofText (s : String) : Tag :=
  match standard.find? fun (name, _) => s == standardLead ++ name with
  | some (_, t) => t
  | none => unknown

def nullWords : List String :=
  ["~", "null", "Null", "NULL", ""]

def truthWords : List String :=
  words "yes Yes YES no No NO true True TRUE false False FALSE on On ON off Off OFF"

def isDigitOrLine (c : Char) : Bool :=
  isAsciiDigit c || c = '_'

def dropSign : List Char → List Char
  | '-' :: r => r
  | '+' :: r => r
  | r => r

/-- Groups of one or two digits below sixty, each behind a colon. -/
def isSixties : List Char → Bool
  | [] => true
  | ':' :: a :: b :: r =>
    if isAsciiDigit b then '0' ≤ a && a ≤ '5' && isSixties r else isAsciiDigit a && isSixties (b :: r)
  | [':', a] => isAsciiDigit a
  | _ => false

/-- A numeral of base sixty: digits and at least one group. -/
def isSexagesimal (s : List Char) : Bool :=
  let rest := s.dropWhile isDigitOrLine
  rest.head? = some ':' && isSixties rest

/-- The forms of integers: binary, octal, decimal, hexadecimal and of base sixty. -/
def isInteger (s : List Char) : Bool :=
  match dropSign s with
  | '0' :: 'b' :: r => r ≠ [] && r.all fun c => c = '0' || c = '1' || c = '_'
  | '0' :: 'x' :: r => r ≠ [] && r.all fun c => (hexValue? c).isSome || c = '_'
  | ['0'] => true
  | '0' :: r => r.all fun c => ('0' ≤ c && c ≤ '7') || c = '_'
  | c :: r =>
    '1' ≤ c && c ≤ '9' && (r.all isDigitOrLine || isSexagesimal (c :: r))
  | [] => false

def isExponent : List Char → Bool
  | [] => true
  | e :: sign :: d :: r =>
    (e = 'e' || e = 'E') && (sign = '+' || sign = '-') && (d :: r).all isAsciiDigit
  | _ => false

def infinityWords : List String :=
  [".inf", ".Inf", ".INF"]

def nanWords : List String :=
  [".nan", ".NaN", ".NAN"]

/-- The forms of numbers: with a point, of base sixty with a point, infinities, and what is not a
number. -/
def isReal (s : List Char) : Bool :=
  let body := dropSign s
  let pointed (s : List Char) : Bool :=
    match s.dropWhile isDigitOrLine with
    | '.' :: r => isExponent (r.dropWhile isDigitOrLine)
    | _ => false
  let sixties (s : List Char) : Bool :=
    let front := s.takeWhile (· ≠ '.')
    match s.dropWhile (· ≠ '.') with
    | _ :: r => isSexagesimal front && r.all isDigitOrLine
    | [] => false
  (body.head?.any isAsciiDigit && (pointed body || sixties body)) ||
    (match s with
      | '.' :: d :: r => isAsciiDigit d && isExponent (r.dropWhile isDigitOrLine)
      | _ => false) ||
    infinityWords.contains (String.ofList body) || nanWords.contains (String.ofList s)

def takeDigitPair : List Char → Option (List Char)
  | a :: b :: r =>
    if isAsciiDigit a then some (if isAsciiDigit b then r else b :: r) else none
  | [a] => if isAsciiDigit a then some [] else none
  | [] => none

def takeDigitRun : Nat → List Char → Option (List Char)
  | 0, s => some s
  | n + 1, c :: r => if isAsciiDigit c then takeDigitRun n r else none
  | _ + 1, [] => none

def takeChar (c : Char) : List Char → Option (List Char)
  | d :: r => if d = c then some r else none
  | [] => none

def isBlankOrTab (c : Char) : Bool :=
  c = ' ' || c = '\t'

/-- Nothing, or a zone: universal time, or an offset of hours and perhaps minutes. -/
def isZone (s : List Char) : Bool :=
  match s.dropWhile isBlankOrTab with
  | [] => s = []
  | ['Z'] => true
  | sign :: r =>
    (sign = '+' || sign = '-') &&
      match takeDigitPair r with
      | some [] => true
      | some (':' :: m) => takeDigitRun 2 m = some []
      | _ => false

def isTimeOfDay (s : List Char) : Bool :=
  let body? :=
    match s with
    | 'T' :: r => some r
    | 't' :: r => some r
    | c :: r => if isBlankOrTab c then some (r.dropWhile isBlankOrTab) else none
    | [] => none
  let rest? := do
    let r ← body?
    let r ← takeDigitPair r
    let r ← takeChar ':' r
    let r ← takeDigitRun 2 r
    let r ← takeChar ':' r
    takeDigitRun 2 r
  match rest? with
  | some ('.' :: r) => isZone (r.dropWhile isAsciiDigit)
  | some r => isZone r
  | none => false

/-- The forms of dates and times. A date on its own has two digits for month and day. -/
def isTimestamp (s : List Char) : Bool :=
  let short := do
    let r ← takeDigitRun 4 s
    let r ← takeChar '-' r
    let r ← takeDigitRun 2 r
    let r ← takeChar '-' r
    takeDigitRun 2 r
  let long := do
    let r ← takeDigitRun 4 s
    let r ← takeChar '-' r
    let r ← takeDigitPair r
    let r ← takeChar '-' r
    takeDigitPair r
  short = some [] || long.any isTimeOfDay

def ofPlain (value : String) : Tag :=
  let chars := value.toList
  let s := if chars.getLast? = some '\n' then chars.dropLast else chars
  let bare := String.ofList s
  match chars.head? with
  | none => null
  | some c =>
    if truthWords.contains bare then truth
    else if nullWords.contains bare && bare ≠ "" then null
    else if bare = "<<" then merge
    else if bare = "=" then default
    else if bare = "!" || bare = "&" || bare = "*" then unknown
    else if (isAsciiDigit c || c = '-' || c = '+' || c = '.') && isReal s then real
    else if (isAsciiDigit c || c = '-' || c = '+') && isInteger s then integer
    else if isAsciiDigit c && isTimestamp s then timestamp
    else text

end Tag

end VisualNovel.Yaml
