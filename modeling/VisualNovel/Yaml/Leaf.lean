import VisualNovel.Settings.Datum
import VisualNovel.Text.Case
import VisualNovel.Text.Field
import VisualNovel.Yaml.Failure
import VisualNovel.Yaml.Tag

/-!
# Leaves of documents

How the text of a scalar is read as the type that it is given: integers and numbers in several
bases, truth words, bytes, and dates and times.
-/
namespace VisualNovel.Yaml

open VisualNovel.Number
open VisualNovel.Text

/-- An integer in a given base; the count of digits is limited in base ten only. -/
def integerIn (base : Nat) (s : List Char) : Except Failure Int :=
  let (_, body) := takeSign (trimChars s)
  let run := body.takeWhile fun c => (digitValue? c).isSome || c = '_'
  let count := (run.filter (· ≠ '_')).length
  if base = 10 && maxDigits < count then .error (.integerDigits count)
  else
    match readIntBase? base s with
    | some i => .ok i
    | none => .error (.integerText base (String.ofList s))

def splitSign (s : List Char) : Except Failure (Bool × List Char) :=
  match s with
  | [] => .error .emptyNumeral
  | _ => .ok (takeSign s)

def sixtiesInteger (parts : List (List Char)) : Except Failure Int := do
  let digits ← parts.mapM (integerIn 10)
  return digits.foldl (fun acc d => acc * 60 + d) 0

def integerOf (value : String) : Except Failure Int := do
  let (negative, s) ← splitSign (value.toList.filter (· ≠ '_'))
  let sign (i : Int) : Int := if negative then -i else i
  match s with
  | ['0'] => return 0
  | '0' :: 'b' :: r => return sign (← integerIn 2 r)
  | '0' :: 'x' :: r => return sign (← integerIn 16 r)
  | '0' :: _ => return sign (← integerIn 8 s)
  | [] => throw .emptyNumeral
  | _ =>
    if s.contains ':' then return sign (← sixtiesInteger (splitAll ':' s))
    else return sign (← integerIn 10 s)

def realText (s : List Char) : Except Failure Binary64 :=
  match Binary64.read? (String.ofList s) with
  | some x => .ok x
  | none => .error (.realText (String.ofList s))

def sixtiesReal (base : Int) (sum : Binary64) : List Binary64 → Except Failure Binary64
  | [] => .ok sum
  | d :: rest =>
    match Binary64.ofInt? base with
    | some b => sixtiesReal (base * 60) (sum.add (d.mul b)) rest
    | none => .error .realRange

/-- A number; nothing stands for the constant that is not a number. -/
def realOf (value : String) : Except Failure (Option Binary64) := do
  let lowered := (lower (String.ofList (value.toList.filter (· ≠ '_')))).toList
  let (negative, s) ← splitSign lowered
  let sign (x : Binary64) : Binary64 := if negative then x.neg else x
  let word := String.ofList s
  if word = ".inf" then return some (Binary64.infinity negative)
  else if word = ".nan" then return none
  else if s.contains ':' then
    let digits ← (splitAll ':' s).mapM realText
    return some (sign (← sixtiesReal 1 (Binary64.ofMagnitude false 0) digits.reverse))
  else return some (sign (← realText s))

def truthOf (value : String) : Except Failure Bool :=
  let word := lower value
  if ["yes", "true", "on"].contains word then .ok true
  else if ["no", "false", "off"].contains word then .ok false
  else .error (.truthWord word)

def sextet? (c : Char) : Option Nat :=
  if 'A' ≤ c && c ≤ 'Z' then some (c.toNat - 65)
  else if 'a' ≤ c && c ≤ 'z' then some (c.toNat - 71)
  else if '0' ≤ c && c ≤ '9' then some (c.toNat + 4)
  else if c = '+' then some 62
  else if c = '/' then some 63
  else none

/-- Decodes groups of four characters of six bits each. Other characters are skipped; padding ends
a group, and behind it only the start of a new group counts. `pending` are the sextets of the
present group. -/
def sextetBytes (pending : List Nat) (pads : Nat) : List Char → Option (List UInt8)
  | [] => if pending.isEmpty then some [] else none
  | c :: rest =>
    if c = '=' then
      match pending with
      | [a, b] => if pads = 1 then some [UInt8.ofNat (a * 4 + b / 16)] else sextetBytes pending 1 rest
      | [a, b, d] => some [UInt8.ofNat (a * 4 + b / 16), UInt8.ofNat (b * 16 + d / 4)]
      | _ => sextetBytes pending pads rest
    else
      match sextet? c with
      | none => sextetBytes pending pads rest
      | some v =>
        match pending with
        | [a, b, d] =>
          (sextetBytes [] 0 rest).map fun bs =>
            UInt8.ofNat (a * 4 + b / 16) :: UInt8.ofNat (b * 16 + d / 4) ::
              UInt8.ofNat (d * 64 + v) :: bs
        | _ => sextetBytes (pending ++ [v]) 0 rest

def bytesOf (value : String) : Except Failure (List UInt8) :=
  if value.toList.any fun c => 128 ≤ c.toNat then .error .malformed
  else
    match sextetBytes [] 0 value.toList with
    | some bs => .ok bs
    | none => .error .malformed

def digitsNumber (s : List Char) : Nat :=
  ofDigits 10 (s.filterMap digitValue?)

def zoneOffset (s : List Char) : Except Failure (Option Int) :=
  match s.dropWhile Tag.isBlankOrTab with
  | [] => .ok none
  | ['Z'] => .ok (some 0)
  | mark :: r =>
    let hours := digitsNumber (r.takeWhile (· ≠ ':'))
    let minutes := digitsNumber (r.dropWhile (· ≠ ':'))
    let seconds : Int := hours * 3600 + minutes * 60
    let offset := if mark = '-' then -seconds else seconds
    if -86400 < offset && offset < 86400 then .ok (some offset)
    else .error (.calendar (.offset offset))

/-- A date or a time of a day. -/
def timestampOf (value : String) : Except Failure Datum := do
  let chars := value.toList
  let s := if chars.getLast? = some '\n' then chars.dropLast else chars
  let year := digitsNumber (s.take 4)
  let month := ((s.drop 5).takeWhile isAsciiDigit).take 2
  let rest := (s.drop 5).drop month.length
  let day := ((rest.drop 1).takeWhile isAsciiDigit).take 2
  let time := (rest.drop 1).drop day.length
  let d : Day := ⟨year, digitsNumber month, digitsNumber day⟩
  let dated := Tag.takeDigitRun 4 s = some (s.drop 4) && (s.drop 4).head? = some '-' &&
    month ≠ [] && rest.head? = some '-' && day ≠ []
  if !dated then throw .timestamp
  else if time = [] then return .day (← d.check.mapError .calendar)
  else if !Tag.isTimeOfDay time then throw .timestamp
  else
    let clock := (time.drop 1).dropWhile Tag.isBlankOrTab
    let hour := clock.takeWhile isAsciiDigit
    let clock := clock.drop (hour.length + 1)
    let minute := clock.take 2
    let second := (clock.drop 3).take 2
    let clock := clock.drop 5
    let (fraction, zone) :=
      match clock with
      | '.' :: r => (r.takeWhile isAsciiDigit, r.dropWhile isAsciiDigit)
      | r => ([], r)
    let micro := (fraction ++ List.replicate 6 '0').take 6
    let offset ← zoneOffset zone
    let m : Moment := ⟨d, digitsNumber hour, digitsNumber minute, digitsNumber second,
      digitsNumber micro, offset⟩
    return .moment (← m.check.mapError .calendar)

end VisualNovel.Yaml
