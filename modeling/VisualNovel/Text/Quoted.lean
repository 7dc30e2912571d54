import VisualNovel.Text.Digit
import VisualNovel.Text.Printable

/-!
# Quoted text

The quoted form in which messages show a text. Single quotes are used unless the text holds a single
quote and no double quote; what is not printable is written as an escape.
-/
namespace VisualNovel.Text

/-- The `width` lowest hexadecimal digits of a number, most significant first. -/
def hexDigits (width n : Nat) : List Char :=
  match width with
  | 0 => []
  | k + 1 => hexDigits k (n / 16) ++ [digitChar (n % 16)]

/-- The escape of a character by its code point, as short as its size allows. -/
def codeEscape (n : Nat) : List Char :=
  if n < 0x100 then '\\' :: 'x' :: hexDigits 2 n
  else if n < 0x10000 then '\\' :: 'u' :: hexDigits 4 n
  else '\\' :: 'U' :: hexDigits 8 n

/-- The quoted form of one character; `shown` says which characters need no escape, and `point` which
code point an escape names. -/
def quoteChar (shown : Char → Bool) (point : Char → Nat) (quote c : Char) : List Char :=
  if c = quote || c = '\\' then ['\\', c]
  else if c = '\t' then ['\\', 't']
  else if c = '\n' then ['\\', 'n']
  else if c = '\r' then ['\\', 'r']
  else if shown c then [c]
  else codeEscape (point c)

def quoteMark (s : List Char) : Char :=
  if s.contains '\x27' && !s.contains '"' then '"' else '\x27'

def quotedBy (shown : Char → Bool) (point : Char → Nat) (s : String) : String :=
  let mark := quoteMark s.toList
  String.ofList (mark :: s.toList.flatMap (quoteChar shown point mark) ++ [mark])

def quoted (s : String) : String :=
  quotedBy isPrintable Char.toNat s

def quotedAscii (s : String) : String :=
  quotedBy (fun c => isPrintable c && c.toNat < 128) Char.toNat s

end VisualNovel.Text
