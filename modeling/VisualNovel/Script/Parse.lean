import VisualNovel.Script.Argument
import VisualNovel.Text.Line

/-!
# Script parsing

A script is read line by line. A line in brackets opens a block of dialogue, a line that starts with
an at sign is a directive, a line that starts with a number sign and a blank line are ignored, and
any other line is text of the block opened last, whatever stands between. The first line that cannot
be read decides the error.
-/
namespace VisualNovel

open VisualNovel.Text

namespace Script

/-- Reads a line of the form `@name(argument)`. The argument reaches from the first opening to the
last closing parenthesis. -/
def parseDirective (place : Place) (line : List Char) : Except ParseFailure Directive :=
  let malformed (p : LineProblem) : Except ParseFailure Directive :=
    .error (.script (.malformed place line.length p))
  match splitFirst '(' line with
  | none => malformed .openParenthesis
  | some (head, rest) =>
    match splitLast ')' rest with
    | none => malformed .closeParenthesis
    | some (argument, _) =>
      let name := String.ofList (trimChars (head.drop 1))
      match Directive.Kind.ofName? name with
      | none => .error (.script (.unknownDirective name place))
      | some kind =>
        match Directive.read kind argument with
        | .ok d => .ok d
        | .error (.problem p) => .error (.script (.argument p (some place)))
        | .error (.digits n) => .error (.digits n)

/-- What a line is. -/
inductive Line where
  | ignored
  | header (speaker : String)
  | directive (d : Directive)
  | text (s : String)
deriving DecidableEq, Repr

def Line.read (place : Place) (line : List Char) : Except ParseFailure Line :=
  if line.all isBlank then .ok .ignored
  else
    match line with
    | '#' :: _ => .ok .ignored
    | '[' :: rest =>
      match splitLast ']' rest with
      | some (speaker, _) => .ok (.header (String.ofList speaker))
      | none => .error (.script (.malformed place line.length .closeBracket))
    | '@' :: _ => (parseDirective place line).map .directive
    | _ => .ok (.text (String.ofList line))

/-- Reads the lines from a place on. `opened` says whether a block of dialogue has been opened. -/
def readLines (place : Place) (opened : Bool) :
    List (List Char) → Except ParseFailure (List Line)
  | [] => .ok []
  | line :: rest => do
    let next : Place := { place with line := place.line + 1 }
    match ← Line.read place line with
    | .text s =>
      if opened then return .text s :: (← readLines next opened rest)
      else throw (.script (.malformed place 1 .noSpeaker))
    | .header speaker => return .header speaker :: (← readLines next true rest)
    | l => return l :: (← readLines next opened rest)

/-- The events of some lines, and the texts in front of the first header, which belong to the block
opened before. -/
def gather : List Line → List String × List Event
  | [] => ([], [])
  | l :: rest =>
    let (texts, events) := gather rest
    match l with
    | .ignored => (texts, events)
    | .text s => (s :: texts, events)
    | .header speaker => ([], .dialogue speaker texts :: events)
    | .directive d => (texts, .directive d :: events)

/-- The lines of a source, without carriage returns. -/
def sourceLines (source : List Char) : List (List Char) :=
  (linesLF source).map fun l => l.filter (· ≠ '\r')

def parseChars (source : List Char) (name : String) : Except ParseFailure Script :=
  (readLines ⟨name, 1⟩ false (sourceLines source)).map fun lines => ⟨name, (gather lines).2⟩

def parse (source name : String) : Except ParseFailure Script :=
  parseChars source.toList name

end Script

end VisualNovel
