import VisualNovel.Files.Tree
import VisualNovel.Number.Numeral

/-!
# Script errors

Why a script cannot be read. An error in a line names the script and the line; an error of a file
names the path.
-/
namespace VisualNovel

open VisualNovel.Text

/-- What is wrong with the argument of a directive. -/
inductive ArgumentProblem where
  | jumpCount (count : Nat)
  | jumpTarget
  | visibility
  | shortShow
  | spriteCount
  | coordinateForm (axis value : String)
  | coordinateRange (axis value : String)
  | backgroundPath
  | attributeKey
  | attributeValue
  | emptyKey (name : String)
  | customName
deriving DecidableEq, Repr

namespace ArgumentProblem

/-- The largest coordinate of a sprite. -/
def maxCoordinate : Nat := 0xFFFFFFFF

def directive : ArgumentProblem → String
  | jumpCount _ | jumpTarget => "jump"
  | visibility | shortShow | spriteCount | coordinateForm _ _ | coordinateRange _ _ => "sprite"
  | backgroundPath => "loadbg"
  | attributeKey | attributeValue | emptyKey _ => "attr"
  | customName => "custom"

def detail : ArgumentProblem → String
  | jumpCount n => "jump directive expects 1 or 3 arguments, got " ++ natText n
  | jumpTarget => "missing jump target"
  | visibility => "visibility must either be show or hide"
  | shortShow => "Non-hidden sprite directives expect 5 arguments"
  | spriteCount => "directives expect 5 arguments for show and 2 arguments for hide"
  | coordinateForm axis value => axis ++ " must be a non-negative integer, got " ++ quoted value
  | coordinateRange axis value =>
    axis ++ " must be at most " ++ natText maxCoordinate ++ ", got " ++ value
  | backgroundPath => "expected background path"
  | attributeKey => "expected key"
  | attributeValue => "expected value"
  | emptyKey name => "empty key in " ++ quoted name
  | customName => "expected custom directive name"

end ArgumentProblem

/-- Why the argument of a directive is refused: it does not fit the directive, or it holds a numeral
with more digits than are read. -/
inductive ArgumentError where
  | problem (p : ArgumentProblem)
  | digits (count : Nat)
deriving DecidableEq, Repr

/-- What is wrong with the form of a line. -/
inductive LineProblem where
  | openParenthesis
  | closeParenthesis
  | closeBracket
  | noSpeaker
deriving DecidableEq, Repr

def LineProblem.detail : LineProblem → String
  | .openParenthesis => "Expected ( after directive name"
  | .closeParenthesis => "Expected closing )"
  | .closeBracket => "Expected closing ]"
  | .noSpeaker => "unmatched dialogue"

/-- Why the text of a file cannot be had. -/
inductive ReadProblem where
  | file (e : FileError)
  | encoding (e : Utf8.DecodeError)
deriving DecidableEq, Repr

def ReadProblem.message : ReadProblem → String
  | .file e => e.message
  | .encoding e => e.message

/-- A line of a script. The first one has the number one, unless a line is read on its own. -/
structure Place where
  script : String
  line : Int
deriving DecidableEq, Repr

def Place.lead (p : Place) : String :=
  p.script ++ ":" ++ intText p.line ++ ": "

inductive ScriptError where
  | malformed (place : Place) (column : Nat) (problem : LineProblem)
  | unknownDirective (name : String) (place : Place)
  | argument (problem : ArgumentProblem) (place : Option Place)
  | notFound (path : String)
  | unreadable (path : String) (problem : ReadProblem)
deriving DecidableEq, Repr

def ScriptError.message : ScriptError → String
  | malformed place column problem =>
    "Error on file " ++ place.script ++ " line " ++ intText place.line ++ " character " ++
      natText column ++ ": " ++ problem.detail
  | unknownDirective name place => place.lead ++ "Unknown directive " ++ name
  | argument problem place =>
    (match place with | some p => p.lead | none => "") ++ "Directive " ++ problem.directive ++
      " cannot handle argument: " ++ problem.detail
  | notFound path => "Cannot open file " ++ path
  | unreadable path problem => "Cannot read file " ++ path ++ ": " ++ problem.message

/-- How parsing fails: with an error that names its place, or on a numeral that is not read. -/
inductive ParseFailure where
  | script (e : ScriptError)
  | digits (count : Nat)
deriving DecidableEq, Repr

def tooManyDigits (count : Nat) : String :=
  "Exceeds the limit (" ++ natText Number.maxDigits ++
    " digits) for integer string conversion: value has " ++ natText count ++
    " digits; use sys.set_int_max_str_digits() to increase the limit"

end VisualNovel
