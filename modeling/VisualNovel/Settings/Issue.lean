import VisualNovel.Number.Numeral

/-!
# Validation issues

What is wrong with a value and where it stands. Checking a value does not stop at the first issue:
`Checked.apply` joins the issues of both sides.
-/
namespace VisualNovel

open VisualNovel.Number
open VisualNovel.Text

inductive IssueKind where
  | missing
  | extra
  | invalidKey
  | integerType
  | integerText
  | integerSize
  | integerPart
  | notFinite
  | notGreater (bound : Int)
  | notAtLeast (bound : Int)
  | notAtMost (bound : Int)
  | notPositive (value : Int)
  | truthType
  | truthText
  | textType
  | textEncoding
  | recordType (record : String)
deriving DecidableEq, Repr

namespace IssueKind

def code : IssueKind → String
  | missing => "missing"
  | extra => "extra_forbidden"
  | invalidKey => "invalid_key"
  | integerType => "int_type"
  | integerText => "int_parsing"
  | integerSize => "int_parsing_size"
  | integerPart => "int_from_float"
  | notFinite => "finite_number"
  | notGreater _ => "greater_than"
  | notAtLeast _ => "greater_than_equal"
  | notAtMost _ => "less_than_equal"
  | notPositive _ => "value_error"
  | truthType => "bool_type"
  | truthText => "bool_parsing"
  | textType => "string_type"
  | textEncoding => "string_unicode"
  | recordType _ => "model_type"

def message : IssueKind → String
  | missing => "Field required"
  | extra => "Extra inputs are not permitted"
  | invalidKey => "Keys should be strings"
  | integerType => "Input should be a valid integer"
  | integerText => "Input should be a valid integer, unable to parse string as an integer"
  | integerSize => "Unable to parse input string as an integer, exceeded maximum size"
  | integerPart => "Input should be a valid integer, got a number with a fractional part"
  | notFinite => "Input should be a finite number"
  | notGreater n => "Input should be greater than " ++ intText n
  | notAtLeast n => "Input should be greater than or equal to " ++ intText n
  | notAtMost n => "Input should be less than or equal to " ++ intText n
  | notPositive v =>
    "Value error, " ++ if isWritable v then "must be positive, got " ++ intText v else unwritable
  | truthType => "Input should be a valid boolean"
  | truthText => "Input should be a valid boolean, unable to interpret input"
  | textType => "Input should be a valid string"
  | textEncoding => "Input should be a valid string, unable to parse raw data as a unicode string"
  | recordType record => "Input should be a valid dictionary or instance of " ++ record

end IssueKind

structure Issue where
  location : List String := []
  kind : IssueKind
deriving DecidableEq, Repr

def Issue.place (i : Issue) : String :=
  String.intercalate "." i.location

abbrev Checked (α : Type) := Except (List Issue) α

namespace Checked

variable {α β : Type}

def fail (kind : IssueKind) : Checked α :=
  .error [{ kind }]

def apply (f : Checked (α → β)) (x : Checked α) : Checked β :=
  match f, x with
  | .ok f, .ok x => .ok (f x)
  | .ok _, .error e => .error e
  | .error d, .ok _ => .error d
  | .error d, .error e => .error (d ++ e)

def under (key : String) (x : Checked α) : Checked α :=
  x.mapError fun issues => issues.map fun i => { i with location := key :: i.location }

end Checked

end VisualNovel
