import VisualNovel.Frame.Fingerprint
import VisualNovel.Picture.Image
import VisualNovel.Script.Error
import VisualNovel.Settings.Error
import VisualNovel.Stage.Attributes
import VisualNovel.Text.Surrogate
import VisualNovel.Text.Template
import VisualNovel.Yaml.Failure

/-!
# Failures

Every way in which an operation of the player can fail. The first four are failures that the player
reports and survives; the others end it.
-/
namespace VisualNovel

open VisualNovel.Number
open VisualNovel.Text

inductive Failure where
  | script (e : ScriptError)
  | asset (e : AssetError)
  | attribute (e : AttributeError)
  | settings (e : SettingsError)
  /-- A numeral of a script has more digits than are read. -/
  | digits (count : Nat)
  | file (e : FileError)
  | encoding (e : Utf8.DecodeError)
  | document (e : Yaml.Failure)
  | template (e : Template.RangeError)
  /-- A number has no integer part. -/
  | noInteger (e : Binary64.NoInteger)
  /-- An integer is beyond every number. -/
  | beyondReal
  /-- A frame cannot be encoded. -/
  | fingerprint (e : Fingerprint.Fault)
  /-- Two labels are too short for the box of a prompt. -/
  | narrowPrompt
  /-- The settings file is named by nothing. -/
  | lostPath
  /-- The level of the journal is given as nothing. -/
  | lostLevel
  /-- The steps that a run was granted are used up. -/
  | budget
deriving DecidableEq, Repr

namespace Failure

/-- Whether the player reports the failure and goes on to end in order. -/
def isReported : Failure → Bool
  | .script _ | .asset _ | .attribute _ | .settings _ => true
  | _ => false

def ofParse : ParseFailure → Failure
  | .script e => script e
  | .digits n => digits n

end Failure

/-- The texts of document failures that are not failures of the language. -/
def Yaml.Failure.message : Yaml.Failure → String
  | .malformed => ""
  | .encoding e => e.message
  | .nesting => "maximum recursion depth exceeded"
  | .codePoint n =>
    if n < 0x80000000 then "chr() arg not in range(0x110000)"
    else "Python int too large to convert to C int"
  | .truthWord s => quotedPoints s
  | .emptyNumeral => "string index out of range"
  | .integerText base s =>
    "invalid literal for int() with base " ++ natText base ++ ": " ++
      String.ofList ((quotedPoints s).toList.take 200)
  | .integerDigits n => tooManyDigits n
  | .realText s => "could not convert string to float: " ++ quotedPoints s
  | .realRange => "int too large to convert to float"
  | .timestamp => "'NoneType' object has no attribute 'groupdict'"
  | .timestampMapping => "expected string or bytes-like object, got 'list'"
  | .calendar p => p.message

def Failure.message : Failure → String
  | .script e => e.message
  | .asset e => e.message
  | .attribute e => e.message
  | .settings e => e.message
  | .digits n => tooManyDigits n
  | .file e => e.message
  | .encoding e => e.message
  | .document e => e.message
  | .template e => e.message
  | .noInteger e => e.message
  | .beyondReal => "int too large to convert to float"
  | .fingerprint e => e.message
  | .narrowPrompt => "Sign not allowed in string format specifier"
  | .lostPath => "expected str, bytes or os.PathLike object, not list"
  | .lostLevel => "'list' object has no attribute 'strip'"
  | .budget => "the steps granted are used up"

end VisualNovel
