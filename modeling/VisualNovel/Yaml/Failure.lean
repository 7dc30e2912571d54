import VisualNovel.Calendar
import VisualNovel.Text.Utf8

/-!
# Failures of YAML reading

Why bytes are not a YAML document that can be read: they are no text, the text breaks the rules of
the language, or one of its scalars does not fit the type that it is given.
-/
namespace VisualNovel.Yaml

open VisualNovel.Text

inductive Failure where
  | malformed
  | encoding (e : Utf8.DecodeError)
  /-- Collections stand inside each other too deeply. -/
  | nesting
  | codePoint (n : Nat)
  | truthWord (s : String)
  | emptyNumeral
  | integerText (base : Nat) (s : String)
  | integerDigits (count : Nat)
  | realText (s : String)
  | realRange
  | timestamp
  /-- A mapping stands where a date or time is wanted. -/
  | timestampMapping
  | calendar (p : CalendarProblem)
deriving DecidableEq, Repr

end VisualNovel.Yaml
