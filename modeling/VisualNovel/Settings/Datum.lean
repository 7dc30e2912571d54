import VisualNovel.Calendar
import VisualNovel.Number.Decimal
import VisualNovel.Number.Numeral
import VisualNovel.Text.Quoted

/-!
# Data

The values that a settings document can hold before anything is known about their meaning: scalars,
calendar dates and times, lists, sets and mappings.
-/
namespace VisualNovel

open VisualNovel.Number
open VisualNovel.Text

inductive Datum where
  | null
  | truth (b : Bool)
  | integer (i : Int)
  | real (x : Binary64)
  | text (s : String)
  | bytes (data : List UInt8)
  | day (d : Day)
  | moment (m : Moment)
  | set
  | list (items : List Datum)
  | map (entries : List (Datum × Datum))
deriving Inhabited, Repr

namespace Datum

def kind : Datum → String
  | null => "NoneType"
  | truth _ => "bool"
  | integer _ => "int"
  | real _ => "float"
  | text _ => "str"
  | bytes _ => "bytes"
  | day _ => "date"
  | moment _ => "datetime"
  | set => "set"
  | list _ => "list"
  | map _ => "dict"

/-- The number that a truth value or a number stands for, in units of a binary64 number. -/
def units? : Datum → Option Int
  | truth b => some (if b then Binary64.unitsPerOne else 0)
  | integer i => some (i * Binary64.unitsPerOne)
  | real x => if x.isNaN || x.isInfinite then none else some x.signedUnits
  | _ => none

/-- Whether two values are equal as keys of a mapping. Numbers are compared by value, whatever their
kind; what is not a number equals nothing. -/
def sameKey (a b : Datum) : Bool :=
  match a, b with
  | null, null => true
  | integer i, integer j => i == j
  | text s, text t => s == t
  | bytes s, bytes t => s == t
  | day d, day e => d == e
  | moment m, moment n => m.same n
  | a, b =>
    match a.units?, b.units? with
    | some m, some n => m == n
    | none, none =>
      match a, b with
      | real x, real y => x.isInfinite && x.bits == y.bits
      | _, _ => false
    | _, _ => false

/-- Sets a key of a mapping. A key that is there already keeps its place. -/
def putEntry (key value : Datum) : List (Datum × Datum) → List (Datum × Datum)
  | [] => [(key, value)]
  | (k, v) :: rest =>
    if k.sameKey key then (k, value) :: rest else (k, v) :: putEntry key value rest

def value? (key : String) : List (Datum × Datum) → Option Datum
  | [] => none
  | (text k, v) :: rest => if k = key then some v else value? key rest
  | _ :: rest => value? key rest

def scalarLiteral : Datum → String
  | null => "None"
  | truth b => if b then "1" else "0"
  | integer i => if isWritable i then intText i else "<unprintable int object>"
  | real x => String.ofList x.plainText
  | text s => s
  | bytes data =>
    let latin := String.ofList (data.map fun b => Char.ofNat b.toNat)
    "b" ++ quotedBy (fun c => 32 ≤ c.toNat && c.toNat < 127) Char.toNat latin
  | day d => d.literal
  | moment m => m.literal
  | set | list _ | map _ => ""

end Datum

end VisualNovel
