import VisualNovel.Script.Error
import VisualNovel.Script.Event

/-!
# Directive arguments

What stands between the parentheses of a directive. Every kind of directive reads its argument in
its own way; none of them looks at a file.
-/
namespace VisualNovel

open VisualNovel.Text

namespace Directive

/-- The kinds of directives that a script can hold. -/
inductive Kind where
  | jump
  | sprite
  | background
  | attribute
  | custom
deriving DecidableEq, Repr

def Kind.ofName? (name : String) : Option Kind :=
  match name with
  | "jump" => some .jump
  | "sprite" => some .sprite
  | "loadbg" => some .background
  | "attr" => some .attribute
  | "custom" => some .custom
  | _ => none

def trimmed (s : List Char) : String :=
  String.ofList (trimChars s)

def refuse {α : Type} (p : ArgumentProblem) : Except ArgumentError α :=
  .error (.problem p)

def jumpTo (target : List Char) (choices : Option Choices) : Except ArgumentError Directive :=
  let path := trimChars target
  if path = [] then refuse .jumpTarget else .ok (.jump (String.ofList path) choices)

/-- Either a target, which holds no comma, or two labels and a target, which may hold some. -/
def readJump (s : List Char) : Except ArgumentError Directive :=
  match splitFirst ',' s with
  | none => jumpTo s none
  | some (first, rest) =>
    match splitFirst ',' rest with
    | none => refuse (.jumpCount 2)
    | some (second, target) => jumpTo target (some ⟨trimmed first, trimmed second⟩)

def readCoordinate (axis : String) (s : List Char) : Except ArgumentError Nat :=
  if s.isEmpty || !s.all isAsciiDigit then refuse (.coordinateForm axis (String.ofList s))
  else if Number.maxDigits < s.length then .error (.digits s.length)
  else
    let n := ofDigits 10 (s.filterMap digitValue?)
    if ArgumentProblem.maxCoordinate < n then refuse (.coordinateRange axis (String.ofList s))
    else .ok n

/-- Name, path, two coordinates and `show` or `hide`, or a name and `hide`; blanks mean nothing. -/
def readSprite (s : List Char) : Except ArgumentError Directive :=
  match splitAll ',' (s.filter fun c => !isBlank c) with
  | [name, path, x, y, visibility] => do
    let visibility := String.ofList visibility
    if visibility ≠ "show" ∧ visibility ≠ "hide" then refuse .visibility
    let x ← readCoordinate "x" x
    let y ← readCoordinate "y" y
    let placement : Placement := ⟨String.ofList path, x, y⟩
    if visibility = "show" then return .show (String.ofList name) placement
    else return .hide (String.ofList name) (some placement)
  | [name, visibility] =>
    if String.ofList visibility = "hide" then .ok (.hide (String.ofList name) none)
    else refuse .shortShow
  | _ => refuse .spriteCount

def readBackground (s : List Char) : Except ArgumentError Directive :=
  let path := trimChars s
  if path = [] then refuse .backgroundPath else .ok (.background (String.ofList path))

/-- A dotted name and a value. The part behind the last dot is the key; what follows the value is
dropped. -/
def readAttribute (s : List Char) : Except ArgumentError Directive :=
  match splitAll ',' s with
  | [] => refuse .attributeKey
  | first :: rest =>
    let name := trimChars first
    if name = [] then refuse .attributeKey
    else
      match rest with
      | [] => refuse .attributeValue
      | value :: _ =>
        let (path, key) := (splitLast '.' name).getD ([], name)
        let key := trimChars key
        if key = [] then refuse (.emptyKey (String.ofList name))
        else
          let path := stripWhile (· == '.') (trimChars path)
          .ok (.attribute (String.ofList path) (String.ofList key) (trimmed value))

/-- Splits the call form of a custom directive: a name without blanks, commas and parentheses, and
what stands between the parenthesis that follows it and the one that ends the text. -/
def callForm? (s : List Char) : Option (List Char × List Char) :=
  let s := trimChars s
  let inName (c : Char) : Bool := !isBlank c && c != '(' && c != ')' && c != ','
  let name := s.takeWhile inName
  match (s.dropWhile inName).dropWhile isBlank with
  | '(' :: rest =>
    match rest.getLast? with
    | some ')' => if name = [] then none else some (name, rest.dropLast)
    | _ => none
  | _ => none

def readCustom (s : List Char) : Except ArgumentError Directive :=
  match callForm? s with
  | some (name, inside) =>
    let arguments := if trimChars inside = [] then [] else (splitAll ',' inside).map trimmed
    .ok (.custom (String.ofList name) arguments)
  | none =>
    match splitAll ',' s with
    | [] => refuse .customName
    | name :: arguments =>
      let name := trimChars name
      if name = [] then refuse .customName
      else .ok (.custom (String.ofList name) (arguments.map trimmed))

def read : Kind → List Char → Except ArgumentError Directive
  | .jump => readJump
  | .sprite => readSprite
  | .background => readBackground
  | .attribute => readAttribute
  | .custom => readCustom

end Directive

end VisualNovel
