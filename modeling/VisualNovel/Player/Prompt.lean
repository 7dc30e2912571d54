import VisualNovel.Script.Event
import VisualNovel.Session.Basic
import VisualNovel.Text.Line

/-!
# Prompts

Asking for one of two choices. The first line that holds a one or a two decides; every other line is
rejected and the question is put again. Where the input ends, the second choice is taken.
-/
namespace VisualNovel

open VisualNovel.Text

namespace Prompt

theorem takeLine_length (c : Char) (s : List Char) :
    (takeLine (c :: s)).2.length < (c :: s).length := by
  induction s generalizing c with
  | nil => by_cases h : c = '\n' <;> simp [takeLine, h]
  | cons d r ih =>
    have := ih d
    by_cases h : c = '\n'
    · simp [takeLine, h]
    · simp only [takeLine, h, if_false, List.length_cons] at this ⊢
      omega

def lines : List Char → List (List Char)
  | [] => []
  | c :: s => (takeLine (c :: s)).1 :: lines (takeLine (c :: s)).2
termination_by s => s.length
decreasing_by exact takeLine_length c s

/-- What a line decides: the first choice, the second one, or nothing. -/
def verdict (line : List Char) : Option Bool :=
  match trimChars line with
  | ['1'] => some true
  | ['2'] => some false
  | _ => none

structure Answer where
  /-- Whether the first choice is taken. -/
  first : Bool
  /-- How many lines were rejected. -/
  rejected : Nat
  /-- The lines that were not read. -/
  unread : List (List Char)
deriving DecidableEq, Repr

/-- Reads lines until one decides. -/
def settle : List (List Char) → Answer
  | [] => ⟨false, 0, []⟩
  | line :: rest =>
    match verdict line with
    | some first => ⟨first, 0, rest⟩
    | none =>
      let a := settle rest
      { a with rejected := a.rejected + 1 }

def boxWidth (c : Choices) : Nat :=
  max c.first.length c.second.length * 2

def border (width : Nat) : String :=
  "+" ++ String.ofList (List.replicate width '-') ++ "+\n"

/-- A labelled line of the box; a long label reaches beyond it. -/
def labelLine (number label : String) (width : Nat) : String :=
  "| [" ++ number ++ "] " ++ label ++
    String.ofList (List.replicate (width - 5 - label.length) ' ') ++ "|\n"

def box (c : Choices) : String :=
  let width := boxWidth c
  border width ++ labelLine "1" c.first width ++ labelLine "2" c.second width ++ border width ++
    "(1 or 2) > "

def rejection : String :=
  "The choice must be either 1 or 2. Reprompting."

/-- Asks for a choice. The box must have room for the numbers in front of the labels. -/
def ask (c : Choices) : Action Bool := do
  if boxWidth c < 5 then throw .narrowPrompt
  let answer := settle (lines (← get).console.input)
  Session.print (box c)
  for _ in List.range answer.rejected do
    Session.note "vn_play" .error rejection
    Session.print (box c)
  modify fun s => { s with console := { s.console with input := answer.unread.flatten } }
  return answer.first

end Prompt

end VisualNovel
