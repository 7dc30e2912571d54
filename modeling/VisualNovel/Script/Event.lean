/-!
# Script events

A script is a named list of events. An event is a block of dialogue or a directive; the targets of
jumps are named by path and loaded when a jump is followed.
-/
namespace VisualNovel

/-- Where a sprite is drawn and from which image. -/
structure Placement where
  path : String
  x : Nat
  y : Nat
deriving DecidableEq, Inhabited, Repr

/-- The labels of a two-way jump: the first one follows the jump, the second one declines it. -/
structure Choices where
  first : String
  second : String
deriving DecidableEq, Inhabited, Repr

inductive Directive where
  /-- Goes to another script, without choices always and with them if the first one is taken. -/
  | jump (target : String) (choices : Option Choices)
  | show (name : String) (placement : Placement)
  /-- Hides a sprite; the long form repeats where it stood. -/
  | hide (name : String) (placement : Option Placement)
  | background (path : String)
  /-- Writes a value under a key below a dotted path, at the root if the path is empty. -/
  | attribute (path key value : String)
  /-- A directive that means nothing to the player. -/
  | custom (name : String) (arguments : List String)
deriving DecidableEq, Inhabited, Repr

inductive Event where
  | dialogue (speaker : String) (lines : List String)
  | directive (d : Directive)
deriving DecidableEq, Inhabited, Repr

def attributeName (path key : String) : String :=
  if path = "" then key else path ++ "." ++ key

namespace Event

def dialogueText (lines : List String) : String :=
  String.intercalate " " lines

/-- Only dialogue and two-way jumps show a picture. -/
def isRenderable : Event → Bool
  | dialogue _ _ => true
  | directive (.jump _ choices) => choices.isSome
  | directive _ => false

def isCustom : Event → Bool
  | directive (.custom _ _) => true
  | _ => false

end Event

structure Script where
  name : String
  events : List Event := []
deriving DecidableEq, Inhabited, Repr

end VisualNovel
