import VisualNovel.Text.Blank
import VisualNovel.Text.Field
import VisualNovel.Text.Quoted

/-!
# Attributes

Attributes are texts kept in a tree under dotted names. A key holds either a text or a tree of its
own; writing never turns one into the other, and a refused write changes nothing.
-/
namespace VisualNovel

open VisualNovel.Text

/-- A tree of texts: its entries in the order in which their keys were first written. -/
inductive AttributeTree where
  | empty
  | leaf (key value : String) (rest : AttributeTree)
  | node (key : String) (children rest : AttributeTree)
deriving DecidableEq, Inhabited, Repr

/-- What a name stands for. -/
inductive Attribute where
  | value (s : String)
  | tree (t : AttributeTree)
deriving DecidableEq, Inhabited, Repr

/-- Why a write is refused: a text stands where the path needs a tree, or a tree where the text
should go. -/
inductive AttributeConflict where
  | valueOnPath (segments : List String)
  | treeAtKey
deriving DecidableEq, Repr

def AttributeConflict.detail : AttributeConflict → String
  | .valueOnPath segments => String.intercalate "." segments ++ " is a value, not a node"
  | .treeAtKey => "cannot replace a node with a value"

namespace AttributeTree

def keys : AttributeTree → List String
  | empty => []
  | leaf k _ rest => k :: rest.keys
  | node k _ rest => k :: rest.keys

def get? (key : String) : AttributeTree → Option Attribute
  | empty => none
  | leaf k v rest => if k = key then some (.value v) else rest.get? key
  | node k t rest => if k = key then some (.tree t) else rest.get? key

def follow? (t : AttributeTree) : List String → Option Attribute
  | [] => some (.tree t)
  | [key] => t.get? key
  | key :: rest =>
    match t.get? key with
    | some (.tree c) => c.follow? rest
    | _ => none

def segments (path : String) : List String :=
  if path = "" then [] else fields '.' path

/-- What a dotted name stands for; blanks around it mean nothing. -/
def find? (t : AttributeTree) (name : String) : Option Attribute :=
  t.follow? (fields '.' (trim name))

def valueOf? (t : AttributeTree) (name : String) : Option String :=
  match t.find? name with
  | some (.value s) => some s
  | _ => none

/-- A tree with one more entry in front. -/
def entry (key : String) (rest : AttributeTree) : Attribute → AttributeTree
  | .value v => leaf key v rest
  | .tree c => node key c rest

/-- Puts an entry under a key: in the place of the old one, or behind all others if the key is new. -/
def assign (key : String) (a : Attribute) : AttributeTree → AttributeTree
  | empty => entry key empty a
  | leaf k v rest => if k = key then entry key rest a else leaf k v (assign key a rest)
  | node k c rest => if k = key then entry key rest a else node k c (assign key a rest)

/-- The dry run of a write, which makes nothing: what is in the way of a text under a key below a path.
`seen` is the part of the path that lies behind; where nothing stands, there is no tree to look into. -/
def refusal? (key : String) :
    (seen path : List String) → Option AttributeTree → Option AttributeConflict
  | _, [], here =>
    match here.bind (get? key) with
    | some (.tree _) => some .treeAtKey
    | _ => none
  | seen, s :: path, here =>
    match here.bind (get? s) with
    | some (.value _) => some (.valueOnPath (seen ++ [s]))
    | some (.tree c) => refusal? key (seen ++ [s]) path (some c)
    | none => refusal? key (seen ++ [s]) path none

/-- The walk of a write that makes the trees which are missing on the path and sets the text. It looks
at nothing but what it goes through: it cannot enter a text, and it replaces whatever the key holds. -/
def written? (key value : String) : List String → AttributeTree → Option AttributeTree
  | [], t => some (t.assign key (.value value))
  | s :: path, t =>
    match t.get? s with
    | some (.value _) => none
    | some (.tree c) => (written? key value path c).map fun c => t.assign s (.tree c)
    | none => (written? key value path empty).map fun c => t.assign s (.tree c)

theorem isSome_written?_empty (key value : String) (path : List String) :
    (written? key value path empty).isSome = true := by
  induction path with
  | nil => rfl
  | cons s path ih => simpa [written?, get?] using ih

/-- Behind a dry run that meets nothing the walk gets to its end. -/
theorem isSome_written?_of_refusal? {key : String} (value : String) {seen path : List String}
    {t : AttributeTree} (h : refusal? key seen path (some t) = none) :
    (written? key value path t).isSome = true := by
  induction path generalizing seen t with
  | nil => rfl
  | cons s path ih =>
    rw [refusal?, Option.bind_some] at h
    rw [written?]
    cases hget : t.get? s with
    | none =>
      rw [Option.isSome_map]
      exact isSome_written?_empty key value path
    | some a =>
      rw [hget] at h
      cases a with
      | value v => cases h
      | tree c =>
        rw [Option.isSome_map]
        exact ih h

/-- Writes a text under a key below a dotted path: first the dry run, and behind it the walk that makes
the entries. -/
def set (t : AttributeTree) (path key value : String) : Except AttributeConflict AttributeTree :=
  match h : refusal? key [] (segments path) (some t) with
  | some cause => .error cause
  | none =>
    .ok ((written? key value (segments path) t).get (isSome_written?_of_refusal? value h))

/-- Whether every entry of the first tree is in the second, with subtrees that are the same. -/
def within : AttributeTree → AttributeTree → Bool
  | empty, _ => true
  | leaf k v rest, u => u.get? k == some (.value v) && rest.within u
  | node k t rest, u =>
    (match u.get? k with
      | some (.tree d) => t.within d && t.keys.length == d.keys.length
      | _ => false) &&
    rest.within u

/-- Whether two trees hold the same entries, in whatever order. -/
def same (t u : AttributeTree) : Bool :=
  t.within u && t.keys.length == u.keys.length

def entriesText (lead : String) : AttributeTree → String
  | empty => ""
  | leaf k v rest => lead ++ quoted k ++ ": " ++ quoted v ++ entriesText ", " rest
  | node k t rest =>
    lead ++ quoted k ++ ": AttributeTree(\x7b" ++ entriesText "" t ++ "\x7d)" ++
      entriesText ", " rest

def text (t : AttributeTree) : String :=
  "AttributeTree(\x7b" ++ entriesText "" t ++ "\x7d)"

end AttributeTree

/-- What a consumer of an attribute wants it to be. -/
inductive Expected where
  | integer
  | number
  | color
deriving DecidableEq, Repr

def Expected.text : Expected → String
  | .integer => "an integer"
  | .number => "a number"
  | .color => "a hex RRGGBB[AA] color"

inductive AttributeError where
  | conflict (path key : String) (cause : AttributeConflict)
  | value (name value : String) (expected : Expected)
deriving DecidableEq, Repr

def AttributeError.message : AttributeError → String
  | .conflict path key cause =>
    "Cannot set attribute " ++ (if path = "" then key else path ++ "." ++ key) ++ ": " ++
      cause.detail
  | .value name found expected =>
    "Attribute " ++ name ++ " must be " ++ expected.text ++ ", got " ++ quoted found

end VisualNovel
