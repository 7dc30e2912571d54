/-!
# Cast

The sprites on stage, highest priority first. Priorities are looked up by name whenever the order
matters, and a look-up may fail; then nothing changes.
-/
namespace VisualNovel

structure Sprite where
  name : String
  path : String
  x : Int
  y : Int
deriving DecidableEq, Inhabited, Repr

abbrev Cast := List Sprite

namespace Cast

variable {ε : Type}

def names (c : Cast) : List String :=
  c.map Sprite.name

def get? (c : Cast) (name : String) : Option Sprite :=
  c.find? fun s => s.name == name

def contains (c : Cast) (name : String) : Bool :=
  c.any fun s => s.name == name

theorem contains_iff {c : Cast} {name : String} : c.contains name = true ↔ name ∈ c.names := by
  simp [contains, names]

/-- Puts a sprite of a given priority in front of the first one that has no higher priority. -/
def insert (priorityOf : String → Except ε Int) (priority : Int) (sprite : Sprite) :
    Cast → Except ε Cast
  | [] => .ok [sprite]
  | s :: rest => do
    if (← priorityOf s.name) ≤ priority then return sprite :: s :: rest
    else return s :: (← insert priorityOf priority sprite rest)

/-- Where a new sprite stands among the others is the only thing that its priority decides. -/
theorem perm_of_insert {priorityOf : String → Except ε Int} {priority : Int} {sprite : Sprite}
    {c d : Cast} (h : insert priorityOf priority sprite c = .ok d) : d.Perm (sprite :: c) := by
  induction c generalizing d with
  | nil =>
    simp only [insert, Except.ok.injEq] at h
    subst h
    exact .refl _
  | cons s rest ih =>
    simp only [insert, bind, Except.bind] at h
    split at h
    · cases h
    · split at h
      · simp only [pure, Except.pure, Except.ok.injEq] at h
        subst h
        exact .refl _
      · split at h
        · cases h
        · rename_i v hv
          simp only [pure, Except.pure, Except.ok.injEq] at h
          subst h
          exact ((ih hv).cons s).trans (.swap sprite s rest)

/-- Shows a sprite: in the place of the one of the same name, otherwise where its priority says. -/
def present (priorityOf : String → Except ε Int) (sprite : Sprite) (c : Cast) :
    Except ε Cast :=
  if c.contains sprite.name then .ok (c.map fun s => if s.name = sprite.name then sprite else s)
  else do insert priorityOf (← priorityOf sprite.name) sprite c

def dismiss (name : String) (c : Cast) : Cast :=
  c.eraseP fun s => s.name == name

theorem names_dismiss (name : String) (c : Cast) :
    (c.dismiss name).names = c.names.erase name := by
  induction c with
  | nil => rfl
  | cons s rest ih =>
    by_cases h : s.name = name
    · simp [dismiss, names, h]
    · have hb : (s.name == name) = false := by simpa using h
      simp only [dismiss, names] at ih ⊢
      simp [hb, ih]

def withPriorities (priorityOf : String → Except ε Int) (c : Cast) :
    Except ε (List (Int × Sprite)) :=
  c.mapM fun s => do return (← priorityOf s.name, s)

/-- Orders the sprites by priority, highest first; sprites of one priority keep their order. -/
def resort (priorityOf : String → Except ε Int) (c : Cast) : Except ε Cast := do
  let ranked ← withPriorities priorityOf c
  return (ranked.mergeSort fun a b => decide (b.1 ≤ a.1)).map Prod.snd

end Cast

end VisualNovel
