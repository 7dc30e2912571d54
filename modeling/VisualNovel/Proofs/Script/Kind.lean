import VisualNovel.Proofs.Session.Action
import VisualNovel.Script.Parse

/-!
# Kinds of directives

A line names the kind of its directive, and what is read is of that kind. A sprite is read from five
fields, of which two are coordinates and the last one shows or hides it, or from two, which hide it.
-/
namespace VisualNovel

open VisualNovel.Text

namespace Directive

def Kind.name : Kind → String
  | jump => "jump"
  | sprite => "sprite"
  | background => "loadbg"
  | «attribute» => "attr"
  | custom => "custom"

def kind : Directive → Kind
  | jump _ _ => .jump
  | «show» _ _ => .sprite
  | hide _ _ => .sprite
  | background _ => .background
  | «attribute» _ _ _ => .attribute
  | custom _ _ => .custom

def placed (name : String) (p : Placement) (visibility : String) : Directive :=
  if visibility = "show" then .show name p else .hide name (some p)

/-- How the fields of a text make up a sprite. -/
inductive ReadsSprite (s : List Char) : Directive → Prop where
  | placed {name path x y visibility : List Char} {n m : Nat}
      (fields : splitAll ',' (s.filter fun c => !isBlank c) = [name, path, x, y, visibility])
      (readsX : readCoordinate "x" x = .ok n) (readsY : readCoordinate "y" y = .ok m)
      (shows : String.ofList visibility = "show" ∨ String.ofList visibility = "hide") :
      ReadsSprite s
        (placed (String.ofList name) ⟨String.ofList path, n, m⟩ (String.ofList visibility))
  | hidden {name visibility : List Char}
      (fields : splitAll ',' (s.filter fun c => !isBlank c) = [name, visibility])
      (hides : String.ofList visibility = "hide") :
      ReadsSprite s (.hide (String.ofList name) none)

variable {s : List Char} {d : Directive} {kind : Kind}

theorem ofName?_name (kind : Kind) : Kind.ofName? kind.name = some kind := by
  cases kind <;> rfl

theorem readsSprite_of_read (h : readSprite s = .ok d) : ReadsSprite s d := by
  simp only [readSprite] at h
  split at h
  · rename_i name path x y visibility hfields
    by_cases hvisibility : String.ofList visibility ≠ "show" ∧ String.ofList visibility ≠ "hide"
    · simp only [hvisibility, and_self, if_true, ne_eq, not_false_eq_true] at h
      cases h
    simp only [hvisibility, if_false] at h
    obtain ⟨n, hx, hrest⟩ := exists_of_bind h
    obtain ⟨m, hy, hplaced⟩ := exists_of_bind hrest
    have hd : d = placed (String.ofList name) ⟨String.ofList path, n, m⟩
        (String.ofList visibility) := by
      rw [placed]
      split at hplaced <;> cases hplaced
      · rename_i hshow
        rw [if_pos hshow]
      · rename_i hhide
        rw [if_neg hhide]
    rw [hd]
    exact .placed hfields hx hy (Decidable.or_iff_not_not_and_not.2 hvisibility)
  · rename_i name visibility hfields
    split at h
    · rename_i hhide
      cases h
      exact .hidden hfields hhide
    · cases h
  · cases h

theorem ReadsSprite.kind_eq (h : ReadsSprite s d) : d.kind = .sprite := by
  cases h with
  | placed =>
    rw [Directive.placed]
    split <;> rfl
  | hidden => rfl

theorem kind_of_read (h : read kind s = .ok d) : d.kind = kind := by
  cases kind with
  | jump =>
    simp only [read, readJump, jumpTo] at h
    split at h
    · split at h <;> cases h
      rfl
    · split at h
      · cases h
      · split at h <;> cases h
        rfl
  | sprite => exact (readsSprite_of_read h).kind_eq
  | background =>
    simp only [read, readBackground] at h
    split at h <;> cases h
    rfl
  | «attribute» =>
    simp only [read, readAttribute] at h
    split at h
    · cases h
    · split at h
      · cases h
      · split at h
        · cases h
        · split at h <;> cases h
          rfl
  | custom =>
    simp only [read, readCustom] at h
    split at h
    · cases h
      rfl
    · split at h
      · cases h
      · split at h <;> cases h
        rfl

end Directive

namespace Script

theorem exists_of_parseDirective {place : Place} {line : List Char} {d : Directive}
    (h : parseDirective place line = .ok d) :
    ∃ kind argument, Directive.read kind argument = .ok d := by
  simp only [parseDirective] at h
  split at h
  · cases h
  · split at h
    · cases h
    · split at h
      · cases h
      · rename_i kind hkind
        split at h
        · rename_i hread
          cases h
          exact ⟨kind, _, hread⟩
        · cases h
        · cases h

end Script

end VisualNovel
