import VisualNovel.Proofs.Stage.Attributes
import VisualNovel.Proofs.Text.Blank
import VisualNovel.Proofs.Text.Field
import VisualNovel.Stage.Step

/-!
# Priorities

The priority of a sprite is read from the text at the path that is spelled by the name of the sprite.
A write changes the priority of the one sprite whose path it is, and it is taken for the write of a
priority exactly if the name of that sprite holds no dot.
-/
namespace VisualNovel

open VisualNovel.Number
open VisualNovel.Text

namespace AttributeTree

def priorityPath (sprite : String) : List String :=
  "sprite" :: (fields '.' sprite ++ ["priority"])

theorem priorityPath_inj {m n : String} (h : priorityPath m = priorityPath n) : m = n := by
  rw [priorityPath, priorityPath, List.cons.injEq] at h
  exact fields_inj (List.append_inj_left' h.2 rfl)

theorem fields_priorityName (sprite : String) :
    fields '.' (trim (priorityName sprite)) = priorityPath sprite := by
  have htrim : trim (priorityName sprite) = priorityName sprite := by
    have hchars : (priorityName sprite).toList =
        's' :: (("prite.".toList ++ sprite.toList ++ ".priorit".toList) ++ ['y']) := by
      simp [priorityName]
    rw [trim_eq_self_iff, trimChars, stripWhile_eq_self_iff, hchars]
    have hfirst : isBlank 's' = false := by decide
    have hlast : isBlank 'y' = false := by decide
    constructor
    · rintro c hc
      cases hc
      exact hfirst
    · rintro c hc
      rw [← List.cons_append, List.getLast?_concat] at hc
      cases hc
      exact hlast
  have hname : priorityName sprite =
      "sprite" ++ String.singleton '.' ++ (sprite ++ String.singleton '.' ++ "priority") := by
    rw [← String.toList_inj]
    simp [priorityName]
  rw [htrim, hname, fields_append_cons, fields_append_cons, fields_of_not_mem (by decide),
    fields_of_not_mem (s := "priority") (by decide)]
  rfl

theorem valueOf?_priorityName (t : AttributeTree) (sprite : String) :
    t.valueOf? (priorityName sprite) = t.textAt? (priorityPath sprite) := by
  rw [valueOf?, find?, fields_priorityName]
  rfl

theorem priorityOf_congr {t u : AttributeTree} {sprite : String}
    (h : t.textAt? (priorityPath sprite) = u.textAt? (priorityPath sprite)) :
    t.priorityOf sprite = u.priorityOf sprite := by
  rw [priorityOf, priorityOf, readAs, readAs, valueOf?_priorityName, valueOf?_priorityName, h]

theorem priorityOf_of_none {t : AttributeTree} {sprite : String}
    (h : t.textAt? (priorityPath sprite) = none) : t.priorityOf sprite = .ok 0 := by
  rw [priorityOf, readAs, valueOf?_priorityName, h]
  rfl

theorem priorityOf_of_some {t : AttributeTree} {sprite value : String}
    (h : t.textAt? (priorityPath sprite) = some value) :
    t.priorityOf sprite =
      match readInt? value with
      | some i => .ok i
      | none => .error (.value (priorityName sprite) value .integer) := by
  rw [priorityOf, readAs, valueOf?_priorityName, h]
  simp only
  cases readInt? value <;> rfl

theorem priorityOf_set_of_ne {t u : AttributeTree} {path key value sprite : String}
    (h : t.set path key value = .ok u) (hne : segments path ++ [key] ≠ priorityPath sprite) :
    u.priorityOf sprite = t.priorityOf sprite := by
  apply priorityOf_congr
  rw [textAt?_set h, if_neg (Ne.symm hne)]

theorem priorityOf_set {t u : AttributeTree} {path key value sprite : String}
    (h : t.set path key value = .ok u) (heq : segments path ++ [key] = priorityPath sprite) :
    u.priorityOf sprite =
      match readInt? value with
      | some i => .ok i
      | none => .error (.value (priorityName sprite) value .integer) := by
  apply priorityOf_of_some
  rw [textAt?_set h, if_pos heq.symm]

end AttributeTree

namespace Stage

open AttributeTree (priorityPath segments)

/-- A write is taken for the write of a priority if it goes to the priority of a sprite without a dot
in its name. -/
theorem isPriority_iff {path key : String} :
    isPriority path key = true ↔
      ∃ sprite, '.' ∉ sprite.toList ∧ segments path ++ [key] = priorityPath sprite := by
  constructor
  · intro h
    rw [isPriority] at h
    split at h
    · rename_i first sprite hfields
      rw [Bool.and_eq_true, beq_iff_eq, beq_iff_eq] at h
      obtain ⟨rfl, rfl⟩ := h
      have hsprite : '.' ∉ sprite.toList :=
        not_mem_of_mem_fields (s := path) (by rw [hfields]; simp)
      refine ⟨sprite, hsprite, ?_⟩
      have hpath : path ≠ "" := by
        rintro rfl
        rw [fields_of_not_mem (by decide)] at hfields
        simp at hfields
      rw [segments, if_neg hpath, hfields, priorityPath, fields_of_not_mem hsprite]
      rfl
    · cases h
  · rintro ⟨sprite, hsprite, h⟩
    rw [priorityPath, fields_of_not_mem hsprite] at h
    have hsplit : segments path ++ [key] = ["sprite", sprite] ++ ["priority"] := h
    obtain ⟨hpath, hkey⟩ := List.append_inj' hsplit rfl
    rw [segments] at hpath
    split at hpath
    · cases hpath
    · rw [isPriority, hpath]
      simpa using hkey

/-- A write to the priority of a sprite is not taken for one exactly if the sprite has a dot in its
name. -/
theorem isPriority_eq_false_iff {path key sprite : String}
    (h : segments path ++ [key] = priorityPath sprite) :
    isPriority path key = false ↔ '.' ∈ sprite.toList := by
  rw [← Bool.not_eq_true, isPriority_iff]
  constructor
  · intro hnone
    by_cases hdot : '.' ∈ sprite.toList
    · exact hdot
    · exact absurd ⟨sprite, hdot, h⟩ hnone
  · rintro hdot ⟨other, hother, heq⟩
    rw [← AttributeTree.priorityPath_inj (h.symm.trans heq)] at hother
    exact hother hdot

end Stage

end VisualNovel
