import VisualNovel.Proofs.Script.Format
import VisualNovel.Proofs.Script.Kind
import VisualNovel.Script.Load

/-!
# Coordinates of a script

Larger coordinates than the greatest one are refused where they are read, so no script that was read
shows a sprite beyond it.
-/
namespace VisualNovel

open ArgumentProblem (maxCoordinate)

/-- Both coordinates are small enough to be read. -/
def Placement.Bounded (p : Placement) : Prop :=
  p.x ≤ maxCoordinate ∧ p.y ≤ maxCoordinate

def Script.Bounded (s : Script) : Prop :=
  ∀ name placement, .directive (.show name placement) ∈ s.events → placement.Bounded

namespace Directive

variable {s : List Char} {n : Nat} {name : String} {placement : Placement}

theorem le_of_readCoordinate {axis : String} (h : readCoordinate axis s = .ok n) :
    n ≤ maxCoordinate := by
  simp only [readCoordinate] at h
  split at h
  · cases h
  · split at h
    · cases h
    · split at h
      · cases h
      · rename_i hle
        cases h
        exact Nat.le_of_not_lt hle

/-- Whatever is shown has been read as a sprite, with its coordinates in bounds. -/
theorem bounded_of_read {kind : Kind} (h : read kind s = .ok (.show name placement)) :
    placement.Bounded := by
  have hsprite : kind = .sprite := (kind_of_read h).symm
  rw [hsprite, read] at h
  generalize hd : Directive.show name placement = d at h
  cases readsSprite_of_read h with
  | placed fields readsX readsY shows =>
    rw [placed] at hd
    split at hd <;> cases hd
    exact ⟨le_of_readCoordinate readsX, le_of_readCoordinate readsY⟩
  | hidden => cases hd

end Directive

namespace Script

variable {script : Script}

theorem bounded_of_parseDirective {place : Place} {line : List Char} {name : String}
    {placement : Placement} (h : parseDirective place line = .ok (.show name placement)) :
    placement.Bounded := by
  obtain ⟨kind, argument, hread⟩ := exists_of_parseDirective h
  exact Directive.bounded_of_read hread

theorem bounded_of_parse {source name : String} (h : parse source name = .ok script) :
    script.Bounded := by
  have hcases := parse_cases source name
  rw [h] at hcases
  obtain ⟨-, -, hevents, -⟩ := hcases
  intro sprite placement hmem
  obtain ⟨i, hi, hget⟩ := List.mem_iff_getElem.1 hmem
  have hat := hevents.get (i := i) (by rw [hevents.length_eq]; exact hi) hi
  simp only [List.get_eq_getElem, hget] at hat
  cases hat with
  | directive here kind read => exact bounded_of_parseDirective read

theorem bounded_of_parseScript {source : List Char} {name : String} {s t : Session}
    (h : (Session.parseScript source name).run s = .ok script t) : script.Bounded := by
  rw [Session.parseScript] at h
  cases hparse : parseChars source name with
  | error e =>
    rw [hparse] at h
    cases h
  | ok parsed =>
    rw [hparse] at h
    cases h
    have hstring : parse (String.ofList source) name = .ok script := by
      rw [parse, String.toList_ofList]
      exact hparse
    exact bounded_of_parse hstring

theorem bounded_of_loadScript {path : Path} {name : Option String} {s t : Session}
    (h : (Session.loadScript path name).run s = .ok script t) : script.Bounded := by
  obtain ⟨_, _, -, hread⟩ := exists_of_run_bind h
  obtain ⟨source, _, -, hnote⟩ := exists_of_run_bind hread
  obtain ⟨_, _, -, hparse⟩ := exists_of_run_bind hnote
  exact bounded_of_parseScript hparse

end Script

end VisualNovel
