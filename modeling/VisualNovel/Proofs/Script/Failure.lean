import VisualNovel.Proofs.Script.Format
import VisualNovel.Proofs.Text.Digit
import VisualNovel.Proofs.Text.Field

/-!
# How reading a script fails

Every failure names the script and the line that offends first, with one exception: the coordinate of
a sprite that is a numeral of more digits than are read. It is found before the numeral is compared
with the largest coordinate, and its failure names no place.
-/
namespace VisualNovel

open VisualNovel.Text

namespace Directive

/-- A numeral with more digits than are read. -/
structure OverlongNumeral (s : List Char) (count : Nat) : Prop where
  digits : s.all isAsciiDigit = true
  length : s.length = count
  long : Number.maxDigits < count

/-- The long form of a sprite, with a coordinate of too many digits. -/
def OverlongArgument (argument : List Char) (count : Nat) : Prop :=
  ∃ name path x y visibility,
    splitAll ',' (argument.filter fun c => !isBlank c) = [name, path, x, y, visibility] ∧
      (String.ofList visibility = "show" ∨ String.ofList visibility = "hide") ∧
      (OverlongNumeral x count ∨ (∃ n, readCoordinate "x" x = .ok n) ∧ OverlongNumeral y count)

variable {s argument : List Char} {axis : String} {count : Nat} {kind : Kind}

theorem readCoordinate_eq_digits_iff :
    readCoordinate axis s = .error (.digits count) ↔ OverlongNumeral s count := by
  simp only [readCoordinate, refuse]
  constructor
  · intro h
    split at h
    · cases h
    · rename_i hdigits
      split at h
      · rename_i hlong
        cases h
        simp only [Bool.or_eq_true, Bool.not_eq_true', not_or, Bool.not_eq_false] at hdigits
        exact ⟨hdigits.2, rfl, hlong⟩
      · split at h <;> cases h
  · rintro ⟨hdigits, rfl, hlong⟩
    have hne : s ≠ [] := by
      rintro rfl
      simp [Number.maxDigits] at hlong
    simp [hdigits, hlong, hne]

/-- The coordinates are read from left to right. -/
theorem readSprite_eq_digits_iff :
    readSprite argument = .error (.digits count) ↔ OverlongArgument argument count := by
  simp only [readSprite]
  constructor
  · intro h
    split at h
    · rename_i name path x y visibility hfields
      simp only [bind, Except.bind, refuse] at h
      split at h
      · cases h
      · rename_i hvisibility
        refine ⟨name, path, x, y, visibility, hfields, by tauto, ?_⟩
        cases hx : readCoordinate "x" x with
        | error e =>
          rw [hx] at h
          cases h
          exact Or.inl (readCoordinate_eq_digits_iff.1 hx)
        | ok n =>
          simp only [hx] at h
          cases hy : readCoordinate "y" y with
          | error e =>
            rw [hy] at h
            cases h
            exact Or.inr ⟨⟨n, rfl⟩, readCoordinate_eq_digits_iff.1 hy⟩
          | ok m =>
            simp only [hy] at h
            split at h <;> cases h
    · split at h <;> cases h
    · cases h
  · rintro ⟨name, path, x, y, visibility, hfields, hvisibility, hnumeral⟩
    have hshown : ¬(String.ofList visibility ≠ "show" ∧ String.ofList visibility ≠ "hide") := by
      tauto
    simp only [hfields, hshown, if_false, bind, Except.bind]
    rcases hnumeral with hx | ⟨⟨n, hx⟩, hy⟩
    · rw [readCoordinate_eq_digits_iff.2 hx]
    · rw [hx, readCoordinate_eq_digits_iff.2 hy]

theorem read_eq_digits_iff :
    read kind argument = .error (.digits count) ↔
      kind = .sprite ∧ OverlongArgument argument count := by
  cases kind with
  | sprite => simpa [read] using readSprite_eq_digits_iff
  | jump =>
    simp only [read, readJump, jumpTo, refuse, reduceCtorEq, false_and, iff_false]
    repeat' split
    all_goals simp
  | background =>
    simp only [read, readBackground, refuse, reduceCtorEq, false_and, iff_false]
    split <;> simp
  | «attribute» =>
    simp only [read, readAttribute, refuse, reduceCtorEq, false_and, iff_false]
    repeat' split
    all_goals simp
  | custom =>
    simp only [read, readCustom, refuse, reduceCtorEq, false_and, iff_false]
    repeat' split
    all_goals simp

theorem ofName?_eq_sprite_iff {name : String} :
    Kind.ofName? name = some .sprite ↔ name = "sprite" := by
  constructor
  · intro h
    simp only [Kind.ofName?] at h
    split at h <;> simp_all
  · rintro rfl
    rfl

end Directive

namespace Script

open Directive (OverlongArgument)

/-- A directive for a sprite with a coordinate of too many digits. -/
def OverlongLine (line : List Char) (count : Nat) : Prop :=
  ∃ head argument tail, line = head ++ '(' :: (argument ++ ')' :: tail) ∧ '(' ∉ head ∧ ')' ∉ tail ∧
    Directive.trimmed (head.drop 1) = "sprite" ∧ OverlongArgument argument count

variable {first place : Place} {lines : List (List Char)} {line : List Char} {i count : Nat}
  {e : ParseFailure}

/-- A directive line fails with an error that names its place, or on a numeral of too many digits. -/
theorem parseDirective_error_cases (h : parseDirective place line = .error e) :
    (∃ s, e = .script s ∧ s.place? = some place) ∨
      ∃ count, e = .digits count ∧ OverlongLine line count := by
  simp only [parseDirective] at h
  split at h
  · cases h
    exact Or.inl ⟨_, rfl, rfl⟩
  · rename_i head rest hhead
    split at h
    · cases h
      exact Or.inl ⟨_, rfl, rfl⟩
    · rename_i argument tail htail
      split at h
      · cases h
        exact Or.inl ⟨_, rfl, rfl⟩
      · rename_i kind hkind
        split at h
        · cases h
        · cases h
          exact Or.inl ⟨_, rfl, rfl⟩
        · rename_i count hread
          cases h
          obtain ⟨rfl, hargument⟩ := Directive.read_eq_digits_iff.1 hread
          obtain ⟨hopen, rfl⟩ := splitFirst_eq_some_iff.1 hhead
          obtain ⟨hclose, rfl⟩ := splitLast_eq_some_iff.1 htail
          exact Or.inr ⟨count, rfl, head, argument, tail, rfl, hopen, hclose,
            Directive.ofName?_eq_sprite_iff.1 hkind, hargument⟩

theorem parseDirective_eq_digits_iff :
    parseDirective place line = .error (.digits count) ↔ OverlongLine line count := by
  constructor
  · intro h
    obtain ⟨s, hs, -⟩ | ⟨n, hn, hline⟩ := parseDirective_error_cases h
    · cases hs
    · cases hn
      exact hline
  · rintro ⟨head, argument, tail, rfl, hopen, hclose, hname, hargument⟩
    rw [Directive.trimmed] at hname
    simp only [parseDirective, splitFirst_eq_some_iff.2 ⟨hopen, rfl⟩,
      splitLast_eq_some_iff.2 ⟨hclose, rfl⟩, hname, Directive.ofName?_eq_sprite_iff.2 rfl,
      Directive.read_eq_digits_iff.2 ⟨rfl, hargument⟩]

/-- The first line that offends is a directive with a numeral of too many digits. -/
def FirstOverlong (first : Place) (lines : List (List Char)) (i count : Nat) : Prop :=
  (∃ line, lines[i]? = some line ∧ kindOf line = .directive ∧ OverlongLine line count) ∧
    ∀ j < i, ∀ e, ¬Offends first lines j e

theorem firstOffence_digits_iff :
    FirstOffence first lines i (.digits count) ↔ FirstOverlong first lines i count := by
  constructor
  · rintro ⟨h, hfirst⟩
    cases h with
    | directive here kind read =>
      exact ⟨⟨_, here, kind, parseDirective_eq_digits_iff.1 read⟩, hfirst⟩
  · rintro ⟨⟨line, here, kind, hline⟩, hfirst⟩
    exact ⟨.directive here kind (parseDirective_eq_digits_iff.2 hline), hfirst⟩

theorem parseChars_eq_digits_iff {source : List Char} {name : String} :
    parseChars source name = .error (.digits count) ↔
      ∃ i, FirstOverlong ⟨name, 1⟩ (sourceLines source) i count := by
  have hparse : parse (String.ofList source) name = parseChars source name := by
    rw [parse, String.toList_ofList]
  rw [← hparse, parse_eq_error_iff, String.toList_ofList]
  simp only [firstOffence_digits_iff]

/-- Unless the failure is a numeral of too many digits, it names the place of the line. -/
theorem Offends.located (h : Offends first lines i e) :
    (∃ s, e = .script s ∧ s.place? = some (first.down i)) ∨ ∃ count, e = .digits count := by
  cases h with
  | header | text => exact Or.inl ⟨_, rfl, rfl⟩
  | directive _ _ read =>
    obtain hlocated | ⟨count, rfl, -⟩ := parseDirective_error_cases read
    · exact Or.inl hlocated
    · exact Or.inr ⟨count, rfl⟩

/-- Reading fails with an error that names the script and the number of the first line that offends,
or on a numeral: exactly if that line is a sprite, in its long form, with a coordinate of more digits
than are read. Neither the other directives nor anything else in a line fails in that way. -/
theorem parse_located_unless_overlong (source name : String) (place : Place)
    (line argument : List Char) (kind : Directive.Kind) :
    (∀ count, Directive.read kind argument = .error (.digits count) ↔
      kind = .sprite ∧ OverlongArgument argument count) ∧
    (∀ s, parseDirective place line = .error (.script s) → s.place? = some place) ∧
    (∀ count, parseDirective place line = .error (.digits count) ↔ OverlongLine line count) ∧
    (∀ s, parse source name = .error (.script s) → ∃ i,
      FirstOffence ⟨name, 1⟩ (sourceLines source.toList) i (.script s) ∧
        s.place? = some ⟨name, 1 + i⟩) ∧
    (∀ count, parse source name = .error (.digits count) ↔
      ∃ i, FirstOverlong ⟨name, 1⟩ (sourceLines source.toList) i count) := by
  refine ⟨fun _ => Directive.read_eq_digits_iff, fun s h => ?_,
    fun _ => parseDirective_eq_digits_iff, fun s h => ?_, fun count => ?_⟩
  · obtain ⟨t, ht, hplace⟩ | ⟨count, hcount, -⟩ := parseDirective_error_cases h
    · cases ht
      exact hplace
    · cases hcount
  · obtain ⟨i, hi⟩ := parse_eq_error_iff.1 h
    refine ⟨i, hi, ?_⟩
    obtain ⟨t, ht, hplace⟩ | ⟨count, hcount⟩ := hi.1.located
    · cases ht
      exact hplace
    · cases hcount
  · simp only [parse_eq_error_iff, firstOffence_digits_iff]

theorem overlongLine_of_numeral {digits : List Char} (h : Directive.OverlongNumeral digits count) :
    OverlongLine (['@', 's', 'p', 'r', 'i', 't', 'e'] ++
      '(' :: (['a', ',', 'p', ','] ++ digits ++ [',', '0', ',', 's', 'h', 'o', 'w'] ++
        [')'])) count := by
  have hblank : digits.filter (fun c => !isBlank c) = digits := by
    rw [List.filter_eq_self]
    intro c hc
    rw [not_isBlank_of_isAsciiDigit (List.all_eq_true.1 h.digits c hc), Bool.not_false]
  have hname : Directive.trimmed ['s', 'p', 'r', 'i', 't', 'e'] = "sprite" := by decide
  refine ⟨_, _, _, rfl, by decide, by decide, hname, ?_⟩
  refine ⟨['a'], ['p'], digits, ['0'], ['s', 'h', 'o', 'w'], ?_, Or.inl (by simp), Or.inl h⟩
  have hfront : ['a', ',', 'p', ','].filter (fun c => !isBlank c) = ['a', ',', 'p', ','] := by
    decide
  have hback : [',', '0', ',', 's', 'h', 'o', 'w'].filter (fun c => !isBlank c) =
      [',', '0', ',', 's', 'h', 'o', 'w'] := by
    decide
  rw [List.filter_append, List.filter_append, hblank, hfront, hback]
  change splitAll ',' (['a', ',', 'p'] ++ ',' :: digits ++ ',' :: ['0', ',', 's', 'h', 'o', 'w']) = _
  rw [splitAll_append_cons, splitAll_append_cons,
    splitAll_of_not_mem (not_mem_of_digits h.digits (by decide))]
  rfl

theorem sourceLines_of_line (h : '\n' ∉ line) (k : '\r' ∉ line) : sourceLines line = [line] := by
  have hkeep : line.filter (fun c => c ≠ '\r') = line := by
    rw [List.filter_eq_self]
    intro c hc
    rw [decide_eq_true_eq]
    rintro rfl
    exact k hc
  rw [sourceLines, linesLF, splitAll_of_not_mem h, List.map_singleton, hkeep]

/-- A numeral of 4301 digits is refused without a place, and not as a coordinate that is too large. -/
theorem exists_parse_digits :
    parse ("@sprite(a,p," ++ String.ofList (List.replicate 4301 '1') ++ ",0,show)") "s.txt" =
      .error (.digits 4301) := by
  have hnumeral : Directive.OverlongNumeral (List.replicate 4301 '1') 4301 := by
    refine ⟨?_, List.length_replicate, by decide⟩
    rw [List.all_replicate]
    decide
  generalize List.replicate 4301 '1' = digits at hnumeral
  have hsource : ("@sprite(a,p," ++ String.ofList digits ++ ",0,show)").toList =
      ['@', 's', 'p', 'r', 'i', 't', 'e'] ++
        '(' :: (['a', ',', 'p', ','] ++ digits ++ [',', '0', ',', 's', 'h', 'o', 'w'] ++ [')']) := by
    simp
  have hlines : sourceLines ("@sprite(a,p," ++ String.ofList digits ++ ",0,show)").toList =
      [("@sprite(a,p," ++ String.ofList digits ++ ",0,show)").toList] := by
    apply sourceLines_of_line
    · simp [hsource, not_mem_of_digits hnumeral.digits (show isAsciiDigit '\n' = false by decide)]
    · simp [hsource, not_mem_of_digits hnumeral.digits (show isAsciiDigit '\r' = false by decide)]
  rw [parse_eq_error_iff, hlines]
  refine ⟨0, firstOffence_digits_iff.2 ⟨⟨_, rfl, ?_, ?_⟩, by simp⟩⟩
  · rw [hsource, kindOf_eq_directive_iff]
    exact ⟨_, rfl⟩
  · rw [hsource]
    exact overlongLine_of_numeral hnumeral

end Script

end VisualNovel
