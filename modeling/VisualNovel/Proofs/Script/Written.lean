import VisualNovel.Proofs.Script.Bounded
import VisualNovel.Proofs.Script.CallForm
import VisualNovel.Proofs.Text.Digit

/-!
# Directives written back

A directive can be written in the format of scripts: its name, and its fields between parentheses with
commas between them. A directive that was read is read again from what is written for it, except that
the name of an attribute may not come back.
-/
namespace VisualNovel

open VisualNovel.Text

namespace Directive

/-- The fields of a sprite with a place, of which the last one is `show` or `hide`. -/
def placedFields (name : String) (p : Placement) (visibility : String) : List String :=
  [name, p.path, natText p.x, natText p.y, visibility]

def writtenFields : Directive → List String
  | jump target none => [target]
  | jump target (some choices) => [choices.first, choices.second, target]
  | «show» name p => placedFields name p "show"
  | hide name (some p) => placedFields name p "hide"
  | hide name none => [name, "hide"]
  | background path => [path]
  | «attribute» path key value => [attributeName path key, value]
  | custom name arguments => name :: arguments

/-- What stands between the parentheses of a directive. -/
def argument (d : Directive) : List Char :=
  joined (d.writtenFields.map String.toList)

def written (d : Directive) : List Char :=
  '@' :: (d.kind.name.toList ++ '(' :: (d.argument ++ [')']))

example : (jump "t,u.txt" (some ⟨"Left", ""⟩)).written = "@jump(Left,,t,u.txt)".toList := by
  decide +kernel

variable {s : List Char} {d : Directive} {kind : Kind}

theorem trimChars_toList_trimmed (s : List Char) :
    trimChars (trimmed s).toList = (trimmed s).toList := by
  rw [trimmed, String.toList_ofList, trimChars_trimChars]

theorem trimmed_toList_trimmed (s : List Char) : trimmed (trimmed s).toList = trimmed s := by
  rw [trimmed, trimChars_toList_trimmed, String.ofList_toList]

theorem not_mem_toList_trimmed {c : Char} (h : c ∉ s) : c ∉ (trimmed s).toList := by
  rw [trimmed, String.toList_ofList]
  exact fun hc => h (mem_of_mem_stripWhile hc)

theorem exists_of_jumpTo {choices : Option Choices} (h : jumpTo s choices = .ok d) :
    d = .jump (trimmed s) choices ∧ jumpTo (trimmed s).toList choices = .ok d := by
  simp only [jumpTo] at h
  split at h
  · cases h
  · rename_i hsome
    cases h
    refine ⟨rfl, ?_⟩
    have hkept : (trimmed s).toList ≠ [] := by
      rw [trimmed, String.toList_ofList]
      exact hsome
    rw [jumpTo, trimChars_toList_trimmed, if_neg hkept, String.ofList_toList]
    rfl

theorem readJump_argument (h : readJump s = .ok d) : readJump d.argument = .ok d := by
  rw [readJump] at h
  cases hfirst : splitFirst ',' s with
  | none =>
    rw [hfirst] at h
    obtain ⟨rfl, hread⟩ := exists_of_jumpTo h
    have hcomma := not_mem_toList_trimmed (splitFirst_eq_none_iff.1 hfirst)
    have hargument : argument (.jump (trimmed s) none) = (trimmed s).toList := joined_singleton _
    rw [hargument, readJump, splitFirst_eq_none_iff.2 hcomma]
    exact hread
  | some parts =>
    obtain ⟨first, rest⟩ := parts
    simp only [hfirst] at h
    cases hsecond : splitFirst ',' rest with
    | none =>
      rw [hsecond] at h
      cases h
    | some parts =>
      obtain ⟨second, target⟩ := parts
      simp only [hsecond] at h
      obtain ⟨rfl, hread⟩ := exists_of_jumpTo h
      have hcomma := not_mem_toList_trimmed (splitFirst_eq_some_iff.1 hfirst).1
      have hcomma' := not_mem_toList_trimmed (splitFirst_eq_some_iff.1 hsecond).1
      have hargument : argument (.jump (trimmed target) (some ⟨trimmed first, trimmed second⟩)) =
          (trimmed first).toList ++ ',' ::
            ((trimmed second).toList ++ ',' :: (trimmed target).toList) := by
        simp [argument, writtenFields]
      rw [hargument, readJump, splitFirst_eq_some_iff.2 ⟨hcomma, rfl⟩]
      simp only [splitFirst_eq_some_iff.2 ⟨hcomma', rfl⟩, trimmed_toList_trimmed]
      exact hread

theorem readBackground_argument (h : readBackground s = .ok d) :
    readBackground d.argument = .ok d := by
  simp only [readBackground] at h
  split at h
  · cases h
  · rename_i hsome
    cases h
    have hargument : argument (.background (trimmed s)) = (trimmed s).toList := joined_singleton _
    have hkept : (trimmed s).toList ≠ [] := by
      rw [trimmed, String.toList_ofList]
      exact hsome
    change readBackground (argument (.background (trimmed s))) = .ok (.background (trimmed s))
    rw [hargument, readBackground, trimChars_toList_trimmed, if_neg hkept, String.ofList_toList]

/-- A field of a sprite holds neither a comma nor a blank. -/
structure Bare (field : List Char) : Prop where
  comma : ',' ∉ field
  blank : ∀ c ∈ field, isBlank c = false

theorem bare_of_all {field : List Char} (h : field.all (fun c => c != ',' && !isBlank c) = true) :
    Bare field := by
  simp only [List.all_eq_true, Bool.and_eq_true, bne_iff_ne, Bool.not_eq_true'] at h
  exact ⟨fun hmem => (h _ hmem).1 rfl, fun c hc => (h c hc).2⟩

theorem bare_natDigits (n : Nat) : Bare (natDigits 10 n) where
  comma := not_mem_natDigits (by decide) n
  blank c hc := not_isBlank_of_isAsciiDigit
    (List.all_eq_true.1 (all_isAsciiDigit_natDigits n) c hc)

theorem bare_of_mem_splitAll {field : List Char}
    (h : field ∈ splitAll ',' (s.filter fun c => !isBlank c)) : Bare field where
  comma := not_mem_of_mem_splitAll h
  blank c hc := by simpa using (List.mem_filter.1 (mem_of_mem_splitAll h hc)).2

theorem mem_joined {c : Char} {fs : List (List Char)} (h : c ∈ joined fs) :
    c = ',' ∨ ∃ f ∈ fs, c ∈ f := by
  induction fs with
  | nil => cases h
  | cons f fs ih =>
    cases fs with
    | nil => exact Or.inr ⟨f, List.mem_cons_self, by simpa using h⟩
    | cons g fs =>
      rw [joined_cons_cons, List.mem_append, List.mem_cons] at h
      rcases h with h | rfl | h
      · exact Or.inr ⟨f, List.mem_cons_self, h⟩
      · exact Or.inl rfl
      · obtain rfl | ⟨f', hf', hc⟩ := ih h
        · exact Or.inl rfl
        · exact Or.inr ⟨f', List.mem_cons_of_mem _ hf', hc⟩

theorem splitAll_filter_joined {fs : List (List Char)} (h : ∀ f ∈ fs, Bare f) (some : fs ≠ []) :
    splitAll ',' ((joined fs).filter fun c => !isBlank c) = fs := by
  have hkeep : (joined fs).filter (fun c => !isBlank c) = joined fs := by
    rw [List.filter_eq_self]
    intro c hc
    obtain rfl | ⟨f, hf, hc⟩ := mem_joined hc
    · decide
    · rw [(h f hf).blank c hc]
      rfl
  rw [hkeep, joined, splitAll_intercalate (fun f hf => (h f hf).comma) some]

theorem readCoordinate_natDigits {axis : String} {n : Nat} (h : n ≤ ArgumentProblem.maxCoordinate) :
    readCoordinate axis (natDigits 10 n) = .ok n := by
  have hlength : (natDigits 10 n).length ≤ 10 := by
    apply length_natDigits_le
    simp only [ArgumentProblem.maxCoordinate] at h
    omega
  have hform : ((natDigits 10 n).isEmpty || !(natDigits 10 n).all isAsciiDigit) = false := by
    rw [all_isAsciiDigit_natDigits, List.isEmpty_eq_false_iff.2 (natDigits_ne_nil n)]
    rfl
  have hshort : ¬Number.maxDigits < (natDigits 10 n).length := by
    rw [Number.maxDigits]
    omega
  simp only [readCoordinate, hform, Bool.false_eq_true, if_false, hshort, ofDigits_natDigits,
    Nat.not_lt.2 h]

theorem readSprite_placedFields {name visibility : String} {p : Placement}
    (hname : Bare name.toList) (hpath : Bare p.path.toList) (hp : p.Bounded)
    (hvisibility : visibility = "show" ∨ visibility = "hide") :
    readSprite (joined ((placedFields name p visibility).map String.toList)) =
      .ok (placed name p visibility) := by
  have hlast : Bare visibility.toList := by
    rcases hvisibility with rfl | rfl <;> exact bare_of_all (by decide +kernel)
  have hfields : (placedFields name p visibility).map String.toList =
      [name.toList, p.path.toList, natDigits 10 p.x, natDigits 10 p.y, visibility.toList] := by
    simp [placedFields, natText]
  have hbare : ∀ f ∈ [name.toList, p.path.toList, natDigits 10 p.x, natDigits 10 p.y,
      visibility.toList], Bare f := by
    simp [hname, hpath, hlast, bare_natDigits]
  have hshown : ¬(visibility ≠ "show" ∧ visibility ≠ "hide") := by tauto
  rw [hfields, readSprite, splitAll_filter_joined hbare (List.cons_ne_nil _ _)]
  simp only [String.ofList_toList, hshown, if_false, readCoordinate_natDigits hp.1,
    readCoordinate_natDigits hp.2]
  rcases hvisibility with rfl | rfl <;> rfl

theorem readSprite_hidden {name : String} (hname : Bare name.toList) :
    readSprite (joined [name.toList, "hide".toList]) = .ok (.hide name none) := by
  have hbare : ∀ f ∈ [name.toList, "hide".toList], Bare f := by
    rw [List.forall_mem_cons, List.forall_mem_singleton]
    exact ⟨hname, bare_of_all (by decide +kernel)⟩
  rw [readSprite, splitAll_filter_joined hbare (List.cons_ne_nil _ _)]
  simp only [String.ofList_toList, if_true]

theorem argument_placed {name visibility : String} (p : Placement)
    (h : visibility = "show" ∨ visibility = "hide") :
    (placed name p visibility).argument =
      joined ((placedFields name p visibility).map String.toList) := by
  rcases h with rfl | rfl <;> rfl

theorem readSprite_argument (h : readSprite s = .ok d) : readSprite d.argument = .ok d := by
  have hbare {f : List Char} {fields : List (List Char)}
      (hfields : splitAll ',' (s.filter fun c => !isBlank c) = fields) (hf : f ∈ fields) :
      Bare (String.ofList f).toList := by
    rw [String.toList_ofList]
    exact bare_of_mem_splitAll (hfields ▸ hf)
  cases readsSprite_of_read h with
  | placed fields readsX readsY shows =>
    rw [argument_placed _ shows]
    exact readSprite_placedFields (hbare fields (by simp)) (hbare fields (by simp))
      ⟨le_of_readCoordinate readsX, le_of_readCoordinate readsY⟩ shows
  | hidden fields hides => exact readSprite_hidden (hbare fields (by simp))

/-- Fields that are trimmed, of which the first has something in it, are read as they are. -/
theorem readCustom_joined {name : String} {arguments : List String}
    (comma : ∀ f ∈ name :: arguments, ',' ∉ f.toList)
    (kept : ∀ f ∈ name :: arguments, trimmed f.toList = f) (some : name ≠ "")
    (form : callForm? (argument (.custom name arguments)) = none) :
    readCustom (argument (.custom name arguments)) = .ok (.custom name arguments) := by
  have hsplit : splitAll ',' (argument (.custom name arguments)) =
      name.toList :: arguments.map String.toList := by
    apply splitAll_intercalate
    · intro f hf
      obtain ⟨g, hg, rfl⟩ := List.mem_map.1 hf
      exact comma g hg
    · exact List.cons_ne_nil _ _
  have hname := kept name List.mem_cons_self
  have hsome : trimChars name.toList ≠ [] := by
    intro hempty
    rw [trimmed, hempty] at hname
    exact some hname.symm
  have harguments : (arguments.map String.toList).map trimmed = arguments := by
    rw [List.map_map]
    calc arguments.map (trimmed ∘ String.toList)
        = arguments.map id :=
          List.map_congr_left fun f hf => kept f (List.mem_cons_of_mem _ hf)
      _ = arguments := List.map_id _
  rw [readCustom, form]
  simp only [hsplit, hsome, if_false, harguments]
  exact congrArg (fun n => Except.ok (Directive.custom n arguments)) hname

theorem of_mem_map_trimmed {f : String} (h : f ∈ (splitAll ',' s).map trimmed) :
    ',' ∉ f.toList ∧ trimmed f.toList = f := by
  obtain ⟨g, hg, rfl⟩ := List.mem_map.1 h
  exact ⟨not_mem_toList_trimmed (not_mem_of_mem_splitAll hg), trimmed_toList_trimmed g⟩

/-- What is read from a call is read from its list of fields, which is no call. -/
theorem readCustom_of_named {name : List Char} {arguments : List String} (hname : Named name)
    (harguments : ∀ f ∈ arguments, ',' ∉ f.toList ∧ trimmed f.toList = f) :
    readCustom (argument (.custom (String.ofList name) arguments)) =
      .ok (.custom (String.ofList name) arguments) := by
  have hlist : (String.ofList name).toList = name := String.toList_ofList
  apply readCustom_joined
  · rw [List.forall_mem_cons, hlist]
    exact ⟨hname.not_mem (by decide), fun f hf => (harguments f hf).1⟩
  · rw [List.forall_mem_cons, hlist, trimmed, hname.trimChars_eq]
    exact ⟨rfl, fun f hf => (harguments f hf).2⟩
  · intro hempty
    rw [hempty] at hlist
    exact hname.some hlist.symm
  · apply callForm?_joined_eq_none
    rw [hlist]
    exact hname.not_mem (by decide)

/-- What is read from a list of fields is read from the trimmed fields, which are no call either. -/
theorem readCustom_of_list {name : List Char} {arguments : List (List Char)}
    (form : callForm? s = none) (hfields : splitAll ',' s = name :: arguments)
    (some : trimChars name ≠ []) :
    readCustom (argument (.custom (trimmed name) (arguments.map trimmed))) =
      .ok (.custom (trimmed name) (arguments.map trimmed)) := by
  have hmem : ∀ f ∈ trimmed name :: arguments.map trimmed, ',' ∉ f.toList ∧ trimmed f.toList = f := by
    rw [← List.map_cons, ← hfields]
    exact fun f hf => of_mem_map_trimmed hf
  apply readCustom_joined (fun f hf => (hmem f hf).1) (fun f hf => (hmem f hf).2)
  · intro hempty
    rw [trimmed, String.ofList_eq_empty_iff] at hempty
    exact some hempty
  · have hargument : argument (.custom (trimmed name) (arguments.map trimmed)) =
        joined ((splitAll ',' s).map trimChars) := by
      rw [hfields]
      simp [argument, writtenFields, trimmed, Function.comp_def]
    rw [← Option.not_isSome_iff_eq_none, hargument, isSome_callForm?_joined_trimmed, joined,
      intercalate_splitAll, form]
    simp

theorem readCustom_argument (h : readCustom s = .ok d) : readCustom d.argument = .ok d := by
  rw [readCustom] at h
  cases hform : callForm? s with
  | some call =>
    obtain ⟨name, inside⟩ := call
    rw [hform] at h
    obtain ⟨lead, gap, trail, -, -, hname, -⟩ := callForm?_eq_some_iff.1 hform
    cases h
    apply readCustom_of_named hname
    intro f hf
    split at hf
    · cases hf
    · exact of_mem_map_trimmed hf
  | none =>
    rw [hform] at h
    simp only at h
    split at h
    · cases h
    · rename_i name arguments hfields
      split at h
      · cases h
      · rename_i hsome
        cases h
        exact readCustom_of_list hform hfields hsome

/-- Except for attributes, a directive is read again from its fields. -/
theorem read_argument (h : read kind s = .ok d) (plain : kind ≠ .attribute) :
    read kind d.argument = .ok d := by
  cases kind with
  | jump => exact readJump_argument h
  | sprite => exact readSprite_argument h
  | background => exact readBackground_argument h
  | «attribute» => exact absurd rfl plain
  | custom => exact readCustom_argument h

end Directive

namespace Script

open Directive (Kind)

variable {place : Place} {line argument : List Char} {kind : Kind} {d : Directive}

/-- A line in the format of scripts is read by its name from what stands between its parentheses. -/
theorem parseDirective_of_read (place : Place) (h : Directive.read kind argument = .ok d) :
    parseDirective place ('@' :: (kind.name.toList ++ '(' :: (argument ++ [')']))) = .ok d := by
  have hopen : splitFirst '(' ('@' :: (kind.name.toList ++ '(' :: (argument ++ [')']))) =
      some ('@' :: kind.name.toList, argument ++ [')']) := by
    refine splitFirst_eq_some_iff.2 ⟨?_, rfl⟩
    cases kind <;> decide
  have hclose : splitLast ')' (argument ++ [')']) = some (argument, []) :=
    splitLast_eq_some_iff.2 ⟨List.not_mem_nil, rfl⟩
  have hname : String.ofList (trimChars (('@' :: kind.name.toList).drop 1)) = kind.name := by
    cases kind <;> decide
  simp only [parseDirective, hopen, hclose, hname, Directive.ofName?_name, h]

/-- A directive that a line is read as, be it a jump, a sprite, a background or a custom directive, is
read again from the line that is written for it, wherever that stands. -/
theorem parseDirective_written (h : parseDirective place line = .ok d)
    (plain : d.kind ≠ .attribute) (other : Place) :
    parseDirective other d.written = .ok d := by
  obtain ⟨kind, argument, hread⟩ := exists_of_parseDirective h
  obtain rfl := Directive.kind_of_read hread
  exact parseDirective_of_read other (Directive.read_argument hread plain)

/-- Parentheses and blanks in a name and in arguments, one of which is a closing parenthesis alone. -/
theorem parseDirective_written_parentheses :
    ∃ d : Directive, parseDirective ⟨"s.txt", 1⟩ "@custom( a (b , ), (c) d ) x".toList = .ok d ∧
      d.kind ≠ .attribute ∧ d.written = "@custom(a (b,),(c) d)".toList ∧
      parseDirective ⟨"t.txt", 7⟩ d.written = .ok d := by
  have hread : parseDirective ⟨"s.txt", 1⟩ "@custom( a (b , ), (c) d ) x".toList =
      .ok (.custom "a (b" [")", "(c) d"]) := by
    decide +kernel
  exact ⟨_, hread, by decide, by decide +kernel,
    parseDirective_written hread (by decide) ⟨"t.txt", 7⟩⟩

end Script

end VisualNovel
