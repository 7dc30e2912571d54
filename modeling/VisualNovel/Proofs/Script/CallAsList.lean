import VisualNovel.Proofs.Script.CallForm

/-!
# Calls and lists

A custom directive is written as a call or as a list of its name and its arguments. Parentheses and line
breaks in the arguments do not keep the two from meaning the same, nor do blanks around the name and
behind the call.
-/
namespace VisualNovel.Directive

open VisualNovel.Text

/-- A name with blanks around it. -/
def Spaced (s name : List Char) : Prop :=
  ∃ lead gap, s = lead ++ (name ++ gap) ∧ Blank lead ∧ Blank gap

variable {s t name inside trail : List Char} {arguments : List (List Char)}

theorem Spaced.trimmed_eq (h : Spaced s name) (hname : Named name) :
    trimChars s = name := by
  obtain ⟨lead, gap, rfl, hlead, hgap⟩ := h
  rw [trimChars, stripWhile_append hlead hgap]
  exact hname.trimChars_eq

theorem Spaced.not_mem {c : Char} (h : Spaced s name) (hname : Named name) (blank : isBlank c = false)
    (hc : inName c = false) : c ∉ s := by
  obtain ⟨lead, gap, rfl, hlead, hgap⟩ := h
  simp only [List.mem_append, not_or]
  exact ⟨hlead.not_mem blank, hname.not_mem hc, hgap.not_mem blank⟩

theorem Spaced.calls (h : Spaced s name) (hname : Named name) (inside : List Char)
    (htrail : Blank trail) : Calls (s ++ '(' :: (inside ++ ')' :: trail)) name inside := by
  obtain ⟨lead, gap, rfl, hlead, hgap⟩ := h
  exact ⟨lead, gap, trail, by simp, hlead, hname, hgap, htrail⟩

/-- A call is read by its name. Nothing but blanks between its parentheses is no argument. -/
theorem readCustom_of_calls (h : Calls s name inside) :
    readCustom s =
      .ok (.custom (String.ofList name)
        (if trimChars inside = [] then [] else (splitAll ',' inside).map trimmed)) := by
  rw [readCustom, callForm?_of_calls h]

/-- Unless they are a single blank one, arguments with commas between them are more than blanks. -/
theorem trimChars_joined_ne_nil (some : arguments ≠ []) (shown : ∀ a, arguments = [a] → ¬Blank a) :
    trimChars (joined arguments) ≠ [] := by
  intro hempty
  have hblank : Blank (joined arguments) := by
    obtain ⟨lead, trail, hs, hlead, htrail⟩ := exists_eq_stripWhile isBlank (joined arguments)
    rw [show stripWhile isBlank (joined arguments) = [] from hempty] at hs
    rw [hs, List.nil_append]
    intro c hc
    exact (List.mem_append.1 hc).elim (hlead c) (htrail c)
  cases arguments with
  | nil => exact some rfl
  | cons a rest =>
    cases rest with
    | nil => exact shown a rfl (by rwa [joined_singleton] at hblank)
    | cons b rest =>
      rw [joined_cons_cons] at hblank
      exact hblank.not_mem (c := ',') (by decide) (by simp)

theorem readCustom_of_spaced (h : Spaced s name) (hname : Named name)
    (comma : ∀ a ∈ arguments, ',' ∉ a) :
    readCustom (joined (s :: arguments)) =
      .ok (.custom (String.ofList name) (arguments.map trimmed)) := by
  have hform : callForm? (joined (s :: arguments)) = none :=
    callForm?_joined_eq_none (h.not_mem hname (by decide) (by decide)) arguments
  have hsplit : splitAll ',' (joined (s :: arguments)) = s :: arguments := by
    apply splitAll_intercalate _ (List.cons_ne_nil _ _)
    rw [List.forall_mem_cons]
    exact ⟨h.not_mem hname (by decide) (by decide), comma⟩
  rw [readCustom, hform]
  simp only [hsplit, h.trimmed_eq hname, hname.some, if_false]

/-- A name and arguments mean the same as a call and as a list, whatever blanks stand around the name
and behind the closing parenthesis and whatever the arguments hold but commas; only a single blank
argument is none in a call. -/
theorem readCustom_call_and_list (hname : Named name) (comma : ∀ a ∈ arguments, ',' ∉ a)
    (some : arguments ≠ []) (shown : ∀ a, arguments = [a] → ¬Blank a) (inCall : Spaced s name)
    (inList : Spaced t name) (htrail : Blank trail) :
    readCustom (s ++ '(' :: (joined arguments ++ ')' :: trail)) =
        .ok (.custom (String.ofList name) (arguments.map trimmed)) ∧
      readCustom (t ++ ',' :: joined arguments) =
        .ok (.custom (String.ofList name) (arguments.map trimmed)) := by
  constructor
  · rw [readCustom_of_calls (inCall.calls hname _ htrail),
      if_neg (trimChars_joined_ne_nil some shown), joined, splitAll_intercalate comma some]
  · obtain ⟨a, rest, rfl⟩ := List.exists_cons_of_ne_nil some
    rw [← joined_cons_cons]
    exact readCustom_of_spaced inList hname comma

/-- Arguments that look like parts of calls, one of which begins with a line break and one of which is
blank. -/
theorem readCustom_call_and_list_parentheses :
    readCustom " f\u3000( a(b,\n)c (, )\n".toList = .ok (.custom "f" ["a(b", ")c (", ""]) ∧
      readCustom "\tf , a(b,\n)c (, ".toList = .ok (.custom "f" ["a(b", ")c (", ""]) := by
  have hname : Named ['f'] := ⟨by decide, List.all_eq_true.1 (by decide)⟩
  have hblank {s : List Char} (h : s.all isBlank = true) : Blank s := List.all_eq_true.1 h
  have hcomma : ∀ a ∈ [" a(b".toList, "\n)c (".toList, " ".toList], ',' ∉ a := by
    decide +kernel
  obtain ⟨hcall, hlist⟩ := readCustom_call_and_list hname hcomma (by simp) (by simp)
    ⟨[' '], ['\u3000'], rfl, hblank (by decide), hblank (by decide)⟩
    ⟨['\t'], [' '], rfl, hblank (by decide), hblank (by decide)⟩ (hblank (s := ['\n']) (by decide))
  exact ⟨hcall, hlist⟩

example : readCustom "f( )".toList = .ok (.custom "f" []) ∧
    readCustom "f, ".toList = .ok (.custom "f" [""]) :=
  ⟨rfl, rfl⟩

end VisualNovel.Directive
