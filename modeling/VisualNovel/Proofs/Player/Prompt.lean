import VisualNovel.Proofs.Session.Reply

/-!
# Prompts settle

Whatever the input holds, a prompt comes to an answer: the first line that is a one or a two, apart from
blanks, decides, and where no line does the second choice is taken. The prompt has read no further then.
Its box needs a label of at least three characters, since the width of the box is taken from the longer
label alone and the labels stand behind their numbers; without one the prompt fails at once.
-/
namespace VisualNovel

open VisualNovel.Text

namespace Text

theorem takeLine_append_cons {body : List Char} (h : '\n' ∉ body) (rest : List Char) :
    takeLine (body ++ '\n' :: rest) = (body ++ ['\n'], rest) := by
  induction body with
  | nil => rfl
  | cons c body ih =>
    rw [List.mem_cons, not_or] at h
    rw [List.cons_append, takeLine, if_neg (Ne.symm h.1), ih h.2]
    rfl

theorem takeLine_of_not_mem {s : List Char} (h : '\n' ∉ s) : takeLine s = (s, []) := by
  induction s with
  | nil => rfl
  | cons c s ih =>
    rw [List.mem_cons, not_or] at h
    rw [takeLine, if_neg (Ne.symm h.1), ih h.2]

end Text

namespace Prompt

variable {c : Choices} {s : Session} {input left line : List Char}
  {read rejected more : List (List Char)} {first : Bool}

/-- Lines from the front of an input, and what is left of it. A line reaches to the first line break;
the last line of the input may have none. -/
inductive Reads : (input : List Char) → (read : List (List Char)) → (left : List Char) → Prop where
  | start (input : List Char) : Reads input [] input
  | line {body rest left : List Char} {read : List (List Char)} (unbroken : '\n' ∉ body) :
      Reads rest read left → Reads (body ++ '\n' :: rest) ((body ++ ['\n']) :: read) left
  | last {body : List Char} (unbroken : '\n' ∉ body) (some : body ≠ []) : Reads body [body] []

/-- A line is a one or a two, apart from blanks around it: a one takes the first choice. -/
def Decides (line : List Char) (first : Bool) : Prop :=
  trimChars line = [if first then '1' else '2']

/-- How an input settles a choice: the lines that are rejected, the choice, and what is left to read. -/
inductive Settles (input : List Char) : List (List Char) → Bool → List Char → Prop where
  | decided {rejected : List (List Char)} {line left : List Char} {first : Bool}
      (reads : Reads input (rejected ++ [line]) left)
      (undecided : ∀ l ∈ rejected, ∀ first, ¬Decides l first) (decides : Decides line first) :
      Settles input rejected first left
  | ended {rejected : List (List Char)} (reads : Reads input rejected [])
      (undecided : ∀ l ∈ rejected, ∀ first, ¬Decides l first) : Settles input rejected false []

theorem lines_append_cons {body : List Char} (h : '\n' ∉ body) (rest : List Char) :
    lines (body ++ '\n' :: rest) = (body ++ ['\n']) :: lines rest := by
  cases body with
  | nil => rw [List.nil_append, lines, ← List.nil_append ('\n' :: rest), takeLine_append_cons h]
  | cons d body => rw [List.cons_append, lines, ← List.cons_append, takeLine_append_cons h]

theorem lines_of_not_mem (h : '\n' ∉ input) (some : input ≠ []) : lines input = [input] := by
  cases input with
  | nil => exact absurd rfl some
  | cons d rest => rw [lines, takeLine_of_not_mem h, lines]

theorem flatten_lines (input : List Char) : (lines input).flatten = input := by
  induction input using lines.induct with
  | case1 => rw [lines, List.flatten_nil]
  | case2 c rest ih => rw [lines, List.flatten_cons, ih, takeLine_append]

theorem reads_of_lines (h : lines input = read ++ more) : Reads input read more.flatten := by
  induction read generalizing input with
  | nil =>
    rw [← List.nil_append more, ← h, flatten_lines]
    exact .start input
  | cons l read ih =>
    by_cases hbreak : '\n' ∈ input
    · obtain ⟨body, rest, rfl, hbody⟩ := List.eq_append_cons_of_mem hbreak
      rw [lines_append_cons hbody, List.cons_append, List.cons.injEq] at h
      obtain ⟨rfl, hrest⟩ := h
      exact .line hbody (ih hrest)
    · have hsome : input ≠ [] := by
        rintro rfl
        rw [lines] at h
        cases h
      rw [lines_of_not_mem hbreak hsome, List.cons_append, List.cons.injEq] at h
      obtain ⟨rfl, hnone⟩ := h
      obtain ⟨rfl, rfl⟩ := List.append_eq_nil_iff.1 hnone.symm
      exact .last hbreak hsome

theorem verdict_eq_some_iff : verdict line = some first ↔ Decides line first := by
  rw [verdict, Decides]
  split
  · rename_i hline
    rw [hline]
    cases first <;> decide
  · rename_i hline
    rw [hline]
    cases first <;> decide
  · rename_i hone htwo
    cases first
    · simpa using htwo
    · simpa using hone

theorem verdict_eq_none_iff : verdict line = none ↔ ∀ first, ¬Decides line first := by
  simp only [← verdict_eq_some_iff, Option.eq_none_iff_forall_ne_some, ne_eq]

theorem settle_cases (ls : List (List Char)) :
    ∃ rejected, rejected.length = (settle ls).rejected ∧ (∀ l ∈ rejected, verdict l = none) ∧
      ((∃ line, verdict line = some (settle ls).first ∧ ls = rejected ++ line :: (settle ls).unread) ∨
        ls = rejected ∧ (settle ls).first = false ∧ (settle ls).unread = []) := by
  induction ls with
  | nil => exact ⟨[], rfl, by simp, Or.inr ⟨rfl, rfl, rfl⟩⟩
  | cons line rest ih =>
    cases hverdict : verdict line with
    | some first =>
      simp only [settle, hverdict]
      exact ⟨[], rfl, by simp, Or.inl ⟨line, hverdict, rfl⟩⟩
    | none =>
      simp only [settle, hverdict]
      obtain ⟨rejected, hlength, hnone, hend⟩ := ih
      refine ⟨line :: rejected, by simp [hlength], List.forall_mem_cons.2 ⟨hverdict, hnone⟩, ?_⟩
      rcases hend with ⟨decisive, hdecisive, hrest⟩ | ⟨hrest, hend⟩
      · exact Or.inl ⟨decisive, hdecisive, by rw [List.cons_append, ← hrest]⟩
      · exact Or.inr ⟨by rw [← hrest], hend⟩

/-- What the lines of an input come to is how the input settles the choice. -/
theorem exists_settles (input : List Char) :
    ∃ rejected, rejected.length = (settle (lines input)).rejected ∧
      Settles input rejected (settle (lines input)).first
        (settle (lines input)).unread.flatten := by
  obtain ⟨rejected, hlength, hnone, hend⟩ := settle_cases (lines input)
  have hundecided : ∀ l ∈ rejected, ∀ first, ¬Decides l first := fun l hl =>
    verdict_eq_none_iff.1 (hnone l hl)
  refine ⟨rejected, hlength, ?_⟩
  rcases hend with ⟨line, hline, hlines⟩ | ⟨hlines, hfirst, hunread⟩
  · have hreads : Reads input (rejected ++ [line]) (settle (lines input)).unread.flatten := by
      apply reads_of_lines
      rw [List.append_assoc, List.singleton_append, ← hlines]
    exact .decided hreads hundecided (verdict_eq_some_iff.1 hline)
  · rw [hfirst, hunread]
    apply Settles.ended _ hundecided
    rw [← List.flatten_nil]
    apply reads_of_lines
    rw [List.append_nil, hlines]

theorem boxWidth_lt_iff : boxWidth c < 5 ↔ c.first.length < 3 ∧ c.second.length < 3 := by
  simp only [boxWidth]
  omega

/-- Unless both labels are shorter than three characters, a prompt gets its answer from any input. It
reads the lines up to the one that decides and leaves the others, it shows its box once for each line
that it reads and once at the end of the input, and it notes one error for each line that it rejects. Two
shorter labels make it fail before it reads or shows anything. -/
theorem ask_settles (c : Choices) (s : Session) :
    ((c.first.length < 3 ∧ c.second.length < 3) ∧ (ask c).run s = .error .narrowPrompt s) ∨
      ((3 ≤ c.first.length ∨ 3 ≤ c.second.length) ∧
        ∃ rejected first left, Settles s.console.input rejected first left ∧
          (ask c).run s = .ok first { s with
            journal := rejections rejected.length s.journal
            console := {
              input := left
              output := s.console.output ++
                String.join (List.replicate (rejected.length + 1) (box c)) } }) := by
  by_cases hnarrow : boxWidth c < 5
  · exact Or.inl ⟨boxWidth_lt_iff.1 hnarrow, run_ask_of_narrow hnarrow s⟩
  · obtain ⟨rejected, hlength, hsettles⟩ := exists_settles s.console.input
    refine Or.inr ⟨?_, rejected, _, _, hsettles, ?_⟩
    · rw [boxWidth_lt_iff] at hnarrow
      omega
    · rw [run_ask_of_wide hnarrow, hlength, behind]

/-- Two labels of one letter leave no room for the numbers in front of them. -/
theorem exists_ask_narrow :
    ∃ s : Session, Settles s.console.input [] true [] ∧
      (ask ⟨"A", "B"⟩).run s = .error .narrowPrompt s := by
  refine ⟨{ console := { input := ['1', '\n'] } }, ?_, run_ask_of_narrow (by decide) _⟩
  have hreads : Reads (['1'] ++ '\n' :: []) [['1'] ++ ['\n']] [] := .line (by decide) (.start [])
  exact .decided hreads (by simp) (verdict_eq_some_iff.1 (by decide))

end Prompt

end VisualNovel
