import VisualNovel.Text.Blank

/-!
# Words of joined texts

Joining words with a space and taking a text apart into words are inverse to each other on words
without blanks.
-/
namespace VisualNovel.Text

/-- A list of words as they come out of a text: none is empty and none holds a blank. -/
def AreWords (ws : List String) : Prop :=
  ∀ w ∈ ws, w ≠ "" ∧ ∀ c ∈ w.toList, isBlank c = false

theorem areWords_words (s : String) : AreWords (words s) := by
  intro w hw
  obtain ⟨cs, hcs, rfl⟩ := List.mem_map.1 hw
  rw [String.toList_ofList]
  refine ⟨?_, fun c hc => not_isBlank_of_mem_wordsChars hcs hc⟩
  rw [Ne, ← String.toList_inj, String.toList_ofList]
  exact ne_nil_of_mem_wordsChars hcs

variable {w s : List Char}

theorem wordsChars_cons_of_isBlank {c : Char} (h : isBlank c = true) (s : List Char) :
    wordsChars (c :: s) = wordsChars s := by
  simp [wordsChars, h]

/-- A word is the first one of a text that begins with it and goes on with a blank or not at all. -/
theorem wordsChars_append (hw : w ≠ []) (word : ∀ c ∈ w, isBlank c = false)
    (hs : ∀ c, s.head? = some c → isBlank c = true) :
    wordsChars (w ++ s) = w :: wordsChars s := by
  induction w with
  | nil => exact absurd rfl hw
  | cons c r ih =>
    have hc : isBlank c = false := word c List.mem_cons_self
    cases r with
    | nil =>
      cases s with
      | nil => simp [wordsChars, hc]
      | cons d t => simp [wordsChars, hc, hs d rfl]
    | cons d t =>
      have hd : isBlank d = false := word d (by simp)
      have hrest := ih (by simp) fun e he => word e (List.mem_cons_of_mem c he)
      rw [List.cons_append] at hrest
      rw [List.cons_append, List.cons_append, wordsChars, hrest]
      simp [hc, hd]

theorem wordsChars_intercalate {ws : List (List Char)} (h : ∀ w ∈ ws, w ≠ [])
    (word : ∀ w ∈ ws, ∀ c ∈ w, isBlank c = false) : wordsChars ([' '].intercalate ws) = ws := by
  induction ws with
  | nil => rfl
  | cons w ws ih =>
    have hw := h w List.mem_cons_self
    have hword := word w List.mem_cons_self
    by_cases hws : ws = []
    · subst hws
      have hone := wordsChars_append (s := []) hw hword (by simp)
      simpa [List.intercalate, wordsChars] using hone
    · have hrest := ih (fun v hv => h v (List.mem_cons_of_mem w hv))
        fun v hv => word v (List.mem_cons_of_mem w hv)
      have hspace : isBlank ' ' = true := by decide
      rw [List.intercalate_cons_of_ne_nil hws, List.append_assoc,
        wordsChars_append hw hword (by simp [hspace]), List.singleton_append,
        wordsChars_cons_of_isBlank hspace, hrest]

theorem words_intercalate {ws : List String} (h : AreWords ws) :
    words (String.intercalate " " ws) = ws := by
  have hchars : wordsChars ([' '].intercalate (ws.map String.toList)) = ws.map String.toList := by
    apply wordsChars_intercalate
    · intro w hw
      obtain ⟨v, hv, rfl⟩ := List.mem_map.1 hw
      exact fun hnil => (h v hv).1 (String.toList_inj.1 hnil)
    · intro w hw
      obtain ⟨v, hv, rfl⟩ := List.mem_map.1 hw
      exact (h v hv).2
  have hspace : " ".toList = [' '] := rfl
  rw [words, String.toList_intercalate, hspace, hchars, List.map_map]
  simp

end VisualNovel.Text
