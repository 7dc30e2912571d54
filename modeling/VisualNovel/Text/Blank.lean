/-!
# Blank characters

The whitespace of the script format: what is trimmed from the ends of a field and what separates
the words of a line. Texts are handled as lists of characters; the `String` forms wrap them.
-/
namespace VisualNovel.Text

/-- Code points that count as whitespace: the ASCII controls 9 to 13 and 28 to 31, the space, NEL,
the no-break space and the Unicode spaces and separators. -/
def isBlank (c : Char) : Bool :=
  let n := c.toNat
  (9 ≤ n && n ≤ 13) || (28 ≤ n && n ≤ 32) || n == 0x85 || n == 0xA0 || n == 0x1680 ||
    (0x2000 ≤ n && n ≤ 0x200A) || n == 0x2028 || n == 0x2029 || n == 0x202F || n == 0x205F ||
    n == 0x3000

/-- Drops the longest run at the end of the list whose members satisfy `p`. -/
def dropEndWhile {α : Type} (p : α → Bool) : List α → List α
  | [] => []
  | c :: r =>
    match dropEndWhile p r with
    | [] => if p c then [] else [c]
    | d :: t => c :: d :: t

theorem dropEndWhile_append_singleton {α : Type} (p : α → Bool) (s : List α) (c : α) :
    dropEndWhile p (s ++ [c]) = if p c then dropEndWhile p s else s ++ [c] := by
  induction s with
  | nil => simp [dropEndWhile]
  | cons d r ih =>
    rw [List.cons_append, dropEndWhile, ih]
    by_cases h : p c
    · simp only [h, if_true]
      rfl
    · simp only [h]
      cases r <;> simp

theorem exists_eq_dropEndWhile_append {α : Type} (p : α → Bool) (s : List α) :
    ∃ t, s = dropEndWhile p s ++ t ∧ ∀ c ∈ t, p c = true := by
  induction s with
  | nil => exact ⟨[], rfl, by simp⟩
  | cons c r ih =>
    obtain ⟨t, hr, ht⟩ := ih
    simp only [dropEndWhile]
    split
    · rename_i hd
      rw [hd, List.nil_append] at hr
      by_cases h : p c
      · exact ⟨c :: t, by simp [h, ← hr], by simpa [h] using ht⟩
      · exact ⟨t, by simp [h, ← hr], ht⟩
    · rename_i d u hd
      rw [hd] at hr
      exact ⟨t, by rw [List.cons_append, ← hr], ht⟩

theorem not_of_mem_getLast?_dropEndWhile {α : Type} {p : α → Bool} {s : List α} {c : α}
    (h : (dropEndWhile p s).getLast? = some c) : p c = false := by
  induction s with
  | nil => simp [dropEndWhile] at h
  | cons d r ih =>
    simp only [dropEndWhile] at h
    split at h
    · by_cases hd : p d
      · simp [hd] at h
      · simp [hd] at h
        subst h
        simpa using hd
    · rename_i e t he
      rw [he] at ih
      rw [List.getLast?_cons_cons] at h
      exact ih h

def stripWhile (p : Char → Bool) (s : List Char) : List Char :=
  dropEndWhile p (s.dropWhile p)

def trimChars (s : List Char) : List Char :=
  stripWhile isBlank s

def trim (s : String) : String :=
  String.ofList (trimChars s.toList)

/-- The maximal runs of non-blank characters, in order. -/
def wordsChars : List Char → List (List Char)
  | [] => []
  | c :: r =>
    if isBlank c then wordsChars r
    else
      match r with
      | [] => [[c]]
      | d :: _ =>
        if isBlank d then [c] :: wordsChars r
        else
          match wordsChars r with
          | [] => [[c]]
          | w :: ws => (c :: w) :: ws

/-- No blank is part of a word, no word is empty, and the words hold all other characters in
order. -/
theorem flatten_wordsChars (s : List Char) :
    (wordsChars s).flatten = s.filter fun c => !isBlank c := by
  induction s with
  | nil => rfl
  | cons c r ih =>
    by_cases h : isBlank c
    · simp [wordsChars, h, ih]
    · simp only [wordsChars, h, Bool.false_eq_true, if_false]
      cases r with
      | nil => simp [h]
      | cons d t =>
        by_cases hd : isBlank d
        · simp [hd, h, ih]
        · simp only [hd, Bool.false_eq_true, if_false]
          cases hw : wordsChars (d :: t) with
          | nil =>
            rw [hw] at ih
            simp [hd] at ih
          | cons w ws =>
            rw [hw] at ih
            rw [List.filter_cons_of_pos (by simpa using h), ← ih]
            simp

theorem ne_nil_of_mem_wordsChars {s w : List Char} (h : w ∈ wordsChars s) : w ≠ [] := by
  induction s generalizing w with
  | nil => simp [wordsChars] at h
  | cons c r ih =>
    simp only [wordsChars] at h
    split at h
    · exact ih h
    · split at h
      · simp_all
      · split at h
        · rcases List.mem_cons.1 h with rfl | h
          · simp
          · exact ih h
        · split at h
          · simp_all
          · rename_i hw
            rcases List.mem_cons.1 h with rfl | h
            · simp
            · exact ih (by rw [hw]; exact List.mem_cons_of_mem _ h)

theorem not_isBlank_of_mem_wordsChars {s w : List Char} (h : w ∈ wordsChars s) {c : Char}
    (hc : c ∈ w) : isBlank c = false := by
  have : c ∈ (wordsChars s).flatten := List.mem_flatten.2 ⟨w, h, hc⟩
  rw [flatten_wordsChars] at this
  simpa using (List.mem_filter.1 this).2

def words (s : String) : List String :=
  (wordsChars s.toList).map String.ofList

end VisualNovel.Text
