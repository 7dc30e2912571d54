import VisualNovel.Picture.Wrap
import VisualNovel.Proofs.Text.Words

/-!
# Broken texts

A text is broken into lines that carry its words in order, each on one line. A line that is too wide
has a single word. No other way to cut the words into groups that fit gives fewer lines: wherever a
line ends, as many groups of the other cut have come no further.
-/
namespace VisualNovel

open VisualNovel.Text

namespace Wrap

variable {fits : List String → Bool} {current rest : List String}

theorem flatten_groupsFrom (fits : List String → Bool) (current rest : List String) :
    (groupsFrom fits current rest).flatten = current ++ rest := by
  induction rest generalizing current with
  | nil => simp [groupsFrom]
  | cons w rest ih =>
    rw [groupsFrom]
    split
    · rw [ih, List.append_assoc, List.singleton_append]
    · rw [List.flatten_cons, ih, List.singleton_append]

@[simp]
theorem flatten_groups (fits : List String → Bool) (ws : List String) :
    (groups fits ws).flatten = ws := by
  cases ws with
  | nil => rfl
  | cons w rest => exact flatten_groupsFrom fits [w] rest

/-- A group is a single word or one that fits. -/
def Sound (fits : List String → Bool) (g : List String) : Prop :=
  fits g = true ∨ ∃ w, g = [w]

theorem sound_of_mem_groupsFrom (h : Sound fits current) {g : List String}
    (hg : g ∈ groupsFrom fits current rest) : Sound fits g := by
  induction rest generalizing current with
  | nil =>
    rw [groupsFrom, List.mem_singleton] at hg
    exact hg ▸ h
  | cons w rest ih =>
    rw [groupsFrom] at hg
    split at hg
    · rename_i hfits
      exact ih (.inl hfits) hg
    · rcases List.mem_cons.1 hg with rfl | hg
      · exact h
      · exact ih (.inr ⟨w, rfl⟩) hg

theorem sound_of_mem_groups {ws g : List String} (hg : g ∈ groups fits ws) : Sound fits g := by
  cases ws with
  | nil => cases hg
  | cons w rest => exact sound_of_mem_groupsFrom (.inr ⟨w, rfl⟩) hg

theorem ne_nil_of_mem_groupsFrom (h : current ≠ []) {g : List String}
    (hg : g ∈ groupsFrom fits current rest) : g ≠ [] := by
  induction rest generalizing current with
  | nil =>
    rw [groupsFrom, List.mem_singleton] at hg
    exact hg ▸ h
  | cons w rest ih =>
    rw [groupsFrom] at hg
    split at hg
    · exact ih (by simp) hg
    · rcases List.mem_cons.1 hg with rfl | hg
      · exact h
      · exact ih (by simp) hg

theorem ne_nil_of_mem_groups {ws g : List String} (hg : g ∈ groups fits ws) : g ≠ [] := by
  cases ws with
  | nil => cases hg
  | cons w rest => exact ne_nil_of_mem_groupsFrom (by simp) hg

/-- Every stretch of words of a group that fits, fits as well. -/
def Shortenable (fits : List String → Bool) : Prop :=
  ∀ g h, g <:+: h → fits h = true → fits g = true

/-- A cut of which every group of two or more words fits. -/
def Fitting (fits : List String → Bool) (cut : List (List String)) : Prop :=
  ∀ g ∈ cut, 2 ≤ g.length → fits g = true

/-- The groups are not more than those of a cut that still has all their words before it, and perhaps
some more. -/
theorem length_groupsFrom_le (shortenable : Shortenable fits) (hcurrent : current ≠ [])
    {cut : List (List String)} (fitting : Fitting fits cut) (before : List String)
    (h : cut.flatten = before ++ current ++ rest) :
    (groupsFrom fits current rest).length ≤ cut.length := by
  induction rest generalizing current cut before with
  | nil =>
    cases cut with
    | nil => simp_all
    | cons g cut => simp [groupsFrom]
  | cons w rest ih =>
    rw [groupsFrom]
    split
    · apply ih (by simp) fitting before
      rw [h]
      simp
    · rename_i hw
      cases cut with
      | nil => simp at h
      | cons g cut =>
        have hcut : Fitting fits cut := fun k hk => fitting k (List.mem_cons_of_mem g hk)
        rw [List.flatten_cons, List.append_eq_append_iff] at h
        -- the first group of the other cut ends at the break or before it, since a group across the
        -- break would hold the words that did not fit on the line
        obtain ⟨left, -, hleft⟩ | ⟨more, hg, hmore⟩ := h
        · rw [List.length_cons, List.length_cons]
          apply Nat.succ_le_succ
          apply ih (by simp) hcut left
          rw [hleft]
          simp
        · cases more with
          | nil =>
            rw [List.length_cons, List.length_cons]
            apply Nat.succ_le_succ
            apply ih (by simp) hcut []
            simpa using hmore.symm
          | cons v more =>
            obtain ⟨rfl, -⟩ := List.cons.inj hmore
            have hstretch : current ++ [w] <:+: g := ⟨before, more, by simp [hg]⟩
            have htwo : 2 ≤ g.length := by
              have hpos := List.length_pos_iff.2 hcurrent
              have hle := hstretch.length_le
              rw [List.length_append, List.length_singleton] at hle
              omega
            exact absurd (shortenable _ _ hstretch (fitting g List.mem_cons_self htwo)) hw

/-- No fitting cut of the words has fewer groups. -/
theorem length_groups_le (shortenable : Shortenable fits) {ws : List String}
    {cut : List (List String)} (fitting : Fitting fits cut) (h : cut.flatten = ws) :
    (groups fits ws).length ≤ cut.length := by
  cases ws with
  | nil => exact Nat.zero_le _
  | cons w rest => exact length_groupsFrom_le shortenable (by simp) fitting [] h

theorem length_joined_append {g h : List String} (hg : g ≠ []) (hh : h ≠ []) :
    (joined (g ++ h)).length = (joined g).length + 1 + (joined h).length := by
  have hspace : " ".length = 1 := rfl
  induction g with
  | nil => exact absurd rfl hg
  | cons w g ih =>
    by_cases hempty : g = []
    · subst hempty
      rw [joined, List.singleton_append, String.intercalate_cons_of_ne_nil hh, String.length_append,
        String.length_append, hspace]
      simp [joined]
    · have hrest := ih hempty
      rw [joined] at hrest ⊢
      rw [List.cons_append, String.intercalate_cons_of_ne_nil (by simp [hh]), joined,
        String.intercalate_cons_of_ne_nil hempty]
      simp only [String.length_append, hspace, joined] at hrest ⊢
      omega

theorem length_joined_le_append (g h : List String) :
    (joined g).length ≤ (joined (g ++ h)).length ∧ (joined h).length ≤ (joined (g ++ h)).length := by
  by_cases hg : g = []
  · simp [hg, joined]
  · by_cases hh : h = []
    · simp [hh, joined]
    · rw [length_joined_append hg hh]
      omega

theorem length_joined_le {g h : List String} (hg : g <:+: h) :
    (joined g).length ≤ (joined h).length := by
  obtain ⟨a, b, rfl⟩ := hg
  exact Nat.le_trans (length_joined_le_append a g).2 (length_joined_le_append (a ++ g) b).1

/-- The lines of a text under a limit: they carry its words in order, a line that is too wide has one
word only, and no cut of the words into groups that fit has fewer groups. -/
structure Breaks (width : String → Int) (limit : Int) (text : String) (lines : List String) :
    Prop where
  words_eq : lines.flatMap words = words text
  joined_words : ∀ line ∈ lines, line ≠ "" ∧ words line ≠ [] ∧ joined (words line) = line
  alone : ∀ line ∈ lines, limit < width line → ∃ word, words line = [word]
  fewest : ∀ cut : List (List String), cut.flatten = words text →
    (∀ g ∈ cut, 2 ≤ g.length → width (joined g) ≤ limit) → lines.length ≤ cut.length

/-- Whether joined words are as narrow as a limit. -/
def narrow (width : String → Int) (limit : Int) (ws : List String) : Bool :=
  decide (width (joined ws) ≤ limit)

variable {width : String → Int} {limit : Int} {text : String}

theorem areWords_of_mem_groups {g : List String} (hg : g ∈ groups fits (words text)) :
    AreWords g := by
  intro w hw
  apply areWords_words text w
  rw [← flatten_groups fits (words text)]
  exact List.mem_flatten.2 ⟨g, hg, hw⟩

theorem words_joined_of_mem_groups {g : List String} (hg : g ∈ groups fits (words text)) :
    words (joined g) = g :=
  words_intercalate (areWords_of_mem_groups hg)

theorem flatMap_words_groups (fits : List String → Bool) (text : String) :
    ((groups fits (words text)).map joined).flatMap words = words text := by
  have hlines : ((groups fits (words text)).map joined).map words = groups fits (words text) := by
    have hgroup : ∀ g ∈ groups fits (words text), (words ∘ joined) g = id g :=
      fun g hg => words_joined_of_mem_groups hg
    rw [List.map_map, List.map_congr_left hgroup, List.map_id]
  rw [List.flatMap_def, hlines, flatten_groups]

/-- The groups that a limit of width makes are the lines of the text, if a stretch of the words of a
line is not wider than the line. -/
theorem breaks_groups (shortenable : Shortenable (narrow width limit)) :
    Breaks width limit text ((groups (narrow width limit) (words text)).map joined) where
  words_eq := flatMap_words_groups _ text
  joined_words := by
    intro line hline
    obtain ⟨g, hg, rfl⟩ := List.mem_map.1 hline
    have hwords := words_joined_of_mem_groups hg
    have hne := ne_nil_of_mem_groups hg
    refine ⟨fun hempty => hne ?_, by rwa [hwords], by rw [hwords]⟩
    rw [← hwords, hempty]
    rfl
  alone := by
    intro line hline hwide
    obtain ⟨g, hg, rfl⟩ := List.mem_map.1 hline
    rw [words_joined_of_mem_groups hg]
    apply (sound_of_mem_groups hg).resolve_left
    intro hnarrow
    exact absurd (of_decide_eq_true hnarrow) (Int.not_le.2 hwide)
  fewest := by
    intro cut hcut hfit
    rw [List.length_map]
    exact length_groups_le shortenable (fun g hg htwo => decide_eq_true (hfit g hg htwo)) hcut

/-- Characters of the same width make every stretch of a line not wider than the line. -/
theorem shortenable_narrow {pitch : Int} (positive : 0 < pitch)
    (hwidth : ∀ line, width line = pitch * line.length) (limit : Int) :
    Shortenable (narrow width limit) := by
  intro g h hg hh
  have hlong : width (joined h) ≤ limit := of_decide_eq_true hh
  have hlength : ((joined g).length : Int) ≤ (joined h).length :=
    Int.ofNat_le.2 (length_joined_le hg)
  apply decide_eq_true
  calc
    width (joined g) = pitch * (joined g).length := hwidth _
    _ ≤ pitch * (joined h).length := Int.mul_le_mul_of_nonneg_left hlength (Int.le_of_lt positive)
    _ = width (joined h) := (hwidth _).symm
    _ ≤ limit := hlong

end Wrap

namespace Font

open Wrap (narrow)

theorem wrap_eq (f : Font) (text : String) (limit : Int) :
    f.wrap text limit = (Wrap.groups (narrow f.width limit) (words text)).map Wrap.joined :=
  rfl

theorem pitch_pos (f : Font) : 0 < f.pitch := by
  rw [pitch]
  omega

theorem width_eq (f : Font) (line : String) : f.width line = f.pitch * line.length :=
  Int.mul_comm _ _

/-- Every positive width is the width of the characters of a font. -/
theorem exists_width_eq {pitch : Int} (positive : 0 < pitch) {width : String → Int}
    (hwidth : ∀ line, width line = pitch * line.length) : ∃ f : Font, f.width = width := by
  refine ⟨⟨none, 2 * pitch⟩, funext fun line => ?_⟩
  have hpitch : (⟨none, 2 * pitch⟩ : Font).pitch = pitch := by
    show max 1 (2 * pitch / 2) = pitch
    omega
  rw [width_eq, hpitch, hwidth]

theorem breaks_wrap (f : Font) (text : String) (limit : Int) :
    Wrap.Breaks f.width limit text (f.wrap text limit) := by
  rw [wrap_eq]
  exact Wrap.breaks_groups (Wrap.shortenable_narrow f.pitch_pos f.width_eq limit)

/-- A font whose characters all have the same width, whatever that is, breaks a text into lines that
carry its words, and into as few lines as can be. -/
theorem wrap_fewest_lines {pitch : Int} (positive : 0 < pitch) {width : String → Int}
    (hwidth : ∀ line, width line = pitch * line.length) :
    (∃ f : Font, f.width = width) ∧
      ∀ f : Font, f.width = width → ∀ text limit,
        Wrap.Breaks width limit text (f.wrap text limit) := by
  refine ⟨exists_width_eq positive hwidth, ?_⟩
  rintro f rfl text limit
  exact f.breaks_wrap text limit

/-- Two words that do not fit side by side, the second one wider than any line. -/
theorem wrap_fewest_lines_wide_word :
    (∀ line, (⟨none, 8⟩ : Font).width line = 4 * line.length) ∧
      (⟨none, 8⟩ : Font).wrap " a\tbb  ccccc d" 16 = ["a bb", "ccccc", "d"] ∧
        Wrap.Breaks (⟨none, 8⟩ : Font).width 16 " a\tbb  ccccc d" ["a bb", "ccccc", "d"] := by
  have hwidth : ∀ line, (⟨none, 8⟩ : Font).width line = 4 * line.length :=
    fun line => Int.mul_comm _ _
  have hlines : (⟨none, 8⟩ : Font).wrap " a\tbb  ccccc d" 16 = ["a bb", "ccccc", "d"] := by
    decide
  refine ⟨hwidth, hlines, ?_⟩
  rw [← hlines]
  exact (wrap_fewest_lines (by decide) hwidth).2 _ rfl _ 16

end Font

end VisualNovel
