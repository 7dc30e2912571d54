import VisualNovel.Proofs.Text.Blank
import VisualNovel.Proofs.Text.Field
import VisualNovel.Script.Argument

/-!
# The call form

A custom directive may be written as a call: a name, an opening parenthesis behind it, and a closing one
at the end, apart from blanks. Of a text with commas in it, only what stands in front of the first comma
and what stands behind the last one decides whether it is a call, so blanks at the ends of its fields
are of no account.
-/
namespace VisualNovel.Directive

open VisualNovel.Text

/-- A character that the name of a call may have. -/
def inName (c : Char) : Bool :=
  !isBlank c && c != '(' && c != ')' && c != ','

/-- All characters are blank. -/
def Blank (s : List Char) : Prop :=
  ∀ c ∈ s, isBlank c = true

/-- A name of a call. -/
structure Named (name : List Char) : Prop where
  some : name ≠ []
  all : ∀ c ∈ name, inName c = true

/-- The text is a call by the name; the other text stands between the parentheses. -/
def Calls (s name inside : List Char) : Prop :=
  ∃ lead gap trail, s = lead ++ (name ++ (gap ++ '(' :: (inside ++ ')' :: trail))) ∧ Blank lead ∧
    Named name ∧ Blank gap ∧ Blank trail

/-- The text begins with a name and an opening parenthesis. -/
def Leads (s : List Char) : Prop :=
  ∃ lead name gap rest, s = lead ++ (name ++ (gap ++ '(' :: rest)) ∧ Blank lead ∧ Named name ∧
    Blank gap

/-- The text ends with a closing parenthesis. -/
def Closes (s : List Char) : Prop :=
  ∃ front trail, s = front ++ ')' :: trail ∧ Blank trail

variable {s t name inside lead gap rest : List Char}

theorem Blank.not_mem {c : Char} (h : Blank s) (hc : isBlank c = false) : c ∉ s := by
  intro hmem
  rw [h c hmem] at hc
  cases hc

theorem Named.not_mem {c : Char} (h : Named name) (hc : inName c = false) : c ∉ name := by
  intro hmem
  rw [h.all c hmem] at hc
  cases hc

theorem isBlank_of_inName {c : Char} (h : inName c = true) : isBlank c = false := by
  simp only [inName, Bool.and_eq_true, Bool.not_eq_true'] at h
  exact h.1.1.1

theorem Named.trimChars_eq (h : Named name) : trimChars name = name :=
  stripWhile_eq_self_iff.2
    ⟨fun c hc => isBlank_of_inName (h.all c (List.mem_of_mem_head? hc)),
      fun c hc => isBlank_of_inName (h.all c (List.mem_of_mem_getLast? hc))⟩

/-- In front of a name blanks are dropped, and nothing else is. -/
theorem dropWhile_lead (hlead : Blank lead) (hname : Named name) (rest : List Char) :
    (lead ++ (name ++ rest)).dropWhile isBlank = name ++ rest := by
  obtain ⟨c, chars, rfl⟩ := List.exists_cons_of_ne_nil hname.some
  have hc := isBlank_of_inName (hname.all c List.mem_cons_self)
  rw [List.dropWhile_append_of_pos hlead, List.cons_append, List.dropWhile_cons_of_neg (by simp [hc])]

theorem trimChars_trimChars (s : List Char) : trimChars (trimChars s) = trimChars s :=
  stripWhile_stripWhile isBlank s

theorem callForm?_trimChars (s : List Char) : callForm? (trimChars s) = callForm? s := by
  simp only [callForm?, trimChars_trimChars]

theorem callForm?_eq (s : List Char) :
    callForm? s =
      match ((trimChars s).dropWhile inName).dropWhile isBlank with
      | '(' :: rest =>
        match rest.getLast? with
        | some ')' =>
          if (trimChars s).takeWhile inName = [] then none
          else some ((trimChars s).takeWhile inName, rest.dropLast)
        | _ => none
      | _ => none :=
  rfl

theorem calls_of_callForm? (h : callForm? s = some (name, inside)) : Calls s name inside := by
  rw [callForm?_eq] at h
  split at h
  · rename_i rest hopen
    split at h
    · rename_i hclose
      split at h
      · cases h
      · rename_i hsome
        cases h
        obtain ⟨inside, rfl⟩ := List.getLast?_eq_some_iff.1 hclose
        obtain ⟨lead, trail, hs, hlead, htrail⟩ := exists_eq_stripWhile isBlank s
        obtain ⟨gap, hgap, hblank⟩ : ∃ gap,
            (trimChars s).dropWhile inName = gap ++ '(' :: (inside ++ [')']) ∧ Blank gap :=
          ⟨_, by rw [← hopen, List.takeWhile_append_dropWhile],
            List.all_eq_true.1 List.all_takeWhile⟩
        have hname : Named ((trimChars s).takeWhile inName) :=
          ⟨hsome, List.all_eq_true.1 List.all_takeWhile⟩
        refine ⟨lead, gap, trail, ?_, hlead, hname, hblank, htrail⟩
        calc s = lead ++ (trimChars s ++ trail) := hs
          _ = lead ++ ((trimChars s).takeWhile inName ++ (gap ++ '(' :: (inside ++ [')'])) ++
                trail) := by rw [← hgap, List.takeWhile_append_dropWhile]
          _ = _ := by simp
    · cases h
  · cases h

theorem callForm?_of_calls (h : Calls s name inside) : callForm? s = some (name, inside) := by
  obtain ⟨lead, gap, trail, rfl, hlead, hname, hgap, htrail⟩ := h
  have htrim : trimChars (lead ++ (name ++ (gap ++ '(' :: (inside ++ ')' :: trail)))) =
      name ++ (gap ++ '(' :: (inside ++ [')'])) := by
    have hclose := stripWhile_append_cons (p := isBlank) (c := ')') (by decide)
      (lead ++ (name ++ (gap ++ '(' :: inside))) trail
    rw [dropWhile_lead hlead hname, dropEndWhile_eq_nil htrail] at hclose
    simpa [trimChars] using hclose
  have hend : (gap ++ '(' :: (inside ++ [')'])).takeWhile inName = [] := by
    cases gap with
    | nil => rfl
    | cons c gap =>
      have hc : inName c = false := by
        rw [inName, hgap c List.mem_cons_self]
        rfl
      rw [List.cons_append, List.takeWhile_cons_of_neg (by simp [hc])]
  have hskip : (gap ++ '(' :: (inside ++ [')'])).dropWhile inName =
      gap ++ '(' :: (inside ++ [')']) := by
    have hsplit := List.takeWhile_append_dropWhile (p := inName)
      (l := gap ++ '(' :: (inside ++ [')']))
    rwa [hend, List.nil_append] at hsplit
  rw [callForm?_eq, htrim, List.dropWhile_append_of_pos hname.all, hskip,
    List.dropWhile_append_of_pos hgap, List.takeWhile_append_of_pos hname.all, hend,
    List.append_nil, List.dropWhile_cons_of_neg (by decide)]
  simp [hname.some]

theorem callForm?_eq_some_iff : callForm? s = some (name, inside) ↔ Calls s name inside :=
  ⟨calls_of_callForm?, callForm?_of_calls⟩

theorem isSome_callForm?_iff : (callForm? s).isSome = true ↔ ∃ name inside, Calls s name inside := by
  rw [Option.isSome_iff_exists]
  simp only [Prod.exists, callForm?_eq_some_iff]

theorem Calls.leads (h : Calls s name inside) : Leads s := by
  obtain ⟨lead, gap, trail, rfl, hlead, hname, hgap, -⟩ := h
  exact ⟨lead, name, gap, _, rfl, hlead, hname, hgap⟩

theorem Calls.closes (h : Calls s name inside) : Closes s := by
  obtain ⟨lead, gap, trail, rfl, -, -, -, htrail⟩ := h
  exact ⟨lead ++ (name ++ (gap ++ '(' :: inside)), trail, by simp, htrail⟩

theorem not_mem_front (hlead : Blank lead) (hname : Named name) (hgap : Blank gap) :
    ',' ∉ lead ++ (name ++ gap) := by
  simp only [List.mem_append, not_or]
  exact ⟨hlead.not_mem (by decide), hname.not_mem (by decide), hgap.not_mem (by decide)⟩

theorem leads_append_comma_iff : Leads (s ++ ',' :: t) ↔ Leads s := by
  constructor
  · rintro ⟨lead, name, gap, rest, hs, hlead, hname, hgap⟩
    have hfront : s ++ ',' :: t = lead ++ (name ++ gap) ++ '(' :: rest := by
      rw [hs]
      simp
    obtain ⟨m, hm, -⟩ | ⟨m, rfl, -⟩ := append_cons_cases (by decide) hfront
    · refine absurd ?_ (not_mem_front hlead hname hgap)
      simp [hm]
    · exact ⟨lead, name, gap, m, by simp, hlead, hname, hgap⟩
  · rintro ⟨lead, name, gap, rest, rfl, hlead, hname, hgap⟩
    exact ⟨lead, name, gap, rest ++ ',' :: t, by simp, hlead, hname, hgap⟩

theorem closes_append_comma_iff : Closes (s ++ ',' :: t) ↔ Closes t := by
  constructor
  · rintro ⟨front, trail, hs, htrail⟩
    obtain ⟨m, -, rfl⟩ | ⟨m, -, rfl⟩ := append_cons_cases (by decide) hs
    · exact ⟨m, trail, rfl, htrail⟩
    · exact absurd (by simp) (htrail.not_mem (c := ',') (by decide))
  · rintro ⟨front, trail, rfl, htrail⟩
    exact ⟨s ++ ',' :: front, trail, by simp, htrail⟩

/-- A text with a comma in it is a call if it begins and ends as one. -/
theorem exists_calls_iff_of_comma :
    (∃ name inside, Calls (s ++ ',' :: t) name inside) ↔ Leads s ∧ Closes t := by
  constructor
  · rintro ⟨name, inside, h⟩
    exact ⟨leads_append_comma_iff.1 h.leads, closes_append_comma_iff.1 h.closes⟩
  · rintro ⟨⟨lead, name, gap, rest, rfl, hlead, hname, hgap⟩, front, trail, rfl, htrail⟩
    exact ⟨name, rest ++ ',' :: front, lead, gap, trail, by simp, hlead, hname, hgap, htrail⟩

theorem leads_trimChars_iff : Leads (trimChars s) ↔ Leads s := by
  constructor
  · rintro ⟨lead, name, gap, rest, hs, hlead, hname, hgap⟩
    obtain ⟨before, behind, heq, hbefore, -⟩ := exists_eq_stripWhile isBlank s
    refine ⟨before ++ lead, name, gap, rest ++ behind, ?_, ?_, hname, hgap⟩
    · rw [heq, show stripWhile isBlank s = _ from hs]
      simp
    · intro c hc
      rcases List.mem_append.1 hc with hc | hc
      · exact hbefore c hc
      · exact hlead c hc
  · rintro ⟨lead, name, gap, rest, rfl, hlead, hname, hgap⟩
    refine ⟨[], name, gap, dropEndWhile isBlank rest, ?_, by simp [Blank], hname, hgap⟩
    have hopen := stripWhile_append_cons (p := isBlank) (c := '(') (by decide)
      (lead ++ (name ++ gap)) rest
    rw [dropWhile_lead hlead hname] at hopen
    simpa [trimChars] using hopen

theorem closes_trimChars_iff : Closes (trimChars s) ↔ Closes s := by
  constructor
  · rintro ⟨front, trail, hs, htrail⟩
    obtain ⟨before, behind, heq, -, hbehind⟩ := exists_eq_stripWhile isBlank s
    refine ⟨before ++ front, trail ++ behind, ?_, ?_⟩
    · rw [heq, show stripWhile isBlank s = _ from hs]
      simp
    · intro c hc
      rcases List.mem_append.1 hc with hc | hc
      · exact htrail c hc
      · exact hbehind c hc
  · rintro ⟨front, trail, rfl, htrail⟩
    refine ⟨front.dropWhile isBlank, [], ?_, by simp [Blank]⟩
    rw [trimChars, stripWhile_append_cons (by decide), dropEndWhile_eq_nil htrail]

def joined (fields : List (List Char)) : List Char :=
  [','].intercalate fields

variable {f g : List Char} {fs : List (List Char)}

@[simp]
theorem joined_singleton (f : List Char) : joined [f] = f := by
  simp [joined, List.intercalate]

@[simp]
theorem joined_cons_cons (f g : List Char) (fs : List (List Char)) :
    joined (f :: g :: fs) = f ++ ',' :: joined (g :: fs) := by
  rw [joined, List.intercalate_cons_of_ne_nil (List.cons_ne_nil _ _), List.append_assoc]
  rfl

theorem closes_joined_trimmed_iff : Closes (joined (fs.map trimChars)) ↔ Closes (joined fs) := by
  induction fs with
  | nil => rfl
  | cons f fs ih =>
    cases fs with
    | nil => simpa using closes_trimChars_iff
    | cons g fs =>
      simp only [List.map_cons, joined_cons_cons, closes_append_comma_iff] at ih ⊢
      exact ih

/-- Whether fields make up a call does not depend on blanks at their ends. -/
theorem isSome_callForm?_joined_trimmed (fs : List (List Char)) :
    (callForm? (joined (fs.map trimChars))).isSome = (callForm? (joined fs)).isSome := by
  cases fs with
  | nil => rfl
  | cons f fs =>
    cases fs with
    | nil => simp only [List.map_cons, List.map_nil, joined_singleton, callForm?_trimChars]
    | cons g fs =>
      have hclose : Closes (joined ((g :: fs).map trimChars)) ↔ Closes (joined (g :: fs)) :=
        closes_joined_trimmed_iff
      rw [Bool.eq_iff_iff, isSome_callForm?_iff, isSome_callForm?_iff]
      simp only [List.map_cons, joined_cons_cons, exists_calls_iff_of_comma] at hclose ⊢
      rw [hclose, leads_trimChars_iff]

/-- Fields of which the first holds no opening parenthesis do not make up a call. -/
theorem callForm?_joined_eq_none (h : '(' ∉ f) (fs : List (List Char)) :
    callForm? (joined (f :: fs)) = none := by
  have hleads : ¬Leads f := by
    rintro ⟨lead, name, gap, rest, rfl, -⟩
    simp at h
  rw [← Option.not_isSome_iff_eq_none, isSome_callForm?_iff]
  rintro ⟨name, inside, hcalls⟩
  cases fs with
  | nil =>
    rw [joined_singleton] at hcalls
    exact hleads hcalls.leads
  | cons g fs =>
    rw [joined_cons_cons] at hcalls
    exact hleads (leads_append_comma_iff.1 hcalls.leads)

end VisualNovel.Directive
