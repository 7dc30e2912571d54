import VisualNovel.Proofs.Stage.Attributes
import VisualNovel.Proofs.Text.Blank
import VisualNovel.Proofs.Text.Field
import VisualNovel.Script.Argument

/-!
# The name of an attribute that was written

A directive writes its value under the keys of its path, and its attribute is found by a name, whose ends
are trimmed before it is cut into keys. A key that was read is trimmed and holds no dot, so the two agree
unless the path begins with a blank. The dots in front of a path are removed behind its blanks, which is
how such a path comes about.
-/
namespace VisualNovel

open VisualNovel.Text

namespace AttributeTree

theorem valueOf?_eq_textAt? (t : AttributeTree) (name : String) :
    t.valueOf? name = t.textAt? (fields '.' (trim name)) := by
  rw [valueOf?, find?]
  generalize fields '.' (trim name) = path
  rfl

theorem fields_attributeName (path : String) {key : String} (dotless : '.' ∉ key.toList) :
    fields '.' (attributeName path key) = segments path ++ [key] := by
  rw [attributeName, segments]
  split
  · rw [fields_of_not_mem dotless, List.nil_append]
  · rw [show "." = String.singleton '.' from rfl, fields_append_cons, fields_of_not_mem dotless]

end AttributeTree

/-- What a key is once it has been read. -/
structure IsKey (key : String) : Prop where
  nonempty : key.toList ≠ []
  dotless : '.' ∉ key.toList
  trimmed : trimChars key.toList = key.toList

/-- The first character of the path is a blank. -/
def beginsBlank (path : String) : Prop :=
  ∃ c, path.toList.head? = some c ∧ isBlank c = true

/-- The name of an attribute is trimmed unless its path begins with a blank. -/
theorem trim_attributeName_iff {path key : String} (hkey : IsKey key) :
    trim (attributeName path key) = attributeName path key ↔ ¬beginsBlank path := by
  obtain ⟨hhead, hlast⟩ := stripWhile_eq_self_iff.1 hkey.trimmed
  rw [trim_eq_self_iff, attributeName]
  split
  · rename_i hpath
    subst hpath
    exact iff_of_true hkey.trimmed (by simp [beginsBlank])
  · rename_i hpath
    have hfirst : (path ++ "." ++ key).toList.head? = path.toList.head? := by
      cases hchars : path.toList with
      | nil => exact absurd (String.toList_eq_nil_iff.1 hchars) hpath
      | cons c r => simp [hchars]
    have hend : (path ++ "." ++ key).toList.getLast? = key.toList.getLast? := by
      rw [String.toList_append, List.getLast?_append, Option.or_of_isSome]
      simp [hkey.nonempty]
    rw [trimChars, stripWhile_eq_self_iff, hfirst, hend, and_iff_left hlast]
    simp [beginsBlank]

namespace Directive

variable {s : List Char} {path key value : String}

/-- How an attribute is read: its name is what comes before the first comma, and is cut at its last
dot. -/
theorem readAttribute_cases (h : readAttribute s = .ok (.attribute path key value)) :
    ∃ first rest front back, s = first ++ rest ∧ '.' ∉ back ∧
      (front = [] ∨ trimChars first = front ++ '.' :: back) ∧
      path = String.ofList (stripWhile (· == '.') (trimChars front)) ∧
      key = String.ofList (trimChars back) ∧ trimChars back ≠ [] := by
  simp only [readAttribute] at h
  split at h
  · cases h
  · rename_i first rest hfields
    obtain ⟨others, hs⟩ : ∃ others, s = first ++ others := by
      rw [← intercalate_splitAll ',' s, hfields]
      cases rest <;> simp [List.intercalate]
    split at h
    · cases h
    · split at h
      · cases h
      · split at h
        · cases h
        · rename_i hkey
          cases h
          refine ⟨first, others, _, _, hs, ?_, ?_, rfl, rfl, hkey⟩
          · cases hsplit : splitLast '.' (trimChars first) with
            | none => exact splitLast_eq_none_iff.1 hsplit
            | some parts => exact (splitLast_eq_some_iff.1 hsplit).1
          · cases hsplit : splitLast '.' (trimChars first) with
            | none => exact Or.inl rfl
            | some parts => exact Or.inr (splitLast_eq_some_iff.1 hsplit).2

theorem isKey_of_readAttribute (h : readAttribute s = .ok (.attribute path key value)) :
    IsKey key := by
  obtain ⟨first, rest, front, back, -, hdot, -, -, rfl, hkey⟩ := readAttribute_cases h
  refine ⟨by rwa [String.toList_ofList], ?_, ?_⟩
  · rw [String.toList_ofList]
    exact fun hmem => hdot (mem_of_mem_stripWhile hmem)
  · rw [String.toList_ofList]
    exact stripWhile_stripWhile ..

theorem head?_of_beginsBlank (h : readAttribute s = .ok (.attribute path key value))
    (blank : beginsBlank path) : (s.dropWhile isBlank).head? = some '.' := by
  obtain ⟨first, rest, front, back, rfl, -, hname, rfl, -, -⟩ := readAttribute_cases h
  obtain ⟨b, hb, hblank⟩ := blank
  rw [String.toList_ofList] at hb
  cases front with
  | nil => cases hb
  | cons c front =>
    have hhead : (trimChars first).head? = some c := by simp [hname.resolve_left (by simp)]
    have hc : isBlank c = false := not_of_head?_stripWhile hhead
    by_cases hdot : c = '.'
    · subst hdot
      exact head?_dropWhile_append hhead rest
    · have htrim : (trimChars (c :: front)).head? = some c := head?_stripWhile rfl hc
      rw [head?_stripWhile htrim (by simpa using hdot)] at hb
      cases hb
      rw [hc] at hblank
      cases hblank

/-- What a directive has written is found by the name of its attribute, unless its path begins with a
blank. Then the name leads elsewhere, and what is there stays. A path begins with a blank only if a dot
stands in front of the name. -/
theorem valueOf?_attributeName_iff {t u : AttributeTree}
    (read : readAttribute s = .ok (.attribute path key value))
    (set : t.set path key value = .ok u) :
    (u.valueOf? (attributeName path key) = some value ↔
      ¬beginsBlank path ∨ t.valueOf? (attributeName path key) = some value) ∧
    (beginsBlank path → (s.dropWhile isBlank).head? = some '.') := by
  refine ⟨?_, head?_of_beginsBlank read⟩
  have hkey := isKey_of_readAttribute read
  have htarget := AttributeTree.fields_attributeName path hkey.dotless
  rw [AttributeTree.valueOf?_eq_textAt?, AttributeTree.valueOf?_eq_textAt?,
    AttributeTree.textAt?_set set, ← trim_attributeName_iff hkey]
  by_cases htrim : trim (attributeName path key) = attributeName path key
  · simp [htrim, htarget]
  · have hne : fields '.' (trim (attributeName path key)) ≠ AttributeTree.segments path ++ [key] := by
      rw [← htarget]
      exact fun heq => htrim (fields_inj heq)
    simp [htrim, hne]

/-- A path with dots and blanks in it is read and found again. -/
theorem valueOf?_attributeName_spaced :
    ∃ u, readAttribute " .sprite . alice . priority , 5 ".toList =
        .ok (.attribute "sprite . alice" "priority" "5") ∧
      AttributeTree.empty.set "sprite . alice" "priority" "5" = .ok u ∧
      u.valueOf? "sprite . alice.priority" = some "5" := by
  have hread : readAttribute " .sprite . alice . priority , 5 ".toList =
      .ok (.attribute "sprite . alice" "priority" "5") := rfl
  obtain ⟨u, hset⟩ : ∃ u, AttributeTree.empty.set "sprite . alice" "priority" "5" = .ok u := ⟨_, rfl⟩
  refine ⟨u, hread, hset, (valueOf?_attributeName_iff hread hset).1.2 (Or.inl ?_)⟩
  rintro ⟨c, hc, hblank⟩
  cases hc
  cases hblank

/-- The blank behind a dot in front of a path stays, and the value is not found. -/
theorem exists_valueOf?_attributeName_ne :
    ∃ path key value u, readAttribute ". a.b, v".toList = .ok (.attribute path key value) ∧
      AttributeTree.empty.set path key value = .ok u ∧
      u.valueOf? (attributeName path key) = none :=
  ⟨" a", "b", "v", _, rfl, rfl, rfl⟩

end Directive

end VisualNovel
