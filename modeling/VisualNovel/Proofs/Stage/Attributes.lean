import VisualNovel.Stage.Attributes

/-!
# Writing attributes

The texts of a tree, by the paths of keys that lead to them. A write that is not refused sets the
text at its own path and no other one, and it makes no text disappear.
-/
namespace VisualNovel

/-- The conflict as seen from one tree further up. -/
def AttributeConflict.below (segment : String) : AttributeConflict → AttributeConflict
  | .valueOnPath segments => .valueOnPath (segment :: segments)
  | .treeAtKey => .treeAtKey

namespace AttributeTree

/-- The tree that holds one text under a key below a path. -/
def single (key value : String) : List String → AttributeTree
  | [] => leaf key value empty
  | s :: path => node s (single key value path) empty

/-- Writes a text under a key below a path of keys. -/
def put (key value : String) : List String → AttributeTree → Except AttributeConflict AttributeTree
  | path, empty => .ok (single key value path)
  | [], leaf k v rest =>
    if k = key then .ok (leaf k value rest) else (put key value [] rest).map (leaf k v)
  | [], node k t rest =>
    if k = key then .error .treeAtKey else (put key value [] rest).map (node k t)
  | s :: path, leaf k v rest =>
    if k = s then .error (.valueOnPath [s]) else (put key value (s :: path) rest).map (leaf k v)
  | s :: path, node k t rest =>
    if k = s then
      match put key value path t with
      | .ok t => .ok (node k t rest)
      | .error c => .error (c.below s)
    else (put key value (s :: path) rest).map (node k t)

theorem get?_single (key value : String) (path : List String) (k : String) :
    (single key value path).get? k =
      match path with
      | [] => if key = k then some (.value value) else none
      | s :: rest => if s = k then some (.tree (single key value rest)) else none := by
  cases path <;> rfl

theorem exists_of_map_eq_ok {ε α β : Type} {f : α → β} {r : Except ε α} {b : β}
    (h : r.map f = .ok b) : ∃ a, r = .ok a ∧ b = f a := by
  cases r with
  | error e => cases h
  | ok a =>
    cases h
    exact ⟨a, rfl, rfl⟩

theorem put_empty (key value : String) (path : List String) :
    put key value path empty = .ok (single key value path) := by
  cases path <;> rfl

theorem put_leaf_of_ne {key value k v : String} {path : List String} {rest : AttributeTree}
    (ne : (path ++ [key]).head? ≠ some k) :
    put key value path (leaf k v rest) = (put key value path rest).map (leaf k v) := by
  cases path with
  | nil => rw [put, if_neg (by simpa using Ne.symm ne)]
  | cons s path => rw [put, if_neg (by simpa using Ne.symm ne)]

theorem put_node_of_ne {key value k : String} {path : List String} {c rest : AttributeTree}
    (ne : (path ++ [key]).head? ≠ some k) :
    put key value path (node k c rest) = (put key value path rest).map (node k c) := by
  cases path with
  | nil => rw [put, if_neg (by simpa using Ne.symm ne)]
  | cons s path => rw [put, if_neg (by simpa using Ne.symm ne)]

/-- A write touches no entry but the one that its path begins with. -/
theorem get?_put_of_ne {key value k : String} {path : List String} {t u : AttributeTree}
    (h : put key value path t = .ok u) (ne : (path ++ [key]).head? ≠ some k) :
    u.get? k = t.get? k := by
  induction t generalizing u with
  | empty =>
    rw [put_empty] at h
    cases h
    cases path <;> simp_all [single, get?]
  | leaf j v rest ih =>
    -- The entry that the path begins with is another one than that of `k`; the others are passed.
    by_cases hj : (path ++ [key]).head? = some j
    · have hjk : j ≠ k := by
        rintro rfl
        exact ne hj
      cases path with
      | nil =>
        cases hj
        rw [put, if_pos rfl] at h
        cases h
        rw [get?, if_neg hjk, get?, if_neg hjk]
      | cons s path =>
        cases hj
        rw [put, if_pos rfl] at h
        cases h
    · rw [put_leaf_of_ne hj] at h
      obtain ⟨w, hw, rfl⟩ := exists_of_map_eq_ok h
      rw [get?, get?, ih hw]
  | node j c rest _ ih =>
    by_cases hj : (path ++ [key]).head? = some j
    · have hjk : j ≠ k := by
        rintro rfl
        exact ne hj
      cases path with
      | nil =>
        cases hj
        rw [put, if_pos rfl] at h
        cases h
      | cons s path =>
        cases hj
        rw [put, if_pos rfl] at h
        cases hc : put key value path c with
        | error e =>
          rw [hc] at h
          cases h
        | ok d =>
          rw [hc] at h
          cases h
          rw [get?, if_neg hjk, get?, if_neg hjk]
    · rw [put_node_of_ne hj] at h
      obtain ⟨w, hw, rfl⟩ := exists_of_map_eq_ok h
      rw [get?, get?, ih hw]

/-- The text at the end of a path of keys. -/
def textAt? (t : AttributeTree) (path : List String) : Option String :=
  match t.follow? path with
  | some (.value s) => some s
  | _ => none

theorem textAt?_nil (t : AttributeTree) : t.textAt? [] = none :=
  rfl

theorem textAt?_singleton (t : AttributeTree) (key : String) :
    t.textAt? [key] =
      match t.get? key with
      | some (.value s) => some s
      | _ => none :=
  rfl

theorem textAt?_cons_cons (t : AttributeTree) (s k : String) (path : List String) :
    t.textAt? (s :: k :: path) =
      match t.get? s with
      | some (.tree c) => c.textAt? (k :: path)
      | _ => none := by
  cases hget : t.get? s with
  | none => simp [textAt?, follow?, hget]
  | some a =>
    cases a with
    | value v => simp [textAt?, follow?, hget]
    | tree c => simp [textAt?, follow?, hget]

theorem textAt?_cons_of_none {t : AttributeTree} {s : String} (h : t.get? s = none)
    (path : List String) : t.textAt? (s :: path) = none := by
  cases path with
  | nil => rw [textAt?_singleton, h]
  | cons k path => rw [textAt?_cons_cons, h]

theorem textAt?_cons_of_tree {t c : AttributeTree} {s : String} (h : t.get? s = some (.tree c))
    (path : List String) : t.textAt? (s :: path) = c.textAt? path := by
  cases path with
  | nil => rw [textAt?_singleton, h, textAt?_nil]
  | cons k path => rw [textAt?_cons_cons, h]

/-- The text of a tree under a first key depends on what the key stands for only. -/
theorem textAt?_congr {t u : AttributeTree} {s : String} (h : t.get? s = u.get? s)
    (path : List String) : t.textAt? (s :: path) = u.textAt? (s :: path) := by
  cases path with
  | nil => rw [textAt?_singleton, textAt?_singleton, h]
  | cons k path => rw [textAt?_cons_cons, textAt?_cons_cons, h]

/-- A write at the root sets the text of its key, which held no tree. -/
theorem get?_put_nil {key value : String} {t u : AttributeTree}
    (h : put key value [] t = .ok u) :
    u.get? key = some (.value value) ∧ ∀ c, t.get? key ≠ some (.tree c) := by
  induction t generalizing u with
  | empty =>
    rw [put_empty] at h
    cases h
    exact ⟨by simp [get?_single], fun c hc => by cases hc⟩
  | leaf k v rest ih =>
    rw [put] at h
    split at h
    · rename_i hk
      cases h
      simp [get?, hk]
    · rename_i hk
      obtain ⟨w, hrest, rfl⟩ := exists_of_map_eq_ok h
      simpa [get?, hk] using ih hrest
  | node k c rest _ ih =>
    rw [put] at h
    split at h
    · cases h
    · rename_i hk
      obtain ⟨w, hrest, rfl⟩ := exists_of_map_eq_ok h
      simpa [get?, hk] using ih hrest

/-- A write further down goes on in the tree of its first key, or in a new one. -/
theorem get?_put_cons {key value s : String} {path : List String} {t u : AttributeTree}
    (h : put key value (s :: path) t = .ok u) :
    ∃ c d, u.get? s = some (.tree d) ∧ put key value path c = .ok d ∧
      (t.get? s = some (.tree c) ∨ t.get? s = none ∧ c = empty) := by
  induction t generalizing u with
  | empty =>
    rw [put_empty] at h
    cases h
    exact ⟨empty, single key value path, by simp [get?_single], put_empty key value path,
      Or.inr ⟨rfl, rfl⟩⟩
  | leaf k v rest ih =>
    rw [put] at h
    split at h
    · cases h
    · rename_i hk
      obtain ⟨w, hrest, rfl⟩ := exists_of_map_eq_ok h
      simpa [get?, hk] using ih hrest
  | node k c rest _ ih =>
    rw [put] at h
    split at h
    · rename_i hk
      cases hc : put key value path c with
      | error e =>
        rw [hc] at h
        cases h
      | ok d =>
        rw [hc] at h
        cases h
        exact ⟨c, d, by simp [get?, hk], hc, Or.inl (by simp [get?, hk])⟩
    · rename_i hk
      obtain ⟨w, hrest, rfl⟩ := exists_of_map_eq_ok h
      simpa [get?, hk] using ih hrest

section

variable {t u c : AttributeTree} {key value s : String} {seen path : List String}
  {cause : AttributeConflict}

/-- A write at the root is refused where a tree stands under its key. -/
theorem put_nil_eq_error_iff :
    put key value [] t = .error cause ↔
      cause = .treeAtKey ∧ ∃ c, t.get? key = some (.tree c) := by
  induction t with
  | empty => simp [put, get?]
  | leaf k v rest ih =>
    by_cases hk : k = key
    · simp [put, get?, hk]
    · rw [put, if_neg hk, get?, if_neg hk, ← ih]
      cases put key value [] rest <;> simp [Except.map]
  | node k c rest _ ih =>
    by_cases hk : k = key
    · simp [put, get?, hk, eq_comm]
    · rw [put, if_neg hk, get?, if_neg hk, ← ih]
      cases put key value [] rest <;> simp [Except.map]

/-- A write further down is refused where its first key stands for a text, or by the tree that it
stands for. -/
theorem put_cons_eq_error_iff :
    put key value (s :: path) t = .error cause ↔
      (cause = .valueOnPath [s] ∧ ∃ v, t.get? s = some (.value v)) ∨
        ∃ c e, t.get? s = some (.tree c) ∧ put key value path c = .error e ∧ cause = e.below s := by
  induction t with
  | empty => simp [put, get?]
  | leaf k v rest ih =>
    by_cases hk : k = s
    · simp [put, get?, hk, eq_comm]
    · rw [put, if_neg hk, get?, if_neg hk, ← ih]
      cases put key value (s :: path) rest <;> simp [Except.map]
  | node k c rest _ ih =>
    by_cases hk : k = s
    · rw [put, if_pos hk, get?, if_pos hk]
      cases hput : put key value path c <;> simp [hput, eq_comm]
    · rw [put, if_neg hk, get?, if_neg hk, ← ih]
      cases put key value (s :: path) rest <;> simp [Except.map]

theorem foldr_below_valueOnPath (seen : List String) (s : String) :
    seen.foldr AttributeConflict.below (.valueOnPath [s]) = .valueOnPath (seen ++ [s]) := by
  induction seen with
  | nil => rfl
  | cons k seen ih =>
    rw [List.foldr_cons, ih]
    rfl

theorem foldr_below_treeAtKey (seen : List String) :
    seen.foldr AttributeConflict.below .treeAtKey = .treeAtKey := by
  induction seen with
  | nil => rfl
  | cons k seen ih =>
    rw [List.foldr_cons, ih]
    rfl

theorem refusal?_none (key : String) (seen path : List String) :
    refusal? key seen path none = none := by
  induction path generalizing seen with
  | nil => rfl
  | cons s path ih => exact ih (seen ++ [s])

/-- The dry run of a write finds what `put` is refused for. -/
theorem refusal?_eq_some_iff :
    refusal? key seen path (some t) = some cause ↔
      ∃ e, put key value path t = .error e ∧ cause = seen.foldr AttributeConflict.below e := by
  induction path generalizing seen t with
  | nil =>
    rw [refusal?, Option.bind_some]
    constructor
    · intro h
      split at h
      · rename_i c hget
        cases h
        exact ⟨_, put_nil_eq_error_iff.2 ⟨rfl, c, hget⟩, (foldr_below_treeAtKey seen).symm⟩
      · cases h
    · rintro ⟨e, he, rfl⟩
      obtain ⟨rfl, c, hget⟩ := put_nil_eq_error_iff.1 he
      rw [hget, foldr_below_treeAtKey]
  | cons s path ih =>
    rw [refusal?, Option.bind_some]
    simp only [put_cons_eq_error_iff]
    cases hget : t.get? s with
    | none => simp [refusal?_none]
    | some a =>
      cases a with
      | value v => simp [foldr_below_valueOnPath, eq_comm]
      | tree c =>
        simp only [ih, List.foldr_append, List.foldr_cons, List.foldr_nil]
        constructor
        · rintro ⟨e, he, rfl⟩
          exact ⟨e.below s, Or.inr ⟨c, e, rfl, he, rfl⟩, rfl⟩
        · rintro ⟨_, ⟨-, v, hv⟩ | ⟨c, e, hc, he, rfl⟩, rfl⟩
          · cases hv
          · cases hc
            exact ⟨e, he, rfl⟩

theorem written?_empty (key value : String) (path : List String) :
    written? key value path empty = some (single key value path) := by
  induction path with
  | nil => rfl
  | cons s path ih =>
    rw [written?, get?]
    simp only [ih, Option.map_some]
    rfl

theorem put_nil_eq_assign (h : ∀ c, t.get? key ≠ some (.tree c)) :
    put key value [] t = .ok (t.assign key (.value value)) := by
  induction t with
  | empty => rfl
  | leaf k v rest ih =>
    by_cases hk : k = key
    · simp [put, assign, entry, hk]
    · rw [get?, if_neg hk] at h
      rw [put, if_neg hk, ih h, assign, if_neg hk]
      rfl
  | node k c rest _ ih =>
    by_cases hk : k = key
    · exact absurd (by simp [get?, hk]) (h c)
    · rw [get?, if_neg hk] at h
      rw [put, if_neg hk, ih h, assign, if_neg hk]
      rfl

theorem put_cons_eq_assign_of_none (h : t.get? s = none) :
    put key value (s :: path) t = .ok (t.assign s (.tree (single key value path))) := by
  induction t with
  | empty => rfl
  | leaf k v rest ih | node k v rest _ ih =>
    rw [get?] at h
    split at h
    · cases h
    · rename_i hk
      rw [put, if_neg hk, ih h, assign, if_neg hk]
      rfl

theorem put_cons_eq_assign_of_tree (h : t.get? s = some (.tree c)) {d : AttributeTree}
    (hput : put key value path c = .ok d) :
    put key value (s :: path) t = .ok (t.assign s (.tree d)) := by
  induction t with
  | empty => cases h
  | leaf k v rest ih =>
    rw [get?] at h
    split at h
    · cases h
    · rename_i hk
      rw [put, if_neg hk, ih h, assign, if_neg hk]
      rfl
  | node k b rest _ ih =>
    rw [get?] at h
    split at h
    · rename_i hk
      cases h
      simp [put, assign, entry, hk, hput]
    · rename_i hk
      rw [put, if_neg hk, ih h, assign, if_neg hk]
      rfl

/-- The creating walk makes the tree that `put` makes. -/
theorem written?_of_put (h : put key value path t = .ok u) : written? key value path t = some u := by
  induction path generalizing t u with
  | nil =>
    rw [put_nil_eq_assign (get?_put_nil h).2] at h
    cases h
    rfl
  | cons s path ih =>
    obtain ⟨c, d, -, hput, hget | ⟨hget, rfl⟩⟩ := get?_put_cons h
    · rw [put_cons_eq_assign_of_tree hget hput] at h
      cases h
      rw [written?, hget]
      simp only [ih hput, Option.map_some]
    · rw [put_cons_eq_assign_of_none hget] at h
      cases h
      rw [written?, hget]
      simp only [written?_empty, Option.map_some]

end

/-- The dry run and the creating walk together are one recursion that stops at what is in the way. -/
theorem set_eq_put (t : AttributeTree) (path key value : String) :
    t.set path key value = put key value (segments path) t := by
  rw [set]
  cases hput : put key value (segments path) t with
  | error e =>
    have hrefused : refusal? key [] (segments path) (some t) = some e :=
      refusal?_eq_some_iff.2 ⟨e, hput, rfl⟩
    split
    · rename_i cause h
      rw [hrefused] at h
      cases h
      rfl
    · rename_i h
      rw [hrefused] at h
      cases h
  | ok u =>
    split
    · rename_i cause h
      obtain ⟨e, he, -⟩ : ∃ e, put key value (segments path) t = .error e ∧ cause = e :=
        refusal?_eq_some_iff.1 h
      rw [hput] at he
      cases he
    · simp only [written?_of_put hput, Option.get_some]

theorem textAt?_empty (path : List String) : empty.textAt? path = none := by
  cases path with
  | nil => rfl
  | cons s path => exact textAt?_cons_of_none rfl path

theorem valueOf?_empty (name : String) : empty.valueOf? name = none := by
  rw [valueOf?, find?]
  split
  · rename_i value hvalue
    have h := textAt?_empty (Text.fields '.' (Text.trim name))
    rw [textAt?, hvalue] at h
    cases h
  · rfl

theorem textAt?_put {key value : String} {path : List String} {t u : AttributeTree}
    (h : put key value path t = .ok u) (other : List String) :
    u.textAt? other = if other = path ++ [key] then some value else t.textAt? other := by
  induction path generalizing t u other with
  | nil =>
    obtain ⟨hnew, hold⟩ := get?_put_nil h
    cases other with
    | nil => rfl
    | cons s rest =>
      by_cases hs : s = key
      · subst hs
        cases rest with
        | nil => rw [textAt?_singleton, hnew, List.nil_append, if_pos rfl]
        | cons k rest =>
          rw [textAt?_cons_cons, textAt?_cons_cons, hnew, if_neg (by simp)]
          cases hget : t.get? s with
          | none => rfl
          | some a =>
            cases a with
            | value v => rfl
            | tree c => exact absurd hget (hold c)
      · rw [if_neg (by simp [hs])]
        exact textAt?_congr (get?_put_of_ne h (by simpa using Ne.symm hs)) rest
  | cons s path ih =>
    obtain ⟨c, d, hnew, hput, hold⟩ := get?_put_cons h
    cases other with
    | nil => rfl
    | cons k rest =>
      by_cases hk : k = s
      · subst hk
        rw [textAt?_cons_of_tree hnew, ih hput rest, List.cons_append]
        simp only [List.cons.injEq, true_and]
        split
        · rfl
        · rcases hold with hold | ⟨hold, rfl⟩
          · rw [textAt?_cons_of_tree hold]
          · rw [textAt?_cons_of_none hold, textAt?_empty]
      · rw [if_neg (by simp [hk])]
        exact textAt?_congr (get?_put_of_ne h (by simpa using Ne.symm hk)) rest

theorem textAt?_set {t u : AttributeTree} {path key value : String}
    (h : t.set path key value = .ok u) (other : List String) :
    u.textAt? other =
      if other = segments path ++ [key] then some value else t.textAt? other :=
  textAt?_put (set_eq_put t path key value ▸ h) other

end AttributeTree

end VisualNovel
