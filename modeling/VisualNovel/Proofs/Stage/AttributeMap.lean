import Mathlib.Data.List.Induction
import Mathlib.Data.List.Perm.Subperm
import VisualNovel.Proofs.Stage.Attributes
import VisualNovel.Proofs.Stage.Step

/-!
# Attributes as a map

A tree that writes have built is nothing but a map from paths of keys to texts. A write is refused
exactly if a text stands on its path or a tree at its end, and then it leaves nothing behind; otherwise
it sets the text at its own path. No tree below the root is empty, so that two trees are the same
exactly if they hold the same texts, in whatever order these were written.
-/
namespace VisualNovel

namespace AttributeTree

/-- A key is written once in a tree, and no tree below the root is empty. -/
def WellFormed : AttributeTree → Prop
  | empty => True
  | leaf k _ rest => k ∉ rest.keys ∧ rest.WellFormed
  | node k c rest => k ∉ rest.keys ∧ c ≠ empty ∧ c.WellFormed ∧ rest.WellFormed

/-- A text to be written under a key below a dotted path. -/
structure Write where
  path : String
  key : String
  value : String
deriving DecidableEq, Repr

/-- The path of keys that a write leads to. -/
def Write.target (w : Write) : List String :=
  segments w.path ++ [w.key]

/-- The tree after a write, which may have been refused. -/
def write (t : AttributeTree) (w : Write) : AttributeTree :=
  match t.set w.path w.key w.value with
  | .ok u => u
  | .error _ => t

/-- The tree that writes build, the refused ones among them. -/
def build (writes : List Write) : AttributeTree :=
  writes.foldl write empty

variable {t u c : AttributeTree} {key value k s v : String} {path p : List String}
  {cause : AttributeConflict}

theorem get?_eq_none_iff : t.get? k = none ↔ k ∉ t.keys := by
  induction t with
  | empty => simp [get?, keys]
  | leaf j v rest ih =>
    rw [get?, keys, List.mem_cons, not_or, ← ih, eq_comm (a := k)]
    split <;> simp_all
  | node j c rest _ ih =>
    rw [get?, keys, List.mem_cons, not_or, ← ih, eq_comm (a := k)]
    split <;> simp_all

theorem get?_leaf_of_ne {j : String} (h : j ≠ k) : (leaf k v t).get? j = t.get? j := by
  rw [get?, if_neg (Ne.symm h)]

theorem get?_node_of_ne {j : String} (h : j ≠ k) : (node k c t).get? j = t.get? j := by
  rw [get?, if_neg (Ne.symm h)]

/-- What is in the way of a write: a text on its path, or a tree where the text should go. -/
def Conflicts (t : AttributeTree) (path : List String) (key : String) : AttributeConflict → Prop
  | .valueOnPath p => p ≠ [] ∧ p <+: path ∧ ∃ v, t.textAt? p = some v
  | .treeAtKey => ∃ c, t.follow? (path ++ [key]) = some (.tree c)

theorem follow?_cons_of_tree (h : t.get? s = some (.tree c)) (path : List String) :
    t.follow? (s :: path) = c.follow? path := by
  cases path with
  | nil => exact h
  | cons k path => simp [follow?, h]

theorem follow?_cons_of_ne_tree (h : ∀ c, t.get? s ≠ some (.tree c)) (path : List String) :
    t.follow? (s :: path) ≠ some (.tree c) := by
  cases path with
  | nil => exact h c
  | cons k path =>
    rw [follow?]
    · cases hget : t.get? s with
      | none => simp
      | some a =>
        cases a with
        | value v => simp
        | tree d => exact absurd hget (h d)
    · simp

theorem textAt?_cons_of_value (h : t.get? s = some (.value v)) (path : List String) :
    t.textAt? (s :: path) = if path = [] then some v else none := by
  cases path with
  | nil => simp [textAt?_singleton, h]
  | cons k path => simp [textAt?_cons_cons, h]

theorem textAt?_eq_none_of_not_mem (h : k ∉ t.keys) (path : List String) :
    t.textAt? (k :: path) = none :=
  textAt?_cons_of_none (get?_eq_none_iff.2 h) path

/-- What is in the way further down is a text under the first key or is in the way in its tree. -/
theorem conflicts_cons_iff :
    t.Conflicts (s :: path) key cause ↔
      (cause = .valueOnPath [s] ∧ ∃ v, t.get? s = some (.value v)) ∨
        ∃ c e, t.get? s = some (.tree c) ∧ c.Conflicts path key e ∧ cause = e.below s := by
  have hfollow : ∀ c, t.follow? (s :: path ++ [key]) = some (.tree c) ↔
      ∃ d, t.get? s = some (.tree d) ∧ d.follow? (path ++ [key]) = some (.tree c) := by
    intro c
    constructor
    · intro h
      by_contra hnone
      push Not at hnone
      refine follow?_cons_of_ne_tree (fun d hd => hnone d hd ?_) _ h
      rwa [List.cons_append, follow?_cons_of_tree hd] at h
    · rintro ⟨d, hd, h⟩
      rwa [List.cons_append, follow?_cons_of_tree hd]
  cases cause with
  | treeAtKey =>
    simp only [Conflicts, hfollow]
    constructor
    · rintro ⟨c, d, hd, hc⟩
      exact Or.inr ⟨d, .treeAtKey, hd, ⟨c, hc⟩, rfl⟩
    · rintro (⟨hcause, -⟩ | ⟨d, e, hd, he, hcause⟩)
      · cases hcause
      · cases e with
        | valueOnPath p => cases hcause
        | treeAtKey =>
          obtain ⟨c, hc⟩ := he
          exact ⟨c, d, hd, hc⟩
  | valueOnPath p =>
    constructor
    · rintro ⟨hp, hprefix, v, hv⟩
      obtain ⟨q, rfl, hq⟩ : ∃ q, p = s :: q ∧ q <+: path := by
        rcases List.prefix_cons_iff.1 hprefix with rfl | h
        · exact absurd rfl hp
        · exact h
      cases hget : t.get? s with
      | none =>
        rw [textAt?_cons_of_none hget] at hv
        cases hv
      | some a =>
        cases a with
        | value v' =>
          rw [textAt?_cons_of_value hget] at hv
          split at hv
          · rename_i hq'
            exact Or.inl ⟨by rw [hq'], v', rfl⟩
          · cases hv
        | tree c =>
          rw [textAt?_cons_of_tree hget] at hv
          refine Or.inr ⟨c, .valueOnPath q, rfl, ⟨?_, hq, v, hv⟩, rfl⟩
          rintro rfl
          cases hv
    · rintro (⟨hcause, v, hv⟩ | ⟨c, e, hc, he, hcause⟩)
      · cases hcause
        refine ⟨List.cons_ne_nil _ _, List.prefix_cons_iff.2 (Or.inr ⟨[], rfl, List.nil_prefix⟩), v, ?_⟩
        rw [textAt?_cons_of_value hv, if_pos rfl]
      · cases e with
        | treeAtKey => cases hcause
        | valueOnPath q =>
          cases hcause
          obtain ⟨-, hq, v, hv⟩ := he
          refine ⟨List.cons_ne_nil _ _, List.prefix_cons_iff.2 (Or.inr ⟨q, rfl, hq⟩), v, ?_⟩
          rwa [textAt?_cons_of_tree hc]

/-- A write is refused exactly for what is in its way. -/
theorem put_eq_error_iff : put key value path t = .error cause ↔ t.Conflicts path key cause := by
  induction path generalizing t cause with
  | nil =>
    rw [put_nil_eq_error_iff]
    cases cause with
    | valueOnPath p => simp +contextual [Conflicts]
    | treeAtKey => simp [Conflicts, follow?]
  | cons s path ih => simp only [put_cons_eq_error_iff, conflicts_cons_iff, ih]

theorem set_eq_error_iff {name : String} :
    t.set name key value = .error cause ↔ t.Conflicts (segments name) key cause := by
  rw [set_eq_put, put_eq_error_iff]

theorem WellFormed.of_get?_tree (h : t.WellFormed) (hget : t.get? s = some (.tree c)) :
    c ≠ empty ∧ c.WellFormed := by
  induction t with
  | empty => cases hget
  | leaf k v rest ih =>
    rw [get?] at hget
    split at hget
    · cases hget
    · exact ih h.2 hget
  | node k d rest _ ih =>
    rw [get?] at hget
    split at hget
    · cases hget
      exact ⟨h.2.1, h.2.2.1⟩
    · exact ih h.2.2.2 hget

theorem WellFormed.nodup_keys (h : t.WellFormed) : t.keys.Nodup := by
  induction t with
  | empty => exact List.nodup_nil
  | leaf k v rest ih => exact List.nodup_cons.2 ⟨h.1, ih h.2⟩
  | node k c rest _ ih => exact List.nodup_cons.2 ⟨h.1, ih h.2.2.2⟩

theorem wellFormed_single (key value : String) (path : List String) :
    (single key value path).WellFormed ∧ single key value path ≠ empty := by
  induction path with
  | nil => simp [single, WellFormed, keys]
  | cons s path ih => simp [single, WellFormed, keys, ih]

/-- A write adds no key but the first one of its path. -/
theorem not_mem_keys_of_put (h : put key value path t = .ok u) (hk : k ∉ t.keys)
    (ne : (path ++ [key]).head? ≠ some k) : k ∉ u.keys := by
  rw [← get?_eq_none_iff] at hk ⊢
  rwa [get?_put_of_ne h ne]

theorem WellFormed.put (h : t.WellFormed) (hput : put key value path t = .ok u) :
    u.WellFormed ∧ u ≠ empty := by
  induction t generalizing path u with
  | empty =>
    rw [put_empty] at hput
    cases hput
    exact wellFormed_single key value path
  | leaf k v rest ih =>
    by_cases hk : (path ++ [key]).head? = some k
    · cases path with
      | nil =>
        cases hk
        rw [AttributeTree.put, if_pos rfl] at hput
        cases hput
        exact ⟨h, by simp⟩
      | cons s path =>
        cases hk
        rw [AttributeTree.put, if_pos rfl] at hput
        cases hput
    · rw [put_leaf_of_ne hk] at hput
      obtain ⟨w, hw, rfl⟩ := exists_of_map_eq_ok hput
      exact ⟨⟨not_mem_keys_of_put hw h.1 hk, (ih h.2 hw).1⟩, by simp⟩
  | node k c rest ihc ih =>
    by_cases hk : (path ++ [key]).head? = some k
    · cases path with
      | nil =>
        cases hk
        rw [AttributeTree.put, if_pos rfl] at hput
        cases hput
      | cons s path =>
        cases hk
        rw [AttributeTree.put, if_pos rfl] at hput
        cases hc : AttributeTree.put key value path c with
        | error e =>
          rw [hc] at hput
          cases hput
        | ok d =>
          rw [hc] at hput
          cases hput
          obtain ⟨hd, hne⟩ := ihc h.2.2.1 hc
          exact ⟨⟨h.1, hne, hd, h.2.2.2⟩, by simp⟩
    · rw [put_node_of_ne hk] at hput
      obtain ⟨w, hw, rfl⟩ := exists_of_map_eq_ok hput
      exact ⟨⟨not_mem_keys_of_put hw h.1 hk, h.2.1, h.2.2.1, (ih h.2.2.2 hw).1⟩, by simp⟩

theorem WellFormed.exists_textAt? (h : t.WellFormed) (hk : k ∈ t.keys) :
    ∃ path v, t.textAt? (k :: path) = some v := by
  induction t generalizing k with
  | empty => cases hk
  | leaf j v rest ih =>
    by_cases hj : j = k
    · exact ⟨[], v, by simp [textAt?_singleton, get?, hj]⟩
    · obtain ⟨path, v', hv⟩ := ih h.2 ((List.mem_cons.1 hk).resolve_left (Ne.symm hj))
      refine ⟨path, v', ?_⟩
      rwa [textAt?_congr (get?_leaf_of_ne (Ne.symm hj))]
  | node j c rest ihc ih =>
    by_cases hj : j = k
    · obtain ⟨i, hi⟩ : ∃ i, i ∈ c.keys := by
        cases c with
        | empty => exact absurd rfl h.2.1
        | leaf i | node i => exact ⟨i, List.mem_cons_self⟩
      obtain ⟨path, v', hv⟩ := ihc h.2.2.1 hi
      refine ⟨i :: path, v', ?_⟩
      rwa [textAt?_cons_of_tree (c := c) (by simp [get?, hj])]
    · obtain ⟨path, v', hv⟩ := ih h.2.2.2 ((List.mem_cons.1 hk).resolve_left (Ne.symm hj))
      refine ⟨path, v', ?_⟩
      rwa [textAt?_congr (get?_node_of_ne (Ne.symm hj))]

theorem WellFormed.exists_text (h : t.WellFormed) (hne : t ≠ empty) :
    ∃ path v, path ≠ [] ∧ t.textAt? path = some v := by
  obtain ⟨k, hk⟩ : ∃ k, k ∈ t.keys := by
    cases t with
    | empty => exact absurd rfl hne
    | leaf k | node k => exact ⟨k, List.mem_cons_self⟩
  obtain ⟨path, v, hv⟩ := h.exists_textAt? hk
  exact ⟨k :: path, v, List.cons_ne_nil _ _, hv⟩

theorem WellFormed.mem_keys_iff (h : t.WellFormed) :
    k ∈ t.keys ↔ ∃ path v, t.textAt? (k :: path) = some v := by
  refine ⟨h.exists_textAt?, ?_⟩
  rintro ⟨path, v, hv⟩
  by_contra hk
  rw [textAt?_eq_none_of_not_mem hk] at hv
  cases hv

/-- The first tree has the texts of the second one under every key of its own. -/
def AgreesWith (t u : AttributeTree) : Prop :=
  ∀ k ∈ t.keys, ∀ path, t.textAt? (k :: path) = u.textAt? (k :: path)

/-- Two trees of which the first is within the second exactly if it agrees with it are the same exactly
if they hold the same texts. -/
theorem same_iff_of_within_iff (ht : t.WellFormed) (hu : u.WellFormed)
    (h : t.within u = true ↔ t.AgreesWith u) :
    t.same u = true ↔ ∀ path, t.textAt? path = u.textAt? path := by
  rw [same, Bool.and_eq_true, h, beq_iff_eq]
  constructor
  · rintro ⟨hagrees, hlength⟩ path
    have hsubset : t.keys ⊆ u.keys := by
      intro k hk
      obtain ⟨path, v, hv⟩ := ht.exists_textAt? hk
      rw [hagrees k hk path] at hv
      exact hu.mem_keys_iff.2 ⟨path, v, hv⟩
    have hperm : t.keys.Perm u.keys :=
      (List.subperm_of_subset ht.nodup_keys hsubset).perm_of_length_le (Nat.le_of_eq hlength.symm)
    cases path with
    | nil => rfl
    | cons k path =>
      by_cases hk : k ∈ t.keys
      · exact hagrees k hk path
      · rw [textAt?_eq_none_of_not_mem hk, textAt?_eq_none_of_not_mem (mt hperm.mem_iff.2 hk)]
  · intro hsame
    refine ⟨fun k _ path => hsame (k :: path), List.Perm.length_eq ?_⟩
    rw [List.perm_ext_iff_of_nodup ht.nodup_keys hu.nodup_keys]
    intro k
    simp only [ht.mem_keys_iff, hu.mem_keys_iff, hsame]

theorem get?_eq_value_iff_textAt? : t.get? k = some (.value v) ↔ t.textAt? [k] = some v := by
  rw [textAt?_singleton]
  cases t.get? k with
  | none => simp
  | some a => cases a <;> simp

/-- Behind an entry the first tree agrees with the second if the rest of it does. -/
theorem agreesWith_rest_iff {rest : AttributeTree} (hk : k ∉ rest.keys)
    (hget : ∀ j, j ≠ k → t.get? j = rest.get? j) :
    (∀ j ∈ rest.keys, ∀ path, t.textAt? (j :: path) = u.textAt? (j :: path)) ↔
      rest.AgreesWith u := by
  refine forall₂_congr fun j hj => forall_congr' fun path => ?_
  rw [textAt?_congr (hget j (ne_of_mem_of_not_mem hj hk))]

theorem within_node_iff {rest : AttributeTree} :
    (node k c rest).within u = true ↔
      (∃ d, u.get? k = some (.tree d) ∧ c.same d = true) ∧ rest.within u = true := by
  rw [within, Bool.and_eq_true]
  cases u.get? k with
  | none => simp
  | some a => cases a <;> simp [same]

/-- A tree that is not empty is the same as one under a key exactly if it holds the same texts. -/
theorem exists_same_iff (hc : c.WellFormed) (hne : c ≠ empty) (hu : u.WellFormed)
    (h : ∀ {d : AttributeTree}, d.WellFormed → (c.within d = true ↔ c.AgreesWith d)) :
    (∃ d, u.get? k = some (.tree d) ∧ c.same d = true) ↔
      ∀ path, c.textAt? path = u.textAt? (k :: path) := by
  constructor
  · rintro ⟨d, hget, hsame⟩ path
    rw [textAt?_cons_of_tree hget]
    have hd := (hu.of_get?_tree hget).2
    exact (same_iff_of_within_iff hc hd (h hd)).1 hsame path
  · intro hsame
    obtain ⟨path, v, hpath, hv⟩ := hc.exists_text hne
    rw [hsame] at hv
    cases hget : u.get? k with
    | none =>
      rw [textAt?_cons_of_none hget] at hv
      cases hv
    | some a =>
      cases a with
      | value v' =>
        rw [textAt?_cons_of_value hget, if_neg hpath] at hv
        cases hv
      | tree d =>
        have hd := (hu.of_get?_tree hget).2
        refine ⟨d, rfl, (same_iff_of_within_iff hc hd (h hd)).2 fun path => ?_⟩
        rw [hsame, textAt?_cons_of_tree hget]

theorem within_iff (ht : t.WellFormed) (hu : u.WellFormed) :
    t.within u = true ↔ t.AgreesWith u := by
  induction t generalizing u with
  | empty => simp [within, AgreesWith, keys]
  | leaf k v rest ih =>
    have hself : (leaf k v rest).get? k = some (.value v) := by simp [get?]
    have hrest := agreesWith_rest_iff (u := u) ht.1 fun j hj => get?_leaf_of_ne (v := v) hj
    have hentry : u.get? k = some (.value v) ↔
        ∀ path, (leaf k v rest).textAt? (k :: path) = u.textAt? (k :: path) := by
      constructor
      · intro hget path
        exact textAt?_congr (hself.trans hget.symm) path
      · intro hagrees
        rw [get?_eq_value_iff_textAt?, ← hagrees [], ← get?_eq_value_iff_textAt?, hself]
    rw [within, Bool.and_eq_true, beq_iff_eq, ih ht.2 hu, hentry, ← hrest]
    simp only [AgreesWith, keys, List.forall_mem_cons]
  | node k c rest ihc ih =>
    have hself : (node k c rest).get? k = some (.tree c) := by simp [get?]
    have hrest := agreesWith_rest_iff (u := u) ht.1 fun j hj => get?_node_of_ne (c := c) hj
    have hentry := exists_same_iff (k := k) ht.2.2.1 ht.2.1 hu fun hd => ihc ht.2.2.1 hd
    rw [within_node_iff, ih ht.2.2.2 hu, hentry, ← hrest]
    simp only [AgreesWith, keys, List.forall_mem_cons, textAt?_cons_of_tree hself]

theorem same_iff_textAt? (ht : t.WellFormed) (hu : u.WellFormed) :
    t.same u = true ↔ ∀ path, t.textAt? path = u.textAt? path :=
  same_iff_of_within_iff ht hu (within_iff ht hu)

theorem WellFormed.exists_text_below (h : t.WellFormed) (hp : p ≠ [])
    (hfollow : t.follow? p = some (.tree c)) : ∃ q v, t.textAt? (p ++ q) = some v := by
  induction p generalizing t with
  | nil => exact absurd rfl hp
  | cons s p ih =>
    by_cases htree : ∃ d, t.get? s = some (.tree d)
    · obtain ⟨d, hd⟩ := htree
      obtain ⟨hne, hwell⟩ := h.of_get?_tree hd
      rw [follow?_cons_of_tree hd] at hfollow
      simp only [List.cons_append, textAt?_cons_of_tree hd]
      by_cases hnil : p = []
      · obtain ⟨q, v, -, hv⟩ := hwell.exists_text hne
        exact ⟨q, v, by rwa [hnil]⟩
      · exact ih hwell hnil hfollow
    · push Not at htree
      exact absurd hfollow (follow?_cons_of_ne_tree htree p)

theorem write_of_error {w : Write} (h : t.set w.path w.key w.value = .error cause) :
    t.write w = t := by
  rw [write, h]

theorem write_of_ok {w : Write} (h : t.set w.path w.key w.value = .ok u) : t.write w = u := by
  rw [write, h]

theorem build_concat (writes : List Write) (w : Write) :
    build (writes ++ [w]) = (build writes).write w := by
  rw [build, List.foldl_append]
  rfl

theorem WellFormed.set {name : String} (h : t.WellFormed) (hset : t.set name key value = .ok u) :
    u.WellFormed := by
  rw [set_eq_put] at hset
  exact (h.put hset).1

theorem WellFormed.write (h : t.WellFormed) (w : Write) : (t.write w).WellFormed := by
  cases hset : t.set w.path w.key w.value with
  | error cause => rwa [write_of_error hset]
  | ok u =>
    rw [write_of_ok hset]
    exact h.set hset

theorem wellFormed_build (writes : List Write) : (build writes).WellFormed := by
  induction writes using List.reverseRecOn with
  | nil => trivial
  | append_singleton writes w ih =>
    rw [build_concat]
    exact ih.write w

end AttributeTree

namespace Stage

/-- The write of an attribute that the tree refuses fails and leaves everything as it was. -/
theorem run_writeAttribute_of_conflict {path key value : String} {cause : AttributeConflict} {p : Play}
    (accepted : isPriority path key = true → (Number.readInt? value).isSome = true)
    (set : p.stage.attributes.set path key value = .error cause) :
    (writeAttribute path key value).run p = .error (.attribute (.conflict path key cause)) p := by
  have hrefused : ¬(isPriority path key = true ∧ (Number.readInt? value).isNone = true) := by
    rintro ⟨hpriority, hnone⟩
    rw [Option.isNone_iff_eq_none] at hnone
    rw [hnone] at accepted
    cases accepted hpriority
  rw [writeAttribute]
  simp only [hrefused, if_false, EStateM.run_bind, Play.run_stage?, set]
  rfl

end Stage

namespace AttributeTree

/-- Whatever was written, the tree is a map from paths of keys to texts. A write is refused exactly if a
text stands on its path or a tree at its end; then neither the tree nor anything else on a stage that
has it changes. Otherwise the text at the end of its path is set and every other one is as before. Every
tree below the root has a text in it, and two trees are the same exactly if they are the same map. -/
theorem build_is_map (writes : List Write) (w : Write) :
    ((∃ cause, (build writes).set w.path w.key w.value = .error cause) ↔
      (∃ p, p ≠ [] ∧ p <+: segments w.path ∧ ∃ v, (build writes).textAt? p = some v) ∨
        ∃ c, (build writes).follow? w.target = some (.tree c)) ∧
    (∀ cause, (build writes).set w.path w.key w.value = .error cause →
      build (writes ++ [w]) = build writes ∧
        ∀ p : Play, p.stage.attributes = build writes →
          (Stage.isPriority w.path w.key = true → (Number.readInt? w.value).isSome = true) →
            (Stage.writeAttribute w.path w.key w.value).run p =
              .error (.attribute (.conflict w.path w.key cause)) p) ∧
    (∀ u, (build writes).set w.path w.key w.value = .ok u →
      build (writes ++ [w]) = u ∧
        ∀ p, u.textAt? p = if p = w.target then some w.value else (build writes).textAt? p) ∧
    (∀ p c, p ≠ [] → (build writes).follow? p = some (.tree c) →
      ∃ q v, (build writes).textAt? (p ++ q) = some v) ∧
    ∀ others, (build writes).same (build others) = true ↔
      ∀ p, (build writes).textAt? p = (build others).textAt? p := by
  have hwell := wellFormed_build writes
  refine ⟨⟨?_, ?_⟩, ?_, ?_, fun p c hp hfollow => hwell.exists_text_below hp hfollow,
    fun others => same_iff_textAt? hwell (wellFormed_build others)⟩
  · rintro ⟨cause, hcause⟩
    have hconflicts := set_eq_error_iff.1 hcause
    cases cause with
    | valueOnPath p => exact Or.inl ⟨p, hconflicts⟩
    | treeAtKey => exact Or.inr hconflicts
  · rintro (⟨p, hp⟩ | hc)
    · exact ⟨.valueOnPath p, set_eq_error_iff.2 hp⟩
    · exact ⟨.treeAtKey, set_eq_error_iff.2 hc⟩
  · intro cause hcause
    refine ⟨by rw [build_concat, write_of_error hcause], fun p hp accepted => ?_⟩
    exact Stage.run_writeAttribute_of_conflict accepted (hp ▸ hcause)
  · intro u hu
    exact ⟨by rw [build_concat, write_of_ok hu], fun p => textAt?_set hu p⟩

/-- Below a dotted path: a write across a text changes nothing, one beside it adds its text, and the
order of two writes is that of the keys but makes no difference to the map. -/
theorem build_is_map_dotted :
    ∃ writes : List Write, writes = [⟨"a.b", "c", "1"⟩, ⟨"a", "x", "2"⟩] ∧
      (build writes).set "a.b.c" "d" "3" = .error (.valueOnPath ["a", "b", "c"]) ∧
      build (writes ++ [⟨"a.b.c", "d", "3"⟩]) = build writes ∧
      (∃ u, (build writes).set "a.b" "d" "3" = .ok u ∧ u.textAt? ["a", "b", "d"] = some "3" ∧
        u.textAt? ["a", "b", "c"] = some "1") ∧
      build writes ≠ build writes.reverse ∧
      ∀ p, (build writes).textAt? p = (build writes.reverse).textAt? p := by
  refine ⟨_, rfl, ?_⟩
  have hrefused : (build [⟨"a.b", "c", "1"⟩, ⟨"a", "x", "2"⟩]).set "a.b.c" "d" "3" =
      .error (.valueOnPath ["a", "b", "c"]) := by
    decide +kernel
  obtain ⟨u, hset⟩ : ∃ u,
      (build [⟨"a.b", "c", "1"⟩, ⟨"a", "x", "2"⟩]).set "a.b" "d" "3" = .ok u := ⟨_, rfl⟩
  obtain ⟨-, hkeeps, -⟩ := build_is_map [⟨"a.b", "c", "1"⟩, ⟨"a", "x", "2"⟩] ⟨"a.b.c", "d", "3"⟩
  obtain ⟨-, -, hsets, -, hsame⟩ :=
    build_is_map [⟨"a.b", "c", "1"⟩, ⟨"a", "x", "2"⟩] ⟨"a.b", "d", "3"⟩
  have htext := (hsets u hset).2
  refine ⟨hrefused, (hkeeps _ hrefused).1, ⟨u, hset, ?_, ?_⟩, by decide +kernel, ?_⟩
  · rw [htext]
    decide +kernel
  · rw [htext]
    decide +kernel
  · exact (hsame _).1 (by decide +kernel)

end AttributeTree

end VisualNovel
