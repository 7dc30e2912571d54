import Mathlib.Data.List.Induction
import Mathlib.Data.List.Nodup
import VisualNovel.Proofs.Stage.Cast

/-!
# Casts under known priorities

Where every priority can be read, a new sprite is put behind the sprites that are higher and in front of
all others, and ordering the cast is a stable sort. The two agree: whatever has been done to a cast, as
long as new priorities come with a new order, sorting it changes nothing. While the priorities stay, the
sprites of one priority stand in the order of their arrivals, the last one first.
-/
namespace VisualNovel.Cast

variable {ε : Type} {p : String → Int} {c : Cast} {sprite : Sprite}

/-- A look-up of priorities that never fails. -/
def known (p : String → Int) : String → Except ε Int :=
  fun name => .ok (p name)

/-- No sprite is higher than one before it. -/
def Descending (p : String → Int) (c : Cast) : Prop :=
  c.Pairwise fun a b => p b.name ≤ p a.name

theorem orderedBy_known_iff : OrderedBy (known p : String → Except ε Int) c ↔ c.Descending p := by
  constructor
  · intro h
    exact h.descending.imp fun hab => hab _ _ rfl rfl
  · intro h
    refine ⟨fun s _ => ⟨p s.name, rfl⟩, h.imp fun hab i j hi hj => ?_⟩
    cases hi
    cases hj
    exact hab

theorem insert_known (p : String → Int) (i : Int) (sprite : Sprite) (c : Cast) :
    insert (known p : String → Except ε Int) i sprite c =
      .ok (c.takeWhile (fun s => i < p s.name) ++ sprite :: c.dropWhile (fun s => i < p s.name)) := by
  induction c with
  | nil => rfl
  | cons s rest ih =>
    by_cases h : p s.name ≤ i
    · simp [insert, known, bind, Except.bind, pure, Except.pure, h, Int.not_lt.2 h]
    · simp [insert, known, bind, Except.bind, pure, Except.pure, h, Int.not_le.1 h] at ih ⊢
      rw [ih]

theorem Descending.le_of_mem_dropWhile (h : c.Descending p) {i : Int} {s : Sprite}
    (hs : s ∈ c.dropWhile fun s => i < p s.name) : p s.name ≤ i := by
  induction c with
  | nil => cases hs
  | cons a rest ih =>
    obtain ⟨hfirst, hrest⟩ := List.pairwise_cons.1 h
    by_cases ha : i < p a.name
    · rw [List.dropWhile_cons_of_pos (by simpa using ha)] at hs
      exact ih hrest hs
    · rw [List.dropWhile_cons_of_neg (by simpa using ha)] at hs
      rcases List.mem_cons.1 hs with rfl | hs
      · omega
      · have := hfirst s hs
        omega

/-- A new sprite stands behind the higher ones and in front of all others, which keep their order. -/
theorem Descending.exists_present (h : c.Descending p) (new : sprite.name ∉ c.names) :
    ∃ front back, c = front ++ back ∧
      c.present (known p : String → Except ε Int) sprite = .ok (front ++ sprite :: back) ∧
      (∀ s ∈ front, p sprite.name < p s.name) ∧ ∀ s ∈ back, p s.name ≤ p sprite.name := by
  refine ⟨c.takeWhile fun s => p sprite.name < p s.name,
    c.dropWhile fun s => p sprite.name < p s.name, List.takeWhile_append_dropWhile.symm, ?_, ?_, ?_⟩
  · rw [present, if_neg (mt contains_iff.1 new)]
    exact insert_known p (p sprite.name) sprite c
  · intro s hs
    have hall := List.all_eq_true.1 (List.all_takeWhile (l := c)) s hs
    exact of_decide_eq_true hall
  · intro s hs
    exact h.le_of_mem_dropWhile hs

theorem exists_present_of_mem (unique : c.names.Nodup) (shown : sprite.name ∈ c.names)
    (priorityOf : String → Except ε Int) :
    ∃ front old back, c = front ++ old :: back ∧ old.name = sprite.name ∧
      c.present priorityOf sprite = .ok (front ++ sprite :: back) := by
  obtain ⟨old, hold, hname⟩ := List.mem_map.1 shown
  obtain ⟨front, back, rfl⟩ := List.append_of_mem hold
  have hne := name_ne_of_nodup unique
  rw [hname] at hne
  refine ⟨front, old, back, rfl, hname, ?_⟩
  have hkeep : ∀ l : Cast, (∀ s ∈ l, s.name ≠ sprite.name) →
      l.map (fun s => if s.name = sprite.name then sprite else s) = l := by
    intro l hl
    have hsame : ∀ s ∈ l, (if s.name = sprite.name then sprite else s) = s :=
      fun s hs => if_neg (hl s hs)
    rw [List.map_congr_left hsame, List.map_id']
  rw [present, if_pos (contains_iff.2 shown), List.map_append, List.map_cons, if_pos hname,
    hkeep front fun s hs => hne s (Or.inl hs), hkeep back fun s hs => hne s (Or.inr hs)]

theorem dismiss_eq_filter (unique : c.names.Nodup) (name : String) :
    c.dismiss name = c.filter fun s => s.name ≠ name := by
  induction c with
  | nil => rfl
  | cons s rest ih =>
    obtain ⟨hnew, hrest⟩ := List.nodup_cons.1 unique
    by_cases h : s.name = name
    · subst h
      have hothers : ∀ t ∈ rest, t.name ≠ s.name := fun t ht heq =>
        hnew (heq ▸ List.mem_map_of_mem ht)
      rw [dismiss, List.eraseP_cons_of_pos (by simp), List.filter_cons_of_neg (by simp)]
      exact (List.filter_eq_self.2 fun t ht => decide_eq_true (hothers t ht)).symm
    · have := ih hrest
      simp only [dismiss] at this ⊢
      simp [h, this]

theorem withPriorities_known (p : String → Int) (c : Cast) :
    withPriorities (known p : String → Except ε Int) c = .ok (c.map fun s => (p s.name, s)) := by
  induction c with
  | nil => rfl
  | cons s rest ih => simp [withPriorities_cons, known, ih, Except.map]

/-- The order that known priorities ask for. -/
def sorted (p : String → Int) (c : Cast) : Cast :=
  c.mergeSort fun a b => decide (p b.name ≤ p a.name)

theorem resort_known (p : String → Int) (c : Cast) :
    c.resort (known p : String → Except ε Int) = .ok (c.sorted p) := by
  have hmap : (c.map fun s => (p s.name, s)).mergeSort (fun a b => decide (b.1 ≤ a.1)) =
      (c.sorted p).map fun s => (p s.name, s) := by
    symm
    apply List.map_mergeSort
    intro a _ b _
    rfl
  simp [resort, withPriorities_known, hmap, bind, Except.bind, pure, Except.pure, Function.comp_def]

theorem sorted_perm (p : String → Int) (c : Cast) : (c.sorted p).Perm c :=
  List.mergeSort_perm ..

theorem descending_sorted (p : String → Int) (c : Cast) : (c.sorted p).Descending p := by
  have h := orderedBy_resort (resort_known (ε := Empty) p c)
  exact orderedBy_known_iff.1 h.1

theorem Descending.sorted_eq (h : c.Descending p) : c.sorted p = c :=
  List.mergeSort_of_pairwise (h.imp fun hab => decide_eq_true hab)

theorem filter_sorted (p : String → Int) (c : Cast) (i : Int) :
    (c.sorted p).filter (fun s => p s.name = i) = c.filter fun s => p s.name = i := by
  have hequal : Descending p (c.filter fun s => p s.name = i) := by
    refine List.pairwise_filter.2 (List.pairwise_of_forall fun a b ha hb => ?_)
    exact Int.le_of_eq ((of_decide_eq_true hb).trans (of_decide_eq_true ha).symm)
  have hsublist : (c.filter fun s => p s.name = i).Sublist (c.sorted p) := by
    apply List.sublist_mergeSort _ _ (hequal.imp fun hab => decide_eq_true hab) List.filter_sublist
    · intro a b d hab hbd
      simp only [decide_eq_true_eq] at *
      omega
    · intro a b
      simp only [Bool.or_eq_true, decide_eq_true_eq]
      omega
  have hfilter := hsublist.filter fun s => p s.name = i
  simp only [List.filter_filter, Bool.and_self] at hfilter
  have hlength := ((sorted_perm p c).filter fun s => p s.name = i).length_eq
  exact (hfilter.eq_of_length hlength.symm).symm

/-- What can be done to a cast. New priorities come with a new order. -/
inductive Command where
  | present (sprite : Sprite)
  | dismiss (name : String)
  | resort
  | clear
  | rank (p : String → Int)

/-- A cast and the priorities of the sprites, on stage or not. -/
structure Ranked where
  priority : String → Int
  cast : Cast

namespace Ranked

def present (r : Ranked) (sprite : Sprite) : Except ε Ranked :=
  (r.cast.present (known r.priority) sprite).map fun cast => { r with cast }

def resort (r : Ranked) : Except ε Ranked :=
  (r.cast.resort (known r.priority)).map fun cast => { r with cast }

def perform (r : Ranked) : Command → Except ε Ranked
  | .present sprite => r.present sprite
  | .dismiss name => .ok { r with cast := r.cast.dismiss name }
  | .resort => r.resort
  | .clear => .ok { r with cast := [] }
  | .rank p => resort { r with priority := p }

def run (r : Ranked) (commands : List Command) : Except ε Ranked :=
  commands.foldlM perform r

/-- Names are unique and the sprites are in the order of their priorities. -/
structure InOrder (r : Ranked) : Prop where
  unique : r.cast.names.Nodup
  descending : r.cast.Descending r.priority

variable {r t : Ranked} {command : Command}

theorem resort_eq (r : Ranked) :
    (r.resort : Except ε Ranked) = .ok { r with cast := r.cast.sorted r.priority } := by
  rw [resort, resort_known]
  rfl

theorem inOrder_sorted (unique : r.cast.names.Nodup) :
    InOrder { r with cast := r.cast.sorted r.priority } where
  unique := ((sorted_perm r.priority r.cast).map Sprite.name).nodup_iff.2 unique
  descending := descending_sorted r.priority r.cast

/-- Every command can be performed, and keeps the order. -/
theorem InOrder.perform (h : r.InOrder) (command : Command) :
    ∃ t, (r.perform command : Except ε Ranked) = .ok t ∧ t.InOrder := by
  cases command with
  | present sprite =>
    have hpresent : ∃ d, r.cast.present (known r.priority : String → Except ε Int) sprite = .ok d := by
      by_cases shown : sprite.name ∈ r.cast.names
      · obtain ⟨front, old, back, -, -, hd⟩ := exists_present_of_mem h.unique shown (known r.priority)
        exact ⟨_, hd⟩
      · obtain ⟨front, back, -, hd, -, -⟩ := h.descending.exists_present shown
        exact ⟨_, hd⟩
    obtain ⟨d, hd⟩ := hpresent
    have hordered := (orderedBy_known_iff.2 h.descending).present hd
    refine ⟨{ r with cast := d }, by rw [Ranked.perform, Ranked.present, hd]; rfl, ?_⟩
    exact ⟨nodup_names_present h.unique hd, orderedBy_known_iff.1 hordered⟩
  | dismiss name =>
    refine ⟨_, rfl, ?_, h.descending.sublist List.eraseP_sublist⟩
    rw [names_dismiss]
    exact h.unique.erase name
  | resort => exact ⟨_, resort_eq r, inOrder_sorted h.unique⟩
  | clear => exact ⟨_, rfl, List.nodup_nil, List.Pairwise.nil⟩
  | rank p => exact ⟨_, resort_eq { r with priority := p }, inOrder_sorted h.unique⟩

theorem run_concat (r : Ranked) (commands : List Command) (command : Command) :
    (r.run (commands ++ [command]) : Except ε Ranked) =
      r.run commands >>= fun t => t.perform command := by
  rw [run, List.foldlM_append]
  simp [run]

end Ranked

/-- The names on stage behind a command. A name that is new comes first; one that is there stays. -/
def arrive (order : List String) : Command → List String
  | .present sprite => if sprite.name ∈ order then order else sprite.name :: order
  | .dismiss name => order.erase name
  | .clear => []
  | .resort | .rank _ => order

/-- The names on stage behind some commands, the last one that was put there first. -/
def arrivals (commands : List Command) : List String :=
  commands.foldl arrive []

namespace Ranked

variable {r t : Ranked} {command : Command}

/-- The sprites of one priority stand in the given order. -/
def Follows (r : Ranked) (order : List String) : Prop :=
  ∀ i, (r.cast.names.filter fun n => r.priority n = i) = order.filter fun n => r.priority n = i

theorem Follows.mem_iff {order : List String} (h : r.Follows order) (name : String) :
    name ∈ r.cast.names ↔ name ∈ order := by
  have hmem : ∀ l : List String,
      name ∈ l ↔ name ∈ l.filter fun n => r.priority n = r.priority name := by simp
  rw [hmem r.cast.names, hmem order, h]

theorem filter_names_new {front back : Cast} (hfront : ∀ s ∈ front, p sprite.name < p s.name) (i : Int) :
    (names (front ++ sprite :: back)).filter (fun n => p n = i) =
      (sprite.name :: names (front ++ back)).filter fun n => p n = i := by
  by_cases h : p sprite.name = i
  · have hnone : (front.map Sprite.name).filter (fun n => p n = i) = [] := by
      rw [List.filter_eq_nil_iff]
      intro n hn
      obtain ⟨s, hs, rfl⟩ := List.mem_map.1 hn
      have hhigher := hfront s hs
      simp only [decide_eq_true_eq]
      omega
    simp [names, h, hnone]
  · simp [names, h]

/-- Unless it changes the priorities, a command moves no two sprites of one priority against each other,
and puts a new one in front of those of its own. -/
theorem Follows.perform {order : List String} (h : r.Follows order) (hr : r.InOrder)
    (ht : (r.perform command : Except ε Ranked) = .ok t) (fixed : ∀ p, command ≠ .rank p) :
    t.priority = r.priority ∧ t.Follows (arrive order command) := by
  cases command with
  | present sprite =>
    rw [Ranked.perform, Ranked.present] at ht
    by_cases shown : sprite.name ∈ r.cast.names
    · obtain ⟨front, old, back, hcast, hname, hpresent⟩ :=
        exists_present_of_mem (ε := ε) hr.unique shown (known r.priority)
      rw [hpresent] at ht
      cases ht
      refine ⟨rfl, fun i => ?_⟩
      have hnames : names (front ++ sprite :: back) = r.cast.names := by simp [names, hcast, hname]
      rw [arrive, if_pos ((h.mem_iff sprite.name).1 shown), hnames]
      exact h i
    · obtain ⟨front, back, hcast, hpresent, hfront, -⟩ :=
        hr.descending.exists_present (ε := ε) shown
      rw [hpresent] at ht
      cases ht
      refine ⟨rfl, fun i => ?_⟩
      rw [arrive, if_neg (mt (h.mem_iff sprite.name).2 shown), filter_names_new hfront, ← hcast,
        List.filter_cons, List.filter_cons, h]
  | dismiss name =>
    cases ht
    refine ⟨rfl, fun i => ?_⟩
    rw [arrive, names_dismiss, ← List.erase_filter, ← List.erase_filter, h]
  | resort =>
    rw [Ranked.perform, resort_eq, hr.descending.sorted_eq] at ht
    cases ht
    exact ⟨rfl, h⟩
  | clear =>
    cases ht
    exact ⟨rfl, fun i => rfl⟩
  | rank p => exact absurd rfl (fixed p)

theorem exists_run (p : String → Int) (commands : List Command) :
    ∃ r : Ranked, (run ⟨p, []⟩ commands : Except ε Ranked) = .ok r ∧ r.InOrder := by
  induction commands using List.reverseRecOn with
  | nil => exact ⟨⟨p, []⟩, rfl, List.nodup_nil, List.Pairwise.nil⟩
  | append_singleton commands command ih =>
    obtain ⟨r, hr, horder⟩ := ih
    obtain ⟨t, ht, htorder⟩ := horder.perform (ε := ε) command
    exact ⟨t, by rw [run_concat, hr]; exact ht, htorder⟩

theorem follows_arrivals {commands : List Command}
    (hr : (run ⟨p, []⟩ commands : Except ε Ranked) = .ok r) (fixed : ∀ q, .rank q ∉ commands) :
    r.priority = p ∧ r.Follows (arrivals commands) := by
  induction commands using List.reverseRecOn generalizing r with
  | nil =>
    cases hr
    exact ⟨rfl, fun i => rfl⟩
  | append_singleton commands command ih =>
    obtain ⟨s, hs, horder⟩ := exists_run (ε := ε) p commands
    rw [run_concat, hs] at hr
    obtain ⟨hpriority, hfollows⟩ := ih hs fun q hq => fixed q (List.mem_append_left _ hq)
    have hfixed : ∀ q, command ≠ .rank q := by
      rintro q rfl
      exact fixed q (by simp)
    obtain ⟨hkept, hnext⟩ := hfollows.perform horder hr hfixed
    refine ⟨hkept.trans hpriority, ?_⟩
    rw [arrivals, List.foldl_append]
    exact hnext

/-- The order of a cast along any run of commands. Every command succeeds. At any time the names are
unique and no sprite is higher than one before it. A new sprite is put behind all that are higher and in
front of all others, one that is shown again takes the place of its entry, and hiding a name removes its
entry alone. New priorities order the sprites anew and keep the order of those that are equal under them;
without new ones there is nothing to order. As long as the priorities have stayed what they were, the
sprites of one priority stand in the order of their arrivals, the last one first. -/
theorem run_in_order (p : String → Int) (commands : List Command) :
    ∃ r : Ranked, (run ⟨p, []⟩ commands : Except ε Ranked) = .ok r ∧
      r.cast.names.Nodup ∧
      (r.cast.Pairwise fun a b => r.priority b.name ≤ r.priority a.name) ∧
      (∀ sprite, sprite.name ∉ r.cast.names → ∃ front back, r.cast = front ++ back ∧
        (r.perform (.present sprite) : Except ε Ranked) =
          .ok { r with cast := front ++ sprite :: back } ∧
        (∀ s ∈ front, r.priority sprite.name < r.priority s.name) ∧
        ∀ s ∈ back, r.priority s.name ≤ r.priority sprite.name) ∧
      (∀ sprite, sprite.name ∈ r.cast.names → ∃ front old back, r.cast = front ++ old :: back ∧
        old.name = sprite.name ∧
        (r.perform (.present sprite) : Except ε Ranked) =
          .ok { r with cast := front ++ sprite :: back }) ∧
      (∀ name, (r.perform (.dismiss name) : Except ε Ranked) =
        .ok { r with cast := r.cast.filter fun s => s.name ≠ name }) ∧
      (∀ q, ∃ d, (r.perform (.rank q) : Except ε Ranked) = .ok ⟨q, d⟩ ∧ d.Perm r.cast ∧
        (d.Pairwise fun a b => q b.name ≤ q a.name) ∧
        ∀ i, (d.filter fun s => q s.name = i) = r.cast.filter fun s => q s.name = i) ∧
      (r.perform .resort : Except ε Ranked) = .ok r ∧
      ((∀ q, .rank q ∉ commands) → ∀ i,
        (r.cast.names.filter fun n => p n = i) = (arrivals commands).filter fun n => p n = i) := by
  obtain ⟨r, hr, horder⟩ := exists_run (ε := ε) p commands
  refine ⟨r, hr, horder.unique, horder.descending, fun sprite new => ?_, fun sprite shown => ?_,
    fun name => ?_, fun q => ?_, ?_, fun fixed => ?_⟩
  · obtain ⟨front, back, hcast, hpresent, hfront, hback⟩ :=
      horder.descending.exists_present (ε := ε) new
    exact ⟨front, back, hcast, by rw [perform, present, hpresent]; rfl, hfront, hback⟩
  · obtain ⟨front, old, back, hcast, hname, hpresent⟩ :=
      exists_present_of_mem (ε := ε) horder.unique shown (known r.priority)
    exact ⟨front, old, back, hcast, hname, by rw [perform, present, hpresent]; rfl⟩
  · rw [perform, dismiss_eq_filter horder.unique]
  · exact ⟨r.cast.sorted q, resort_eq { r with priority := q }, sorted_perm q r.cast,
      descending_sorted q r.cast, filter_sorted q r.cast⟩
  · rw [perform, resort_eq, horder.descending.sorted_eq]
  · obtain ⟨rfl, hfollows⟩ := follows_arrivals hr fixed
    exact hfollows

/-- Of two sprites of one priority the one that has come back stands first; the one that was only moved
stays behind it, and both stand behind a higher one. -/
theorem run_in_order_returned :
    ∃ r : Ranked,
      (run ⟨fun n => if n = "c" then 5 else 0, []⟩
        [.present ⟨"a", "a.png", 0, 0⟩, .present ⟨"b", "b.png", 0, 0⟩, .present ⟨"c", "c.png", 0, 0⟩,
          .present ⟨"a", "d.png", 2, 3⟩, .dismiss "b", .present ⟨"b", "b.png", 0, 0⟩] :
        Except Empty Ranked) = .ok r ∧
      r.cast = [⟨"c", "c.png", 0, 0⟩, ⟨"b", "b.png", 0, 0⟩, ⟨"a", "d.png", 2, 3⟩] ∧
      (r.cast.names.filter fun n => (if n = "c" then (5 : Int) else 0) = 0) = ["b", "a"] ∧
      (r.perform .resort : Except Empty Ranked) = .ok r ∧
      ∃ front back, r.cast = front ++ back ∧
        (r.perform (.present ⟨"d", "d.png", 0, 0⟩) : Except Empty Ranked) =
          .ok { r with cast := front ++ ⟨"d", "d.png", 0, 0⟩ :: back } := by
  obtain ⟨r, hr, -, -, hnew, -, -, -, hresort, harrivals⟩ :=
    run_in_order (ε := Empty) (fun n => if n = "c" then 5 else 0)
      [.present ⟨"a", "a.png", 0, 0⟩, .present ⟨"b", "b.png", 0, 0⟩, .present ⟨"c", "c.png", 0, 0⟩,
        .present ⟨"a", "d.png", 2, 3⟩, .dismiss "b", .present ⟨"b", "b.png", 0, 0⟩]
  have hcast : r.cast = [⟨"c", "c.png", 0, 0⟩, ⟨"b", "b.png", 0, 0⟩, ⟨"a", "d.png", 2, 3⟩] := by
    cases hr
    rfl
  obtain ⟨front, back, hfront, hpresent, -⟩ := hnew ⟨"d", "d.png", 0, 0⟩ (by rw [hcast]; decide)
  exact ⟨r, hr, hcast, harrivals (by simp) 0, hresort, front, back, hfront, hpresent⟩

end Ranked

end VisualNovel.Cast
