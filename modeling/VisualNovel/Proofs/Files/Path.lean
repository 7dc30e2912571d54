import VisualNovel.Proofs.Files.Location
import VisualNovel.Proofs.Text.Field
import VisualNovel.Proofs.Text.Utf8

/-!
# The text of a path

A path that was read from a text has parts that name something. Its own text is walked part by part,
so a path with one more part leads to a place in the directory that the path leads to, and what lets
the longer path be followed lets the shorter one be followed too.
-/
namespace VisualNovel

open VisualNovel.Text

namespace Path

/-- A text that is one part of a path: no mark of the directory itself and nothing that is cut. -/
structure IsPart (s : String) : Prop where
  some : s.toList ≠ []
  dot : s.toList ≠ ['.']
  slash : '/' ∉ s.toList

/-- A part that can be the name of an entry: it does not mark the directory above either. -/
structure IsName (s : String) : Prop extends IsPart s where
  up : s.toList ≠ ['.', '.']

/-- A path as it is read from a text. -/
structure Proper (p : Path) : Prop where
  root : p.root = "" ∨ p.root = "/" ∨ p.root = "//"
  parts : ∀ s ∈ p.parts, IsPart s

theorem proper_ofText (s : String) : Proper (ofText s) where
  root := by
    simp only [ofText, rootOf]
    split
    · exact Or.inl rfl
    · exact Or.inr (Or.inr rfl)
    · exact Or.inr (Or.inl rfl)
  parts := by
    intro part h
    simp only [ofText, partsOf, List.mem_map, List.mem_filter, Bool.and_eq_true,
      decide_eq_true_eq] at h
    obtain ⟨f, ⟨hf, hsome, hdot⟩, rfl⟩ := h
    constructor
    · rwa [String.toList_ofList]
    · rwa [String.toList_ofList]
    · rw [String.toList_ofList]
      exact not_mem_of_mem_splitAll hf

theorem ofText_of_isPart {s : String} (h : IsPart s) : ofText s = ⟨"", [s]⟩ := by
  have hroot : rootOf s.toList = "" := by
    have htake : s.toList.takeWhile (· == '/') = [] := by
      cases hs : s.toList with
      | nil => rfl
      | cons c cs =>
        have hc : c ≠ '/' := by
          rintro rfl
          exact h.slash (by simp [hs])
        simp [hc]
    rw [rootOf, htake]
    rfl
  have hparts : partsOf s.toList = [s] := by
    rw [partsOf, splitAll_of_not_mem h.slash, List.filter_cons_of_pos (by simp [h.some, h.dot])]
    simp
  rw [ofText, hroot, hparts]

theorem child_of_isPart (p : Path) {s : String} (h : IsPart s) :
    p.child s = ⟨p.root, p.parts ++ [s]⟩ := by
  rw [child, ofText_of_isPart h]
  rfl

theorem Proper.child {p : Path} (hp : Proper p) {s : String} (h : IsPart s) :
    Proper (p.child s) := by
  rw [child_of_isPart p h]
  refine ⟨hp.root, fun part hpart => ?_⟩
  rcases List.mem_append.1 hpart with hpart | hpart
  · exact hp.parts part hpart
  · rw [List.mem_singleton.1 hpart]
    exact h

/-- The parts of a path as they are walked; without any part, the directory itself is marked. -/
def trail (p : Path) : List (List Char) :=
  if p.root = "" ∧ p.parts = [] then [['.']] else p.parts.map String.toList

theorem text_of_empty {p : Path} (h : p.root = "" ∧ p.parts = []) : p.text = "." := by
  simp [text, h.1, h.2]

theorem toList_text_of_ne {p : Path} (h : ¬(p.root = "" ∧ p.parts = [])) :
    p.text.toList = p.root.toList ++ ['/'].intercalate (p.parts.map String.toList) := by
  have htest : (decide (p.root = "") && p.parts.isEmpty) = false := by
    simpa [List.isEmpty_iff] using h
  rw [text, htest, if_neg Bool.false_ne_true, String.toList_append, String.toList_intercalate]
  rfl

theorem toList_text_absolute (parts : List String) :
    (Path.text ⟨"/", parts⟩).toList = '/' :: ['/'].intercalate (parts.map String.toList) := by
  have hslash : "/".toList = ['/'] := by decide
  rw [toList_text_of_ne (by simp), hslash, List.singleton_append]

theorem filter_splitAll_slash (s : List Char) :
    (splitAll '/' ('/' :: s)).filter (· ≠ []) = (splitAll '/' s).filter (· ≠ []) := by
  rw [splitAll_cons_sep]
  exact List.filter_cons_of_neg (by simp)

theorem filter_splitAll_intercalate {parts : List String} (h : ∀ s ∈ parts, IsPart s) :
    (splitAll '/' (['/'].intercalate (parts.map String.toList))).filter (· ≠ []) =
      parts.map String.toList := by
  by_cases hparts : parts = []
  · subst hparts
    rfl
  · rw [splitAll_intercalate _ (by simpa using hparts)]
    · refine List.filter_eq_self.2 fun f hf => ?_
      obtain ⟨s, hs, rfl⟩ := List.mem_map.1 hf
      simpa using (h s hs).some
    · intro f hf
      obtain ⟨s, hs, rfl⟩ := List.mem_map.1 hf
      exact (h s hs).slash

theorem steps_text {p : Path} (hp : Proper p) : FileTree.steps p.text = p.trail := by
  rw [trail]
  by_cases hempty : p.root = "" ∧ p.parts = []
  · rw [if_pos hempty, text_of_empty hempty]
    rfl
  rw [if_neg hempty, FileTree.steps, toList_text_of_ne hempty]
  rcases hp.root with hroot | hroot | hroot
  · rw [hroot]
    exact filter_splitAll_intercalate hp.parts
  · rw [hroot]
    exact (filter_splitAll_slash _).trans (filter_splitAll_intercalate hp.parts)
  · rw [hroot]
    exact (filter_splitAll_slash _).trans
      ((filter_splitAll_slash _).trans (filter_splitAll_intercalate hp.parts))

theorem text_ne_empty {p : Path} (hp : Proper p) : p.text ≠ "" := by
  intro htext
  by_cases hempty : p.root = "" ∧ p.parts = []
  · rw [text_of_empty hempty] at htext
    exact absurd htext (by decide)
  · have hnil : p.text.toList = [] := by rw [htext, String.toList_empty]
    rw [toList_text_of_ne hempty, List.append_eq_nil_iff] at hnil
    have hparts := filter_splitAll_intercalate hp.parts
    rw [hnil.2] at hparts
    exact hempty ⟨by simpa using hnil.1, List.map_eq_nil_iff.1 hparts.symm⟩

theorem head?_intercalate_parts {parts : List String} (h : ∀ s ∈ parts, IsPart s) :
    (['/'].intercalate (parts.map String.toList)).head? ≠ some '/' := by
  cases parts with
  | nil => simp [List.intercalate]
  | cons s rest =>
    have hs : IsPart s := h s List.mem_cons_self
    cases htext : s.toList with
    | nil => exact absurd htext hs.some
    | cons c cs =>
      have hc : c ≠ '/' := by
        rintro rfl
        exact hs.slash (by simp [htext])
      cases rest with
      | nil => simpa [htext] using hc
      | cons _ _ => simpa [htext, List.intercalate_cons_cons] using hc

theorem origin_text {p : Path} (hp : Proper p) (home : Location) :
    FileTree.origin home p.text = if p.root = "" then home else [] := by
  rw [FileTree.origin]
  by_cases hempty : p.root = "" ∧ p.parts = []
  · rw [text_of_empty hempty, if_pos hempty.1]
    rfl
  rw [toList_text_of_ne hempty]
  rcases hp.root with hroot | hroot | hroot
  · rw [hroot, if_pos rfl]
    exact if_neg (head?_intercalate_parts hp.parts)
  · rw [hroot]
    rfl
  · rw [hroot]
    rfl

theorem ofText_text {p : Path} (hp : Proper p) : ofText p.text = p := by
  have hroot : rootOf p.text.toList = p.root := by
    by_cases hempty : p.root = "" ∧ p.parts = []
    · rw [text_of_empty hempty, hempty.1]
      rfl
    have hparts : (['/'].intercalate (p.parts.map String.toList)).takeWhile (· == '/') = [] := by
      have hhead := head?_intercalate_parts hp.parts
      cases hlist : ['/'].intercalate (p.parts.map String.toList) with
      | nil => rfl
      | cons c cs =>
        rw [hlist] at hhead
        have hc : c ≠ '/' := by simpa using hhead
        simp [hc]
    rw [toList_text_of_ne hempty, rootOf]
    rcases hp.root with hroot | hroot | hroot
    · simp [hroot, hparts]
    · simp [hroot, hparts]
    · simp [hroot, hparts]
  have hparts : partsOf p.text.toList = p.parts := by
    have hsplit : (splitAll '/' p.text.toList).filter (fun s => s ≠ [] && s ≠ ['.']) =
        (FileTree.steps p.text).filter (· ≠ ['.']) := by
      rw [FileTree.steps, List.filter_filter]
      apply List.filter_congr
      intro s _
      rw [Bool.and_comm]
    rw [partsOf, hsplit, steps_text hp, trail]
    by_cases hempty : p.root = "" ∧ p.parts = []
    · rw [if_pos hempty, hempty.2]
      rfl
    · rw [if_neg hempty, List.filter_eq_self.2, List.map_map]
      · simp
      · intro s hs
        obtain ⟨part, hpart, rfl⟩ := List.mem_map.1 hs
        simpa using (hp.parts part hpart).dot
  rw [ofText, hroot, hparts]

theorem trail_child (p : Path) {s : String} (h : IsPart s) :
    (p.child s).trail = p.parts.map String.toList ++ [s.toList] := by
  rw [child_of_isPart p h, trail, if_neg (by simp), List.map_append]
  rfl

theorem intercalate_concat {α : Type} (sep : List α) {fs : List (List α)} (some : fs ≠ [])
    (f : List α) : sep.intercalate (fs ++ [f]) = sep.intercalate fs ++ (sep ++ f) := by
  induction fs with
  | nil => exact absurd rfl some
  | cons g gs ih =>
    by_cases hgs : gs = []
    · subst hgs
      simp [List.intercalate_cons_cons]
    · rw [List.cons_append, List.intercalate_cons_of_ne_nil (by simp),
        List.intercalate_cons_of_ne_nil hgs, ih hgs]
      simp only [List.append_assoc]

/-- The text of a path begins the text of every path below it, unless the path marks the directory
itself. -/
theorem toList_text_child {p : Path} (h : ¬(p.root = "" ∧ p.parts = [])) {s : String}
    (hs : IsPart s) : ∃ tail, (p.child s).text.toList = p.text.toList ++ tail ∧
      (tail = s.toList ∨ tail = '/' :: s.toList) := by
  rw [child_of_isPart p hs, toList_text_of_ne h, toList_text_of_ne (by simp)]
  by_cases hparts : p.parts = []
  · refine ⟨s.toList, ?_, Or.inl rfl⟩
    simp [hparts, List.intercalate]
  · refine ⟨['/'] ++ s.toList, ?_, Or.inr rfl⟩
    rw [List.map_append, List.map_singleton, intercalate_concat _ (by simpa using hparts),
      List.append_assoc]

theorem exists_toList_text_child (p : Path) {s : String} (hs : IsPart s) :
    ∃ front, (p.child s).text.toList = front ++ s.toList := by
  rw [child_of_isPart p hs, toList_text_of_ne (by simp), List.map_append, List.map_singleton]
  by_cases hparts : p.parts = []
  · exact ⟨p.root.toList, by simp [hparts, List.intercalate]⟩
  · rw [intercalate_concat _ (by simpa using hparts), ← List.append_assoc, ← List.append_assoc]
    exact ⟨_, rfl⟩

theorem endsInSlash_text_child (p : Path) {s : String} (hs : IsPart s) :
    FileTree.endsInSlash (p.child s).text = false := by
  obtain ⟨front, hfront⟩ := exists_toList_text_child p hs
  have hlast : (front ++ s.toList).getLast? = s.toList.getLast? := by
    rw [List.getLast?_append, List.getLast?_eq_some_getLast hs.some]
    rfl
  rw [FileTree.endsInSlash, hfront, hlast, decide_eq_false_iff_not]
  intro hslash
  exact hs.slash (List.mem_of_getLast? hslash)

theorem turn_of_isName {s : String} (hs : IsName s) (loc : Location) :
    FileTree.turn loc s.toList = loc ++ [s] := by
  rw [FileTree.turn, if_neg hs.dot, if_neg hs.up, String.ofList_toList]

/-- A path with one more part leads to the place of this name in the directory of the path. -/
theorem destination_child {p : Path} (hp : Proper p) {s : String} (hs : IsName s) (home : Location) :
    FileTree.destination home (p.child s).text = FileTree.destination home p.text ++ [s] := by
  have hpart : IsPart s := hs.toIsPart
  have hroot : (p.child s).root = p.root := by rw [child_of_isPart p hpart]
  rw [FileTree.destination, FileTree.destination, steps_text (hp.child hpart), steps_text hp,
    trail_child p hpart, origin_text (hp.child hpart), origin_text hp, hroot, List.foldl_append,
    List.foldl_cons, List.foldl_nil, turn_of_isName hs, trail]
  by_cases hempty : p.root = "" ∧ p.parts = []
  · rw [if_pos hempty, hempty.2]
    rfl
  · rw [if_neg hempty]

/-- Different names lead to different places, whatever the directories are. -/
theorem eq_of_destination_child {p q : Path} (hp : Proper p) (hq : Proper q) {s s' : String}
    (hs : IsName s) (hs' : IsName s') {home : Location}
    (h : FileTree.destination home (p.child s).text = FileTree.destination home (q.child s').text) :
    s = s' := by
  rw [destination_child hp hs, destination_child hq hs'] at h
  exact (List.append_singleton_inj.1 h).2

/-- What is found below a path stands in the directory that the path leads to. -/
theorem locate_of_locate_child {t : FileTree} {p : Path} (hp : Proper p) {s : String}
    (hs : IsName s) {l : Location} (h : t.locate (p.child s).text = .ok l) :
    ∃ m, t.locate p.text = .ok m ∧ t.get? m = some .directory ∧ l = m ++ [s] := by
  obtain ⟨hfault, -, hlong, hwalk⟩ := FileTree.locate_eq_ok_iff.1 h
  have hpart : IsPart s := hs.toIsPart
  rw [steps_text (hp.child hpart), trail_child p hpart, origin_text (hp.child hpart),
    FileTree.walk_append_eq_ok_iff] at hwalk
  obtain ⟨m, hm, hl⟩ := hwalk
  rw [FileTree.walk_singleton_eq_ok_iff, turn_of_isName hs] at hl
  obtain ⟨hdirectory, -, rfl⟩ := hl
  have hroot : (p.child s).root = p.root := by rw [child_of_isPart p hpart]
  rw [hroot] at hm
  refine ⟨m, FileTree.locate_eq_ok_iff.2 ?_, hdirectory, rfl⟩
  rw [steps_text hp, origin_text hp, trail]
  by_cases hempty : p.root = "" ∧ p.parts = []
  · rw [if_pos hempty, text_of_empty hempty]
    rw [hempty.2, if_pos hempty.1] at hm
    refine ⟨by decide, by decide, by decide, ?_⟩
    rw [if_pos hempty.1]
    have hhome : t.home = m := Except.ok.inj hm
    rw [FileTree.walk_singleton_eq_ok_iff]
    exact ⟨FileTree.get?_home t, by decide, hhome⟩
  · rw [if_neg hempty]
    obtain ⟨tail, htail, -⟩ := toList_text_child hempty hpart
    rw [htail] at hfault hlong
    refine ⟨?_, ?_, ?_, hm⟩
    · rw [FileTree.nameFault?_eq_none_iff] at hfault ⊢
      exact fun c hc => hfault c (List.mem_append_left _ hc)
    · exact text_ne_empty hp
    · rw [Text.Utf8.encode_append, List.length_append] at hlong
      omega

/-- A name in a directory is found, if neither it nor the text of its path is too long. -/
theorem locate_child {t : FileTree} {p : Path} (hp : Proper p) {s : String} (hs : IsName s)
    {m : Location} (hm : t.locate p.text = .ok m) (hdirectory : t.get? m = some .directory)
    (fault : FileTree.nameFault? s.toList = none)
    (short : (Utf8.encode s.toList).length ≤ FileTree.longestName)
    (room : (Utf8.encode (p.child s).text.toList).length ≤ FileTree.longestPath) :
    t.locate (p.child s).text = .ok (m ++ [s]) := by
  have hpart : IsPart s := hs.toIsPart
  have hroot : (p.child s).root = p.root := by rw [child_of_isPart p hpart]
  obtain ⟨hfault, -, -, hwalk⟩ := FileTree.locate_eq_ok_iff.1 hm
  rw [steps_text hp, origin_text hp, trail] at hwalk
  have hlast : t.walk m [s.toList] = .ok (m ++ [s]) :=
    FileTree.walk_singleton_eq_ok_iff.2 ⟨hdirectory, short, turn_of_isName hs m⟩
  refine FileTree.locate_eq_ok_iff.2 ⟨?_, text_ne_empty (hp.child hpart), room, ?_⟩
  · rw [FileTree.nameFault?_eq_none_iff] at hfault fault ⊢
    intro c hc
    by_cases hempty : p.root = "" ∧ p.parts = []
    · rw [child_of_isPart p hpart, hempty.1, hempty.2, toList_text_of_ne (by simp)] at hc
      exact fault c (by simpa [List.intercalate] using hc)
    · obtain ⟨tail, htail, htailChars⟩ := toList_text_child hempty hpart
      rw [htail, List.mem_append] at hc
      rcases hc with hc | hc
      · exact hfault c hc
      · rcases htailChars with rfl | rfl
        · exact fault c hc
        · rcases List.mem_cons.1 hc with rfl | hc
          · decide
          · exact fault c hc
  · rw [steps_text (hp.child hpart), trail_child p hpart, origin_text (hp.child hpart), hroot,
      FileTree.walk_append_eq_ok_iff]
    refine ⟨m, ?_, hlast⟩
    by_cases hempty : p.root = "" ∧ p.parts = []
    · rw [if_pos hempty, FileTree.walk_singleton_eq_ok_iff] at hwalk
      rw [hempty.2]
      exact congrArg Except.ok hwalk.2.2
    · rwa [if_neg hempty] at hwalk

/-- The walk down to the working directory succeeds, since all above it is there. -/
theorem walk_home {t : FileTree} {above below : Location} (h : above ++ below = t.home)
    (names : ∀ s ∈ below, IsName s ∧ (Utf8.encode s.toList).length ≤ FileTree.longestName) :
    t.walk above (below.map String.toList) = .ok t.home := by
  induction below generalizing above with
  | nil =>
    rw [List.append_nil] at h
    rw [h]
    rfl
  | cons s rest ih =>
    obtain ⟨hs, hrest⟩ := List.forall_mem_cons.1 names
    have habove : t.get? above = some .directory := by
      apply FileTree.get?_of_above
      rw [List.isPrefixOf_iff_prefix, ← h]
      exact List.prefix_append _ _
    apply FileTree.walk_cons_eq_ok_iff.2
    refine ⟨habove, hs.2, ?_⟩
    rw [turn_of_isName hs.1]
    apply ih _ hrest
    rw [List.append_assoc]
    exact h

/-- The working directory is found by its absolute path, if the path can be walked at all. -/
theorem locate_home {t : FileTree}
    (names : ∀ s ∈ t.home, IsName s ∧ (Utf8.encode s.toList).length ≤ FileTree.longestName)
    (fault : FileTree.nameFault? (Path.text ⟨"/", t.home⟩).toList = none)
    (room : (Utf8.encode (Path.text ⟨"/", t.home⟩).toList).length ≤ FileTree.longestPath) :
    t.locate (Path.text ⟨"/", t.home⟩) = .ok t.home := by
  have hproper : Proper ⟨"/", t.home⟩ :=
    ⟨Or.inr (Or.inl rfl), fun s hs => (names s hs).1.toIsPart⟩
  refine FileTree.locate_eq_ok_iff.2 ⟨fault, text_ne_empty hproper, room, ?_⟩
  rw [steps_text hproper, origin_text hproper, trail, if_neg (by simp), if_neg (by simp)]
  exact walk_home rfl names

/-- Every step down to a location below the working directory's own line has a proper name. -/
def Spelled (home l : Location) : Prop :=
  ∀ m s, m ++ [s] <+: l → m ++ [s] <+: home ∨ IsName s

theorem Spelled.turn {home l : Location} (h : Spelled home l) {part : List Char}
    (some : part ≠ []) (slash : '/' ∉ part) : Spelled home (FileTree.turn l part) := by
  intro m s hm
  rw [FileTree.turn] at hm
  split at hm
  · exact h m s hm
  rename_i hdot
  split at hm
  · exact h m s (hm.trans (List.dropLast_prefix l))
  rename_i hup
  rw [List.prefix_concat_iff] at hm
  rcases hm with hm | hm
  · rw [(List.append_singleton_inj.1 hm).2]
    refine Or.inr ⟨⟨?_, ?_, ?_⟩, ?_⟩
    all_goals rwa [String.toList_ofList]
  · exact h m s hm

theorem spelled_foldl {home l : Location} (h : Spelled home l) {parts : List (List Char)}
    (hparts : ∀ part ∈ parts, part ≠ [] ∧ '/' ∉ part) :
    Spelled home (parts.foldl FileTree.turn l) := by
  induction parts generalizing l with
  | nil => exact h
  | cons part rest ih =>
    obtain ⟨hsome, hslash⟩ := hparts part List.mem_cons_self
    exact ih (h.turn hsome hslash) fun q hq => hparts q (List.mem_cons_of_mem _ hq)

/-- A located place that is not above the working directory has a proper name. -/
theorem exists_isName_of_locate {t : FileTree} {path : String} {l : Location}
    (h : t.locate path = .ok l) (below : l.isPrefixOf t.home = false) :
    ∃ m s, l = m ++ [s] ∧ IsName s := by
  have hspelled : Spelled t.home l := by
    rw [FileTree.eq_destination_of_locate h]
    apply spelled_foldl
    · rw [FileTree.origin]
      split
      · intro m s hm
        exact absurd (List.prefix_nil.1 hm) (by simp)
      · exact fun m s hm => Or.inl hm
    · intro part hpart
      obtain ⟨hmem, hsome⟩ := List.mem_filter.1 hpart
      exact ⟨of_decide_eq_true hsome, not_mem_of_mem_splitAll hmem⟩
  by_cases hnil : l = []
  · subst hnil
    cases List.isPrefixOf_nil_left.symm.trans below
  · obtain ⟨m, s, rfl⟩ : ∃ m s, l = m ++ [s] :=
      ⟨_, _, (List.dropLast_concat_getLast hnil).symm⟩
    refine ⟨m, s, rfl, (hspelled m s List.prefix_rfl).resolve_left fun habove => ?_⟩
    rw [← Bool.not_eq_true, List.isPrefixOf_iff_prefix] at below
    exact below habove

end Path

end VisualNovel
