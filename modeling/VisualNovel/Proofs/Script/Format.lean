import Mathlib.Data.List.Forall2
import VisualNovel.Proofs.Text.Field
import VisualNovel.Script.Parse

/-!
# The format of a script

What the lines of a script mean, each by what it begins with. A script can be read if its headers are
closed, its directives can be read and no text stands in front of the first header. Its events are
those of the header lines and of the directive lines, in order; the block of a header holds all text
up to the next header, whatever stands between. Otherwise the first line that offends decides the
error.
-/
namespace VisualNovel

open VisualNovel.Text

def Place.down (p : Place) (count : Nat) : Place :=
  { p with line := p.line + count }

def ScriptError.place? : ScriptError → Option Place
  | malformed place _ _ => some place
  | unknownDirective _ place => some place
  | argument _ place => place
  | notFound _ => none
  | unreadable _ _ => none

def ParseFailure.place? : ParseFailure → Option Place
  | script e => e.place?
  | digits _ => none

def Event.lines : Event → List String
  | dialogue _ lines => lines
  | directive _ => []

namespace Script

/-- The lines of a source are what LF separates when every CR is left out. -/
theorem sourceLines_eq_iff {source : List Char} {lines : List (List Char)} :
    sourceLines source = lines ↔
      lines ≠ [] ∧ (∀ line ∈ lines, '\n' ∉ line) ∧
        ['\n'].intercalate lines = source.filter (· ≠ '\r') := by
  rw [← splitAll_eq_iff, splitAll_filter (by decide), sourceLines, linesLF]

inductive LineKind where
  | ignored
  | header
  | directive
  | text
deriving DecidableEq, Repr

/-- What a line is, by its first character, unless it is blank. -/
def kindOf (line : List Char) : LineKind :=
  if line.all isBlank || line.head? = some '#' then .ignored
  else if line.head? = some '[' then .header
  else if line.head? = some '@' then .directive
  else .text

/-- The lines of text among some lines. -/
def texts (lines : List (List Char)) : List String :=
  (lines.filter fun line => kindOf line = .text).map String.ofList

/-- The lines of text in front of the first header. -/
def blockTexts (lines : List (List Char)) : List String :=
  texts (lines.takeWhile fun line => kindOf line ≠ .header)

/-- The lines that an event comes from, by the number of lines in front of them. -/
def eventLines (lines : List (List Char)) : List Nat :=
  (List.range lines.length).filter fun i =>
    lines[i]?.any fun line => kindOf line = .header || kindOf line = .directive

/-- The event of a line. The first line stands at the place `first`. -/
inductive EventAt (first : Place) (lines : List (List Char)) (i : Nat) : Event → Prop where
  | header {speaker tail : List Char} (here : lines[i]? = some ('[' :: (speaker ++ ']' :: tail)))
      (last : ']' ∉ tail) :
      EventAt first lines i (.dialogue (String.ofList speaker) (blockTexts (lines.drop (i + 1))))
  | directive {line : List Char} {d : Directive} (here : lines[i]? = some line)
      (kind : kindOf line = .directive) (read : parseDirective (first.down i) line = .ok d) :
      EventAt first lines i (.directive d)

/-- A line that cannot be read, and its error. -/
inductive Offends (first : Place) (lines : List (List Char)) (i : Nat) : ParseFailure → Prop where
  | header {line : List Char} (here : lines[i]? = some line) (kind : kindOf line = .header)
      (unclosed : ']' ∉ line) :
      Offends first lines i (.script (.malformed (first.down i) line.length .closeBracket))
  | directive {line : List Char} {e : ParseFailure} (here : lines[i]? = some line)
      (kind : kindOf line = .directive) (read : parseDirective (first.down i) line = .error e) :
      Offends first lines i e
  | text {line : List Char} (here : lines[i]? = some line) (kind : kindOf line = .text)
      (alone : ∀ j < i, ∀ other, lines[j]? = some other → kindOf other ≠ .header) :
      Offends first lines i (.script (.malformed (first.down i) 1 .noSpeaker))

/-- All lines can be read. -/
structure Readable (first : Place) (lines : List (List Char)) : Prop where
  closed : ∀ (i : Nat) line, lines[i]? = some line → kindOf line = .header → ']' ∈ line
  decoded : ∀ (i : Nat) line, lines[i]? = some line → kindOf line = .directive →
    ∃ d, parseDirective (first.down i) line = .ok d
  opened : ∀ (i : Nat) line, lines[i]? = some line → kindOf line = .text →
    ∃ j < i, ∃ other, lines[j]? = some other ∧ kindOf other = .header

/-- The first line that cannot be read, and its error. -/
def FirstOffence (first : Place) (lines : List (List Char)) (i : Nat) (e : ParseFailure) : Prop :=
  Offends first lines i e ∧ ∀ j < i, ∀ f, ¬Offends first lines j f

variable {first place : Place} {lines rest : List (List Char)} {line : List Char} {i j : Nat}
  {e f : ParseFailure} {opened : Bool}

theorem readable_iff : Readable first lines ↔ ∀ i e, ¬Offends first lines i e := by
  constructor
  · rintro h i e (⟨line, kind, unclosed⟩ | ⟨line, kind, read⟩ | ⟨line, kind, alone⟩)
    · exact unclosed (h.closed i _ line kind)
    · obtain ⟨d, hd⟩ := h.decoded i _ line kind
      simp [hd] at read
    · obtain ⟨j, hj, other, hother, hkind⟩ := h.opened i _ line kind
      exact alone j hj other hother hkind
  · intro h
    refine ⟨fun i line hline kind => ?_, fun i line hline kind => ?_, fun i line hline kind => ?_⟩
    · by_contra unclosed
      exact h i _ (.header hline kind unclosed)
    · cases hread : parseDirective (first.down i) line with
      | ok d => exact ⟨d, rfl⟩
      | error e => exact absurd (.directive hline kind hread) (h i e)
    · by_contra alone
      refine h i _ (.text hline kind fun j hj other hother hkind => alone ?_)
      exact ⟨j, hj, other, hother, hkind⟩

theorem Offends.unique (h : Offends first lines i e) (k : Offends first lines i f) : e = f := by
  cases h <;> cases k <;> simp_all

theorem Offends.of_line (h : Offends first lines i e) (here : lines[i]? = some line) :
    kindOf line = .header ∧ ']' ∉ line ∨
      kindOf line = .directive ∧ parseDirective (first.down i) line = .error e ∨
        kindOf line = .text ∧ ∀ other ∈ lines.take i, kindOf other ≠ .header := by
  cases h with
  | header h kind unclosed =>
    obtain rfl := Option.some.inj (here.symm.trans h)
    exact Or.inl ⟨kind, unclosed⟩
  | directive h kind read =>
    obtain rfl := Option.some.inj (here.symm.trans h)
    exact Or.inr (Or.inl ⟨kind, read⟩)
  | text h kind alone =>
    obtain rfl := Option.some.inj (here.symm.trans h)
    refine Or.inr (Or.inr ⟨kind, fun other hother => ?_⟩)
    obtain ⟨j, hj⟩ := List.mem_iff_getElem?.1 hother
    rw [List.getElem?_take] at hj
    split at hj
    · exact alone j ‹_› other hj
    · cases hj

theorem FirstOffence.unique (h : FirstOffence first lines i e) (k : FirstOffence first lines j f) :
    i = j ∧ e = f := by
  obtain hij | rfl | hij := Nat.lt_trichotomy i j
  · exact absurd h.1 (k.2 i hij e)
  · exact ⟨rfl, h.1.unique k.1⟩
  · exact absurd k.1 (h.2 j hij f)

theorem kindOf_eq_header_iff : kindOf line = .header ↔ ∃ rest, line = '[' :: rest := by
  constructor
  · intro kind
    simp only [kindOf] at kind
    split at kind
    · cases kind
    · split at kind
      · exact List.head?_eq_some_iff.1 ‹_›
      · split at kind <;> cases kind
  · rintro ⟨rest, rfl⟩
    have hblank : isBlank '[' = false := by decide
    simp [kindOf, hblank]

theorem kindOf_eq_directive_iff : kindOf line = .directive ↔ ∃ rest, line = '@' :: rest := by
  constructor
  · intro kind
    simp only [kindOf] at kind
    split at kind
    · cases kind
    · split at kind
      · cases kind
      · split at kind
        · exact List.head?_eq_some_iff.1 ‹_›
        · cases kind
  · rintro ⟨rest, rfl⟩
    have hblank : isBlank '@' = false := by decide
    simp [kindOf, hblank]

theorem read_of_ignored (place : Place) (kind : kindOf line = .ignored) :
    Line.read place line = .ok .ignored := by
  simp only [kindOf] at kind
  split at kind
  · rename_i hignored
    by_cases hblank : line.all isBlank = true
    · simp [Line.read, hblank]
    · simp only [hblank, Bool.false_or, decide_eq_true_eq] at hignored
      obtain ⟨rest, rfl⟩ := List.head?_eq_some_iff.1 hignored
      simp only [Line.read, hblank, Bool.false_eq_true, if_false]
  · split at kind
    · cases kind
    · split at kind <;> cases kind

theorem read_header (place : Place) (rest : List Char) :
    Line.read place ('[' :: rest) =
      match splitLast ']' rest with
      | some (speaker, _) => .ok (.header (String.ofList speaker))
      | none => .error (.script (.malformed place ('[' :: rest).length .closeBracket)) := by
  have hblank : ('[' :: rest).all isBlank = false := by
    simp [show isBlank '[' = false by decide]
  exact if_neg (ne_true_of_eq_false hblank)

theorem read_directive (place : Place) (rest : List Char) :
    Line.read place ('@' :: rest) = (parseDirective place ('@' :: rest)).map .directive := by
  have hblank : ('@' :: rest).all isBlank = false := by
    simp [show isBlank '@' = false by decide]
  simp only [Line.read, hblank, Bool.false_eq_true, if_false]

theorem read_of_text (place : Place) (kind : kindOf line = .text) :
    Line.read place line = .ok (.text (String.ofList line)) := by
  simp only [kindOf] at kind
  split at kind
  · cases kind
  · rename_i hignored
    split at kind
    · cases kind
    · split at kind
      · cases kind
      · simp only [Bool.or_eq_true, not_or, Bool.not_eq_true] at hignored
        simp only [Line.read, hignored.1, Bool.false_eq_true, if_false]
        split <;> simp_all

theorem readLines_cons_of_error (rest : List (List Char)) (h : Line.read place line = .error e) :
    readLines place opened (line :: rest) = .error e := by
  simp [readLines, h, bind, Except.bind]

/-- What a line adds to the lines read, and whether a block is open behind it. -/
theorem readLines_cons (place : Place) (opened : Bool) (rest : List (List Char)) {l : Line}
    (h : Line.read place line = .ok l) :
    readLines place opened (line :: rest) =
      match l with
      | .text s =>
        if opened then (readLines (place.down 1) opened rest).map (.text s :: ·)
        else .error (.script (.malformed place 1 .noSpeaker))
      | .header speaker => (readLines (place.down 1) true rest).map (.header speaker :: ·)
      | l => (readLines (place.down 1) opened rest).map (l :: ·) := by
  simp only [readLines, h, bind, Except.bind]
  cases l with
  | text s => cases opened <;> rfl
  | header speaker => rfl
  | ignored => rfl
  | directive d => rfl

theorem down_down (place : Place) (m n : Nat) : (place.down m).down n = place.down (m + n) := by
  simp [Place.down, Int.add_assoc]

/-- What the lines behind `before` give, once they are read. -/
structure Gathered (first : Place) (lines before rest : List (List Char)) (parsed : List Line) :
    Prop where
  block : (gather parsed).1 = blockTexts rest
  events : List.Forall₂ (EventAt first lines)
    ((List.range' before.length rest.length).filter fun i =>
      lines[i]?.any fun line => kindOf line = .header || kindOf line = .directive)
    (gather parsed).2
  texts : (gather parsed).1 ++ (gather parsed).2.flatMap Event.lines = texts rest
  unopened : (∀ line ∈ before, kindOf line ≠ .header) → (gather parsed).1 = []

namespace Gathered

variable {before : List (List Char)} {parsed : List Line}

theorem cons_ignored (h : Gathered first lines (before ++ [line]) rest parsed)
    (here : lines[before.length]? = some line) (kind : kindOf line = .ignored) :
    Gathered first lines before (line :: rest) (.ignored :: parsed) where
  block := by simpa [gather, blockTexts, Script.texts, kind] using h.block
  events := by simpa [gather, List.range'_succ, here, kind] using h.events
  texts := by simpa [gather, Script.texts, kind] using h.texts
  unopened := by
    intro hbefore
    apply h.unopened
    simp only [List.forall_mem_append, List.forall_mem_singleton, kind]
    exact ⟨hbefore, by decide⟩

theorem cons_directive {d : Directive} (h : Gathered first lines (before ++ [line]) rest parsed)
    (here : lines[before.length]? = some line) (kind : kindOf line = .directive)
    (read : parseDirective (first.down before.length) line = .ok d) :
    Gathered first lines before (line :: rest) (.directive d :: parsed) where
  block := by simpa [gather, blockTexts, Script.texts, kind] using h.block
  events := by
    have hrest := h.events
    rw [List.length_append, List.length_singleton] at hrest
    simpa [gather, List.range'_succ, here, kind] using ⟨.directive here kind read, hrest⟩
  texts := by simpa [gather, Script.texts, kind, Event.lines] using h.texts
  unopened := by
    intro hbefore
    apply h.unopened
    simp only [List.forall_mem_append, List.forall_mem_singleton, kind]
    exact ⟨hbefore, by decide⟩

theorem cons_header {speaker tail : List Char} (hlines : lines = before ++ line :: rest)
    (h : Gathered first lines (before ++ [line]) rest parsed)
    (hline : line = '[' :: (speaker ++ ']' :: tail)) (last : ']' ∉ tail) :
    Gathered first lines before (line :: rest) (.header (String.ofList speaker) :: parsed) := by
  have kind : kindOf line = .header := kindOf_eq_header_iff.2 ⟨_, hline⟩
  have here : lines[before.length]? = some line := by simp [hlines]
  have hdrop : lines.drop (before.length + 1) = rest := by simp [hlines]
  have hevent : EventAt first lines before.length
      (.dialogue (String.ofList speaker) (gather parsed).1) := by
    rw [h.block, ← hdrop]
    exact .header (here.trans (congrArg some hline)) last
  have hrest := h.events
  rw [List.length_append, List.length_singleton] at hrest
  constructor
  · simp [gather, blockTexts, Script.texts, kind]
  · simpa [gather, List.range'_succ, here, kind] using ⟨hevent, hrest⟩
  · simpa [gather, Script.texts, kind, Event.lines] using h.texts
  · intro _
    rfl

theorem cons_text (h : Gathered first lines (before ++ [line]) rest parsed)
    (here : lines[before.length]? = some line) (kind : kindOf line = .text)
    (opened : ∃ line ∈ before, kindOf line = .header) :
    Gathered first lines before (line :: rest) (.text (String.ofList line) :: parsed) where
  block := by simpa [gather, blockTexts, Script.texts, kind] using h.block
  events := by simpa [gather, List.range'_succ, here, kind] using h.events
  texts := by simpa [gather, Script.texts, kind] using h.texts
  unopened := by
    intro hbefore
    obtain ⟨header, hmem, hkind⟩ := opened
    exact absurd hkind (hbefore header hmem)

end Gathered

/-- What reading the lines behind `before` comes to. -/
def Reads (first : Place) (lines before rest : List (List Char)) :
    Except ParseFailure (List Line) → Prop
  | .error e => ∃ i, FirstOffence first lines i e
  | .ok parsed => (∀ i e, ¬Offends first lines i e) ∧ Gathered first lines before rest parsed

theorem Reads.cons {before : List (List Char)} {l : Line} {r : Except ParseFailure (List Line)}
    (h : Reads first lines (before ++ [line]) rest r)
    (gathered : ∀ parsed, Gathered first lines (before ++ [line]) rest parsed →
      Gathered first lines before (line :: rest) (l :: parsed)) :
    Reads first lines before (line :: rest) (r.map (l :: ·)) := by
  cases r with
  | error e => exact h
  | ok parsed => exact ⟨h.1, gathered parsed h.2⟩

/-- Reading goes on behind a line that does not offend, and stops at one that does. -/
theorem reads_readLines {before : List (List Char)} (hlines : lines = before ++ rest)
    (hopened : opened = before.any fun line => kindOf line = .header)
    (clean : ∀ j < before.length, ∀ f, ¬Offends first lines j f) :
    Reads first lines before rest (readLines (first.down before.length) opened rest) := by
  induction rest generalizing before opened with
  | nil =>
    rw [List.append_nil] at hlines
    subst hlines
    refine ⟨fun i e h => ?_, rfl, .nil, rfl, fun _ => rfl⟩
    by_cases hi : i < lines.length
    · exact clean i hi e h
    · cases h <;> simp_all
  | cons line rest ih =>
    have here : lines[before.length]? = some line := by simp [hlines]
    have htake : lines.take before.length = before := by simp [hlines]
    -- Behind a line that does not offend, the rest is read from the next place on.
    have next (opened : Bool)
        (hopened : opened = (before ++ [line]).any fun line => kindOf line = .header)
        (quiet : ∀ f, ¬Offends first lines before.length f) :
        Reads first lines (before ++ [line]) rest
          (readLines ((first.down before.length).down 1) opened rest) := by
      have hsuffix : lines = (before ++ [line]) ++ rest := by simp [hlines]
      have h := ih hsuffix hopened ?_
      · rw [down_down]
        simpa using h
      · intro j hj
        rw [List.length_append, List.length_singleton, Nat.lt_succ_iff_lt_or_eq] at hj
        rcases hj with hj | rfl
        · exact clean j hj
        · exact quiet
    cases kind : kindOf line with
    | ignored =>
      rw [readLines_cons _ _ _ (read_of_ignored _ kind)]
      apply (next opened (by simp [hopened, kind]) ?_).cons
      · intro parsed h
        exact h.cons_ignored here kind
      · intro f h
        simpa [kind] using h.of_line here
    | header =>
      obtain ⟨inside, hline⟩ := kindOf_eq_header_iff.1 kind
      have hread := read_header (first.down before.length) inside
      rw [← hline] at hread
      cases hsplit : splitLast ']' inside with
      | none =>
        rw [hsplit] at hread
        rw [readLines_cons_of_error _ hread]
        refine ⟨before.length, .header here kind ?_, clean⟩
        simpa [hline] using splitLast_eq_none_iff.1 hsplit
      | some parts =>
        obtain ⟨speaker, tail⟩ := parts
        obtain ⟨last, hinside⟩ := splitLast_eq_some_iff.1 hsplit
        rw [hsplit] at hread
        rw [readLines_cons _ _ _ hread]
        apply (next true (by simp [kind]) ?_).cons
        · intro parsed h
          exact h.cons_header hlines (hline.trans (by rw [hinside])) last
        · intro f h
          have hclosed : ']' ∈ line := by simp [hline, hinside]
          simpa [kind, hclosed] using h.of_line here
    | directive =>
      obtain ⟨inside, hline⟩ := kindOf_eq_directive_iff.1 kind
      have hread := read_directive (first.down before.length) inside
      rw [← hline] at hread
      cases hparse : parseDirective (first.down before.length) line with
      | error e =>
        rw [hparse] at hread
        rw [readLines_cons_of_error _ hread]
        exact ⟨before.length, .directive here kind hparse, clean⟩
      | ok d =>
        rw [hparse] at hread
        rw [readLines_cons _ _ _ hread]
        apply (next opened (by simp [hopened, kind]) ?_).cons
        · intro parsed h
          exact h.cons_directive here kind hparse
        · intro f h
          simpa [kind, hparse] using h.of_line here
    | text =>
      rw [readLines_cons _ _ _ (read_of_text _ kind)]
      cases opened with
      | false =>
        refine ⟨before.length, .text here kind ?_, clean⟩
        intro j hj other hother
        have hmem : other ∈ before := by
          rw [← htake]
          exact List.mem_iff_getElem?.2 ⟨j, by rw [List.getElem?_take, if_pos hj, hother]⟩
        simpa using List.any_eq_false.1 hopened.symm other hmem
      | true =>
        have hheader : ∃ line ∈ before, kindOf line = .header := by
          simpa using hopened.symm
        apply (next true (by simp [← hopened]) ?_).cons
        · intro parsed h
          exact h.cons_text here kind hheader
        · intro f h
          obtain ⟨header, hmem, hkind⟩ := hheader
          have halone := h.of_line here
          rw [htake] at halone
          simp only [kind, reduceCtorEq, false_and, false_or, true_and] at halone
          exact halone header hmem hkind

theorem EventAt.unique {a b : Event} (h : EventAt first lines i a) (k : EventAt first lines i b) :
    a = b := by
  cases h with
  | header here last =>
    cases k with
    | header here' last' =>
      have heq := here.symm.trans here'
      rw [Option.some.injEq, List.cons.injEq] at heq
      have hsplit := splitLast_eq_some_iff.2 ⟨last, heq.2.symm⟩
      rw [splitLast_eq_some_iff.2 ⟨last', rfl⟩] at hsplit
      simp_all
    | directive here' kind =>
      rw [here, Option.some.injEq] at here'
      rw [kindOf_eq_header_iff.2 ⟨_, here'.symm⟩] at kind
      cases kind
  | directive here kind read =>
    cases k with
    | header here' =>
      rw [here, Option.some.injEq] at here'
      rw [kindOf_eq_header_iff.2 ⟨_, here'⟩] at kind
      cases kind
    | directive here' _ read' => simp_all

theorem events_unique {numbers : List Nat} {a b : List Event}
    (h : List.Forall₂ (EventAt first lines) numbers a)
    (k : List.Forall₂ (EventAt first lines) numbers b) : a = b := by
  induction h generalizing b with
  | nil =>
    cases k
    rfl
  | cons head _ ih =>
    cases k with
    | cons head' tail' => rw [head.unique head', ih tail']

/-- The error of a directive line names the line's place, if it names one. -/
theorem place?_of_parseDirective (h : parseDirective place line = .error e) :
    e.place? = none ∨ e.place? = some place := by
  simp only [parseDirective] at h
  repeat' split at h
  all_goals cases h
  all_goals simp [ParseFailure.place?, ScriptError.place?]

theorem Offends.place? (h : Offends first lines i e) :
    e.place? = none ∨ e.place? = some (first.down i) := by
  cases h with
  | header | text => exact Or.inr rfl
  | directive _ _ read => exact place?_of_parseDirective read

/-- Reading a script either gives the events of its lines or fails where the first line offends. -/
theorem parse_cases (source name : String) :
    match parse source name with
    | .error e => ∃ i, FirstOffence ⟨name, 1⟩ (sourceLines source.toList) i e
    | .ok script =>
      Readable ⟨name, 1⟩ (sourceLines source.toList) ∧ script.name = name ∧
        List.Forall₂ (EventAt ⟨name, 1⟩ (sourceLines source.toList))
          (eventLines (sourceLines source.toList)) script.events ∧
        script.events.flatMap Event.lines = texts (sourceLines source.toList) := by
  have h : Reads ⟨name, 1⟩ (sourceLines source.toList) [] (sourceLines source.toList)
      (readLines (Place.down ⟨name, 1⟩ 0) false (sourceLines source.toList)) :=
    reads_readLines rfl rfl (by simp)
  rw [show Place.down ⟨name, 1⟩ 0 = ⟨name, 1⟩ from rfl] at h
  rw [parse, parseChars]
  cases hread : readLines ⟨name, 1⟩ false (sourceLines source.toList) with
  | error e =>
    rw [hread] at h
    exact h
  | ok parsed =>
    rw [hread] at h
    obtain ⟨clean, gathered⟩ := h
    have hnone : (gather parsed).1 = [] := gathered.unopened (by simp)
    refine ⟨readable_iff.2 clean, rfl, ?_, ?_⟩
    · rw [eventLines, List.range_eq_range']
      exact gathered.events
    · simpa [hnone] using gathered.texts

/-- The line that offends first is the one whose error is given. -/
theorem parse_eq_error_iff {source name : String} :
    parse source name = .error e ↔
      ∃ i, FirstOffence ⟨name, 1⟩ (sourceLines source.toList) i e := by
  have h := parse_cases source name
  cases hparse : parse source name with
  | error f =>
    rw [hparse] at h
    obtain ⟨i, hi⟩ := h
    constructor
    · intro hf
      cases hf
      exact ⟨i, hi⟩
    · rintro ⟨j, hj⟩
      rw [(hi.unique hj).2]
  | ok script =>
    rw [hparse] at h
    constructor
    · intro hf
      cases hf
    · rintro ⟨i, hi, -⟩
      exact absurd hi (readable_iff.1 h.1 i e)

theorem exists_parse_eq_ok_iff {source name : String} :
    (∃ script, parse source name = .ok script) ↔
      Readable ⟨name, 1⟩ (sourceLines source.toList) := by
  have h := parse_cases source name
  cases hparse : parse source name with
  | error e =>
    obtain ⟨i, hi, -⟩ := parse_eq_error_iff.1 hparse
    simpa using fun hread => readable_iff.1 hread i e hi
  | ok script =>
    rw [hparse] at h
    simpa using h.1

/-- Parsing is the line format: it succeeds exactly if all lines can be read, its events are those of
the lines, no line of text is lost, and a failure is the first offence, at the number of its line. -/
theorem parse_by_lines (source name : String) :
    ((∃ script, parse source name = .ok script) ↔
      Readable ⟨name, 1⟩ (sourceLines source.toList)) ∧
    (∀ script, parse source name = .ok script ↔
      Readable ⟨name, 1⟩ (sourceLines source.toList) ∧ script.name = name ∧
        List.Forall₂ (EventAt ⟨name, 1⟩ (sourceLines source.toList))
          (eventLines (sourceLines source.toList)) script.events ∧
        script.events.flatMap Event.lines = texts (sourceLines source.toList)) ∧
    ∀ e, parse source name = .error e ↔
      ∃ i, FirstOffence ⟨name, 1⟩ (sourceLines source.toList) i e ∧
        (e.place? = none ∨ e.place? = some ⟨name, 1 + i⟩) := by
  refine ⟨exists_parse_eq_ok_iff, fun script => ⟨fun hparse => ?_, ?_⟩, fun e => ?_⟩
  · have h := parse_cases source name
    rw [hparse] at h
    exact h
  · rintro ⟨hread, hname, hevents, -⟩
    obtain ⟨parsed, hparse⟩ := exists_parse_eq_ok_iff.2 hread
    have h := parse_cases source name
    rw [hparse] at h
    rw [hparse, Except.ok.injEq, Script.mk.injEq]
    exact ⟨h.2.1.trans hname.symm, events_unique h.2.2.1 hevents⟩
  · rw [parse_eq_error_iff]
    constructor
    · rintro ⟨i, hi⟩
      exact ⟨i, hi, hi.1.place?⟩
    · rintro ⟨i, hi, -⟩
      exact ⟨i, hi⟩

/-- A block goes on behind a directive, a comment and a blank line; a header that is not closed is the
first offence of its source. -/
theorem parse_by_lines_interleaved :
    (∃ script, parse "[A]\r\nhi\n@loadbg(b.png)\n# note\n\nthere\n[B]" "s.txt" = .ok script ∧
      script.events =
        [.dialogue "A" ["hi", "there"], .directive (.background "b.png"), .dialogue "B" []] ∧
      Readable ⟨"s.txt", 1⟩
        (sourceLines "[A]\r\nhi\n@loadbg(b.png)\n# note\n\nthere\n[B]".toList)) ∧
    parse "# note\n[A\nhi" "s.txt" = .error (.script (.malformed ⟨"s.txt", 2⟩ 2 .closeBracket)) ∧
    ∃ i, FirstOffence ⟨"s.txt", 1⟩ (sourceLines "# note\n[A\nhi".toList) i
      (.script (.malformed ⟨"s.txt", 2⟩ 2 .closeBracket)) := by
  obtain ⟨script, hscript⟩ : ∃ script : Script, script = ⟨"s.txt",
      [.dialogue "A" ["hi", "there"], .directive (.background "b.png"), .dialogue "B" []]⟩ :=
    ⟨_, rfl⟩
  have hparse : parse "[A]\r\nhi\n@loadbg(b.png)\n# note\n\nthere\n[B]" "s.txt" = .ok script := by
    rw [hscript]
    decide +kernel
  have hunclosed : parse "# note\n[A\nhi" "s.txt" =
      .error (.script (.malformed ⟨"s.txt", 2⟩ 2 .closeBracket)) := by
    decide +kernel
  obtain ⟨readable, -⟩ := ((parse_by_lines _ _).2.1 script).1 hparse
  obtain ⟨i, offence, -⟩ := ((parse_by_lines _ _).2.2 _).1 hunclosed
  exact ⟨⟨script, hparse, by rw [hscript], readable⟩, hunclosed, i, offence⟩

end Script

end VisualNovel
