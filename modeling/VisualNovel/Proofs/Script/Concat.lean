import VisualNovel.Proofs.Script.Format
import VisualNovel.Proofs.Text.Field

/-!
# Sources one behind the other

Two sources joined by a line end are read as the first one and then the second one, whose lines are
counted on. All that the first one leaves open is its last block of dialogue. A source that can be read
on its own has no text in front of its first header, so it never adds to that block, and only an error
for such a text depends on what stands before.
-/
namespace VisualNovel

open VisualNovel.Text

def ScriptError.down (e : ScriptError) (count : Nat) : ScriptError :=
  match e with
  | malformed place column problem => malformed (place.down count) column problem
  | unknownDirective name place => unknownDirective name (place.down count)
  | argument problem place => argument problem (place.map fun p => p.down count)
  | notFound path => notFound path
  | unreadable path problem => unreadable path problem

def ParseFailure.down (e : ParseFailure) (count : Nat) : ParseFailure :=
  match e with
  | script e => script (e.down count)
  | digits n => digits n

/-- Whether the error is about a text that no header stands in front of. -/
def ParseFailure.isUnmatched : ParseFailure → Bool
  | script (.malformed _ _ .noSpeaker) => true
  | _ => false

@[simp] theorem ParseFailure.isUnmatched_down (e : ParseFailure) (count : Nat) :
    (e.down count).isUnmatched = e.isUnmatched := by
  cases e with
  | digits n => rfl
  | script e =>
    cases e with
    | malformed place column problem => cases problem <;> rfl
    | unknownDirective | argument | notFound | unreadable => rfl

def Event.isDialogue : Event → Bool
  | dialogue _ _ => true
  | directive _ => false

namespace Script

def Line.isHeader : Line → Bool
  | .header _ => true
  | _ => false

def Line.isText : Line → Bool
  | .text _ => true
  | _ => false

variable {place : Place} {opened : Bool} {line : List Char} {lines rest : List (List Char)}
  {e : ParseFailure} {parsed : List Line}

theorem parseDirective_down (place : Place) (count : Nat) (line : List Char) :
    parseDirective (place.down count) line =
      (parseDirective place line).mapError fun e => e.down count := by
  simp only [parseDirective]
  split
  · rfl
  · split
    · rfl
    · split
      · rfl
      · split <;> rfl

theorem read_down (place : Place) (count : Nat) (line : List Char) :
    Line.read (place.down count) line = (Line.read place line).mapError fun e => e.down count := by
  cases kind : kindOf line with
  | ignored => simp [read_of_ignored _ kind, Except.mapError]
  | text => simp [read_of_text _ kind, Except.mapError]
  | header =>
    obtain ⟨inside, rfl⟩ := kindOf_eq_header_iff.1 kind
    simp only [read_header]
    split <;> rfl
  | directive =>
    obtain ⟨inside, rfl⟩ := kindOf_eq_directive_iff.1 kind
    simp only [read_directive, parseDirective_down]
    cases parseDirective place ('@' :: inside) <;> rfl

theorem isUnmatched_of_parseDirective (h : parseDirective place line = .error e) :
    e.isUnmatched = false := by
  simp only [parseDirective] at h
  repeat' split at h
  all_goals cases h
  all_goals rfl

/-- The error of a single line is never about its being a text. -/
theorem isUnmatched_of_read (h : Line.read place line = .error e) : e.isUnmatched = false := by
  cases kind : kindOf line with
  | ignored => simp [read_of_ignored _ kind] at h
  | text => simp [read_of_text _ kind] at h
  | header =>
    obtain ⟨inside, rfl⟩ := kindOf_eq_header_iff.1 kind
    rw [read_header] at h
    split at h <;> cases h
    rfl
  | directive =>
    obtain ⟨inside, rfl⟩ := kindOf_eq_directive_iff.1 kind
    rw [read_directive] at h
    cases hread : parseDirective place ('@' :: inside) with
    | ok d => simp [hread, Except.map] at h
    | error f =>
      rw [hread] at h
      cases h
      exact isUnmatched_of_parseDirective hread

/-- Reading goes on behind a line that can be read, unless it is a text and no block is open. -/
theorem readLines_cons_of_ok (place : Place) (opened : Bool) (rest : List (List Char)) {l : Line}
    (h : Line.read place line = .ok l) :
    readLines place opened (line :: rest) =
      if l.isText && !opened then .error (.script (.malformed place 1 .noSpeaker))
      else (readLines (place.down 1) (opened || l.isHeader) rest).map (l :: ·) := by
  rw [readLines_cons place opened rest h]
  cases l <;> cases opened <;> rfl

theorem readLines_down (place : Place) (count : Nat) (opened : Bool) (lines : List (List Char)) :
    readLines (place.down count) opened lines =
      (readLines place opened lines).mapError fun e => e.down count := by
  induction lines generalizing place opened with
  | nil => rfl
  | cons line rest ih =>
    have hread := read_down place count line
    cases h : Line.read place line with
    | error e =>
      rw [h] at hread
      rw [readLines_cons_of_error rest h, readLines_cons_of_error rest hread]
      rfl
    | ok l =>
      rw [h] at hread
      rw [readLines_cons_of_ok place opened rest h, readLines_cons_of_ok _ opened rest hread]
      split
      · rfl
      · rw [down_down, Nat.add_comm, ← down_down, ih]
        cases readLines (place.down 1) (opened || l.isHeader) rest <;> rfl

/-- The lines of two parts are those of the first and, from the place behind it on, those of the second.
A header in the first part has opened a block for the second. -/
theorem readLines_append (place : Place) (opened : Bool) (lines rest : List (List Char)) :
    readLines place opened (lines ++ rest) =
      match readLines place opened lines with
      | .error e => .error e
      | .ok parsed =>
        (readLines (place.down lines.length) (opened || parsed.any Line.isHeader) rest).map
          (parsed ++ ·) := by
  induction lines generalizing place opened with
  | nil =>
    have hplace : place.down 0 = place := by simp [Place.down]
    change readLines place opened rest =
      (readLines (place.down 0) (opened || false) rest).map fun r => [] ++ r
    rw [hplace, Bool.or_false]
    cases readLines place opened rest <;> rfl
  | cons line lines ih =>
    rw [List.cons_append]
    cases h : Line.read place line with
    | error e => rw [readLines_cons_of_error _ h, readLines_cons_of_error _ h]
    | ok l =>
      rw [readLines_cons_of_ok place opened _ h, readLines_cons_of_ok place opened _ h]
      split
      · rfl
      · rw [ih]
        cases readLines (place.down 1) (opened || l.isHeader) lines with
        | error e => rfl
        | ok parsed =>
          simp only [Except.map, down_down, List.any_cons, List.length_cons, Bool.or_assoc,
            Nat.add_comm 1]
          cases readLines (place.down (lines.length + 1))
            (opened || (l.isHeader || parsed.any Line.isHeader)) rest <;> rfl

theorem isUnmatched_of_opened (h : readLines place true lines = .error e) :
    e.isUnmatched = false := by
  induction lines generalizing place with
  | nil => cases h
  | cons line rest ih =>
    cases hread : Line.read place line with
    | error f =>
      rw [readLines_cons_of_error rest hread] at h
      cases h
      exact isUnmatched_of_read hread
    | ok l =>
      rw [readLines_cons_of_ok place true rest hread] at h
      simp only [Bool.not_true, Bool.and_false, Bool.false_eq_true, if_false, Bool.true_or] at h
      cases hrest : readLines (place.down 1) true rest with
      | ok parsed => simp [hrest, Except.map] at h
      | error f =>
        rw [hrest] at h
        cases h
        exact ih hrest

/-- Only an unmatched text is read otherwise behind an open block. -/
theorem readLines_opened (h : ∀ e, readLines place false lines = .error e → e.isUnmatched = false) :
    readLines place opened lines = readLines place false lines := by
  cases opened with
  | false => rfl
  | true =>
    induction lines generalizing place with
    | nil => rfl
    | cons line rest ih =>
      cases hread : Line.read place line with
      | error e => rw [readLines_cons_of_error rest hread, readLines_cons_of_error rest hread]
      | ok l =>
        rw [readLines_cons_of_ok place false rest hread] at h
        rw [readLines_cons_of_ok place true rest hread, readLines_cons_of_ok place false rest hread]
        by_cases htext : l.isText = true
        · simp only [htext, Bool.not_false, Bool.and_self, if_true] at h
          exact absurd (h _ rfl) (by simp [ParseFailure.isUnmatched])
        · simp only [htext, Bool.false_and, Bool.false_eq_true, if_false, Bool.true_or,
            Bool.false_or] at h ⊢
          cases hheader : l.isHeader with
          -- A header opens a block of its own, so the two readings meet behind it.
          | true => rfl
          | false =>
            rw [ih fun e he => h e (by rw [hheader, he]; rfl)]

/-- An error is the same behind an open block, unless it is about an unmatched text. -/
theorem readLines_opened_eq_error_iff (opened : Bool) (h : readLines place false lines = .error e) :
    readLines place opened lines = .error e ↔ ¬(e.isUnmatched = true ∧ opened = true) := by
  cases hunmatched : e.isUnmatched with
  | false =>
    have hsame : readLines place opened lines = readLines place false lines := by
      apply readLines_opened
      intro f hf
      rw [h] at hf
      cases hf
      exact hunmatched
    simp [hsame, h]
  | true =>
    cases opened with
    | false => simp [h]
    | true =>
      refine iff_of_false (fun hopened => ?_) (by simp)
      rw [isUnmatched_of_opened hopened] at hunmatched
      cases hunmatched

/-- Without an open block there is no text in front of the first header. -/
theorem gather_of_unopened (h : readLines place false lines = .ok parsed) : (gather parsed).1 = [] := by
  induction lines generalizing place parsed with
  | nil =>
    cases h
    rfl
  | cons line rest ih =>
    cases hread : Line.read place line with
    | error e => simp [readLines_cons_of_error rest hread] at h
    | ok l =>
      rw [readLines_cons_of_ok place false rest hread] at h
      split at h
      · cases h
      · rename_i htext
        cases hrest : readLines (place.down 1) (false || l.isHeader) rest with
        | error e =>
          rw [hrest] at h
          cases h
        | ok others =>
          rw [hrest] at h
          cases h
          cases l with
          | text s => simp [Line.isText] at htext
          | header speaker => rfl
          | ignored | directive => simpa [gather] using ih hrest

theorem gather_append (parsed : List Line) {others : List Line} (h : (gather others).1 = []) :
    gather (parsed ++ others) = ((gather parsed).1, (gather parsed).2 ++ (gather others).2) := by
  induction parsed with
  | nil => exact Prod.ext h rfl
  | cons l parsed ih =>
    rw [List.cons_append, gather, ih]
    cases l <;> rfl

theorem any_isDialogue_gather (parsed : List Line) :
    (gather parsed).2.any Event.isDialogue = parsed.any Line.isHeader := by
  induction parsed with
  | nil => rfl
  | cons l parsed ih => cases l <;> simp [gather, Line.isHeader, Event.isDialogue, ih]

theorem sourceLines_append (s t : String) :
    sourceLines (s ++ "\n" ++ t).toList = sourceLines s.toList ++ sourceLines t.toList := by
  simp only [sourceLines, linesLF, String.toList_append, List.append_assoc]
  rw [show "\n".toList = ['\n'] from rfl, List.singleton_append, splitAll_append_cons,
    List.map_append]

theorem exists_of_parse {source name : String} {script : Script}
    (h : parse source name = .ok script) :
    ∃ parsed, readLines ⟨name, 1⟩ false (sourceLines source.toList) = .ok parsed ∧
      script = ⟨name, (gather parsed).2⟩ := by
  rw [parse, parseChars] at h
  cases hread : readLines ⟨name, 1⟩ false (sourceLines source.toList) with
  | error e =>
    rw [hread] at h
    cases h
  | ok parsed =>
    rw [hread] at h
    cases h
    exact ⟨parsed, rfl, rfl⟩

theorem readLines_of_parse_error {source name : String} (h : parse source name = .error e) :
    readLines ⟨name, 1⟩ false (sourceLines source.toList) = .error e := by
  rw [parse, parseChars] at h
  cases hread : readLines ⟨name, 1⟩ false (sourceLines source.toList) with
  | error f =>
    rw [hread] at h
    cases h
    rfl
  | ok parsed =>
    rw [hread] at h
    cases h

/-- Behind a source that can be read, the other one is read from the line behind it on. -/
theorem parse_append_of_ok {s name : String} (t : String)
    (h : readLines ⟨name, 1⟩ false (sourceLines s.toList) = .ok parsed) :
    parse (s ++ "\n" ++ t) name =
      (readLines (Place.down ⟨name, 1⟩ (linesLF s.toList).length) (parsed.any Line.isHeader)
        (sourceLines t.toList)).map fun others => ⟨name, (gather (parsed ++ others)).2⟩ := by
  have hlength : (sourceLines s.toList).length = (linesLF s.toList).length := List.length_map ..
  rw [parse, parseChars, sourceLines_append, readLines_append, h, ← hlength]
  simp only [Bool.false_or]
  cases readLines (Place.down ⟨name, 1⟩ (sourceLines s.toList).length) (parsed.any Line.isHeader)
    (sourceLines t.toList) <;> rfl

/-- What becomes of two sources that are joined by a line end. An error in the first one is the error of
both. Otherwise the second one is read as it is on its own, behind the lines of the first: its events
follow, or its error is given, that many lines further down. The only exception is a text of the second
one that no header of its own stands in front of: it goes to the block that the first one has left open,
if there is one. -/
theorem parse_append (s t name : String) :
    (∀ e, parse s name = .error e → parse (s ++ "\n" ++ t) name = .error e) ∧
    (∀ a b, parse s name = .ok a → parse t name = .ok b →
      parse (s ++ "\n" ++ t) name = .ok ⟨name, a.events ++ b.events⟩) ∧
    ∀ a e, parse s name = .ok a → parse t name = .error e →
      (parse (s ++ "\n" ++ t) name = .error (e.down (linesLF s.toList).length) ↔
        ¬(e.isUnmatched = true ∧ a.events.any Event.isDialogue = true)) := by
  have hdown := readLines_down ⟨name, 1⟩ (linesLF s.toList).length false (sourceLines t.toList)
  refine ⟨fun e hs => ?_, fun a b hs ht => ?_, fun a e hs ht => ?_⟩
  · rw [parse, parseChars, sourceLines_append, readLines_append, readLines_of_parse_error hs]
    rfl
  · obtain ⟨parsed, hparsed, rfl⟩ := exists_of_parse hs
    obtain ⟨others, hothers, rfl⟩ := exists_of_parse ht
    rw [hothers] at hdown
    have hgather := gather_append parsed (gather_of_unopened hothers)
    rw [parse_append_of_ok t hparsed, readLines_opened (by simp [hdown, Except.mapError]), hdown]
    simp [Except.map, Except.mapError, hgather]
  · obtain ⟨parsed, hparsed, rfl⟩ := exists_of_parse hs
    rw [readLines_of_parse_error ht] at hdown
    have hiff := readLines_opened_eq_error_iff (parsed.any Line.isHeader) hdown
    rw [parse_append_of_ok t hparsed, any_isDialogue_gather, ← ParseFailure.isUnmatched_down, ← hiff]
    cases readLines (Place.down ⟨name, 1⟩ (linesLF s.toList).length) (parsed.any Line.isHeader)
      (sourceLines t.toList) <;> simp [Except.map]

/-- An unknown directive in the second line of the second source stands in the fourth line of both. A
text that is unmatched on its own belongs to the block that the first source has opened. -/
theorem parse_append_unknown :
    parse "[A]\nhi" "s.txt" = .ok ⟨"s.txt", [.dialogue "A" ["hi"]]⟩ ∧
      parse "@loadbg(b.png)\n@nope()" "s.txt" =
        .error (.script (.unknownDirective "nope" ⟨"s.txt", 2⟩)) ∧
      parse ("[A]\nhi" ++ "\n" ++ "@loadbg(b.png)\n@nope()") "s.txt" =
        .error (.script (.unknownDirective "nope" ⟨"s.txt", 4⟩)) ∧
      parse "there" "s.txt" = .error (.script (.malformed ⟨"s.txt", 1⟩ 1 .noSpeaker)) ∧
      parse ("[A]\nhi" ++ "\n" ++ "there") "s.txt" ≠
        .error (.script (.malformed ⟨"s.txt", 3⟩ 1 .noSpeaker)) := by
  have hfirst : parse "[A]\nhi" "s.txt" = .ok ⟨"s.txt", [.dialogue "A" ["hi"]]⟩ := rfl
  have hunknown : parse "@loadbg(b.png)\n@nope()" "s.txt" =
      .error (.script (.unknownDirective "nope" ⟨"s.txt", 2⟩)) := rfl
  have hunmatched : parse "there" "s.txt" =
      .error (.script (.malformed ⟨"s.txt", 1⟩ 1 .noSpeaker)) := rfl
  have hboth := (parse_append "[A]\nhi" "@loadbg(b.png)\n@nope()" "s.txt").2.2 _ _ hfirst hunknown
  have hblock := (parse_append "[A]\nhi" "there" "s.txt").2.2 _ _ hfirst hunmatched
  refine ⟨hfirst, hunknown, hboth.2 (by simp [ParseFailure.isUnmatched]), hunmatched, fun h => ?_⟩
  exact hblock.1 h ⟨rfl, rfl⟩

end Script

end VisualNovel
