import VisualNovel.Text.Field

/-!
# Lines

Three notions of a line: lines that end at LF alone, the line ends of a text file, where CRLF and a
lone CR are read as LF, and the wider set of line boundaries at which a displayed text breaks.
-/
namespace VisualNovel.Text

/-- The lines between LF characters; a text that ends in LF has an empty last line. -/
def linesLF (s : List Char) : List (List Char) :=
  splitAll '\n' s

/-- Reads CRLF and a lone CR as LF. -/
def unifyLineEnds : List Char → List Char
  | [] => []
  | '\r' :: '\n' :: r => '\n' :: unifyLineEnds r
  | c :: r => (if c = '\r' then '\n' else c) :: unifyLineEnds r

/-- Characters that end a displayed line. -/
def isLineBoundary (c : Char) : Bool :=
  let n := c.toNat
  (10 ≤ n && n ≤ 13) || (28 ≤ n && n ≤ 30) || n == 0x85 || n == 0x2028 || n == 0x2029

/-- The displayed lines of a text. CRLF is one boundary, and a boundary at the very end opens no
further line. -/
def displayLinesChars : List Char → List (List Char)
  | [] => []
  | '\r' :: '\n' :: r => [] :: displayLinesChars r
  | c :: r =>
    if isLineBoundary c then [] :: displayLinesChars r
    else
      match r with
      | [] => [[c]]
      | _ :: _ =>
        match displayLinesChars r with
        | [] => [[c]]
        | l :: ls => (c :: l) :: ls

def displayLines (s : String) : List String :=
  (displayLinesChars s.toList).map String.ofList

/-- The first line with its LF, if it has one, and the rest. -/
def takeLine : List Char → List Char × List Char
  | [] => ([], [])
  | c :: r => if c = '\n' then (['\n'], r) else let (a, b) := takeLine r; (c :: a, b)

theorem takeLine_append (s : List Char) : (takeLine s).1 ++ (takeLine s).2 = s := by
  induction s with
  | nil => rfl
  | cons c r ih =>
    by_cases h : c = '\n'
    · simp [takeLine, h]
    · simpa [takeLine, h] using ih

end VisualNovel.Text
