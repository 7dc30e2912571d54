import VisualNovel.Proofs.Number.Product
import VisualNovel.Proofs.Text.Template

/-!
# Numbers out of range

Filling a template may fail with a number that is out of range: one that a star takes from the
arguments, one that the letter of a directive cannot show, or a length for which there is no room. These are all
the reasons; whatever else goes wrong, the arguments do not fit the template.
-/
namespace VisualNovel.Text.Template

open VisualNovel.Number VisualNovel.Number.Binary64

/-- A star takes an integer that is out of range, for the width or, behind a width that is read, for the
precision. -/
inductive Overlong (args : List Argument) (s : List Char) : RangeError → Prop where
  | width {r a left i} (star : (takeFlags {} s).2 = '*' :: r) (next : args = a :: left)
      (number : a.integer? = some i) (beyond : Beyond sizeLimit i) : Overlong args s .size
  | precision {d r a left i}
      (width : takeWidth { flags := (takeFlags {} s).1 } args (takeFlags {} s).2 =
        .ok (d, a :: left, '.' :: '*' :: r))
      (number : a.integer? = some i) (beyond : Beyond countLimit i) : Overlong args s .count

def decimalLetters : List Char :=
  ['d', 'i', 'u']

def baseLetters : List Char :=
  ['o', 'x', 'X']

def realLetters : List Char :=
  ['e', 'E', 'f', 'F', 'g', 'G']

/-- The integer that a letter for whole numbers shows. -/
def Whole (letter : Char) (a : Argument) (i : Int) : Prop :=
  letter ∈ decimalLetters ∧ wholePart a = .ok i ∨ letter ∈ baseLetters ∧ a.integer? = some i

/-- A letter cannot show its argument: a number is out of range, or more characters are asked for than
there is room for. -/
inductive Unshowable (room : Nat) (d : Directive) (a : Argument) : Char → RangeError → Prop where
  | codePoint {i} (number : a.integer? = some i) (outside : i < 0 ∨ 0x110000 ≤ i) :
      Unshowable room d a 'c' .codePoint
  | infinite {letter x} (decimal : letter ∈ decimalLetters) (real : a = .real x)
      (infinite : x.truncate = .error .infinite) : Unshowable room d a letter .infinite
  | precision {letter i} (whole : Whole letter a i) (many : maxPrecision < d.precision.getD 0) :
      Unshowable room d a letter .precision
  | digits {letter i} (whole : Whole letter a i)
      (writable : letter ∈ decimalLetters → Number.isWritable i = true)
      (many : room ≤ d.precision.getD 0) (few : d.precision.getD 0 ≤ maxPrecision) :
      Unshowable room d a letter .memory
  | real {letter i} (real : letter ∈ realLetters) (number : a.integer? = some i)
      (beyond : firstBeyond ≤ i.natAbs) : Unshowable room d a letter .real
  | places {letter x} (real : letter ∈ realLetters) (number : realPart a = .ok x)
      (finite : x.specialText? = none) (all : d.flags.alternate = true ∨ letter.toLower ≠ 'g')
      (many : room ≤ d.precision.getD 6) : Unshowable room d a letter .memory
  | width {letter shown} (shows : shownAs room d letter a = .ok shown)
      (wide : room ≤ d.width.getD 0) : Unshowable room d a letter .memory

variable {args left : List Argument} {s : List Char} {d : Directive} {letter : Char} {a : Argument}
  {e : RangeError} {p : Problem} {i : Int} {x : Binary64} {room base : Nat} {capital : Bool} {shown : Shown}

/-! ## Stars -/

theorem takeWidth_eq_range_iff : takeWidth d args s = .error (.range e) ↔
    ∃ r a left i, s = '*' :: r ∧ args = a :: left ∧ a.integer? = some i ∧ Beyond sizeLimit i ∧
      e = .size := by
  constructor
  · intro h
    unfold takeWidth at h
    split at h
    · next r =>
      obtain taken | ⟨t, -, read⟩ := bind_eq_error_iff.1 h
      · obtain ⟨a, left, i, star⟩ := takeCount_eq_range_iff.1 taken
        exact ⟨r, a, left, i, rfl, star⟩
      · cases read
    · split at h
      · obtain taken | ⟨t, -, read⟩ := bind_eq_error_iff.1 h
        · exact absurd taken takeNumber_ne_range
        · cases read
      · cases h
    · cases h
  · rintro ⟨r, a, left, i, rfl, taken⟩
    rw [takeWidth]
    exact bind_eq_error_iff.2 (Or.inl (takeCount_eq_range_iff.2 ⟨a, left, i, taken⟩))

theorem takePrecision_eq_range_iff : takePrecision d args s = .error (.range e) ↔
    ∃ r a left i, s = '.' :: '*' :: r ∧ args = a :: left ∧ a.integer? = some i ∧
      Beyond countLimit i ∧ e = .count := by
  constructor
  · intro h
    unfold takePrecision at h
    split at h
    · next r =>
      obtain taken | ⟨t, -, read⟩ := bind_eq_error_iff.1 h
      · obtain ⟨a, left, i, star⟩ := takeCount_eq_range_iff.1 taken
        exact ⟨r, a, left, i, rfl, star⟩
      · cases read
    · obtain taken | ⟨t, -, read⟩ := bind_eq_error_iff.1 h
      · exact absurd taken takeNumber_ne_range
      · cases read
    · cases h
  · rintro ⟨r, a, left, i, rfl, taken⟩
    rw [takePrecision]
    exact bind_eq_error_iff.2 (Or.inl (takeCount_eq_range_iff.2 ⟨a, left, i, taken⟩))

theorem takeDirective_eq_range_iff :
    takeDirective args s = .error (.range e) ↔ Overlong args s e := by
  constructor
  · intro h
    rw [takeDirective] at h
    obtain width | ⟨⟨d, args', r⟩, width, h⟩ := bind_eq_error_iff.1 h
    · obtain ⟨r, a, left, i, star, next, number, beyond, rfl⟩ := takeWidth_eq_range_iff.1 width
      exact .width star next number beyond
    · obtain precision | ⟨t, -, h⟩ := bind_eq_error_iff.1 h
      · obtain ⟨r, a, left, i, rfl, rfl, number, beyond, rfl⟩ := takePrecision_eq_range_iff.1 precision
        exact .precision width number beyond
      · cases h
  · intro h
    rw [takeDirective]
    cases h with
    | width star next number beyond =>
      exact bind_eq_error_iff.2 (Or.inl
        (takeWidth_eq_range_iff.2 ⟨_, _, _, _, star, next, number, beyond, rfl⟩))
    | precision width number beyond =>
      exact bind_eq_error_iff.2 (Or.inr ⟨_, width, bind_eq_error_iff.2 (Or.inl
        (takePrecision_eq_range_iff.2 ⟨_, _, _, _, rfl, rfl, number, beyond, rfl⟩))⟩)

/-! ## Letters -/

theorem checkRoom_eq_error_iff {n : Nat} :
    checkRoom room n = .error p ↔ room ≤ n ∧ p = .range .memory := by
  rw [checkRoom]
  split <;> simp_all [eq_comm]

theorem pad_eq_error_iff :
    pad room d shown = .error p ↔ room ≤ d.width.getD 0 ∧ p = .range .memory := by
  rw [pad, bind_eq_error_iff, checkRoom_eq_error_iff]
  constructor
  · rintro (h | ⟨u, -, h⟩)
    · exact h
    · dsimp only at h
      split at h
      · cases h
      · split at h <;> cases h
  · exact Or.inl

theorem showInteger_eq_range_iff : showInteger room d base capital i = .error (.range e) ↔
    maxPrecision < d.precision.getD 0 ∧ e = .precision ∨
    d.precision.getD 0 ≤ maxPrecision ∧ (base = 10 → Number.isWritable i = true) ∧
      room ≤ d.precision.getD 0 ∧ e = .memory := by
  unfold showInteger
  dsimp only
  split
  · next many =>
    change Except.error (Problem.range .precision) = Except.error (Problem.range e) ↔ _
    constructor
    · intro h
      cases h
      exact Or.inl ⟨many, rfl⟩
    · rintro (⟨-, rfl⟩ | ⟨few, -⟩)
      · rfl
      · exact absurd few (Nat.not_le.2 many)
  · next many =>
    split
    · next refused =>
      have refused : ¬(base = 10 → Number.isWritable i = true) := by simpa using refused
      change Except.error Problem.mismatch = Except.error (Problem.range e) ↔ _
      simp [many, refused]
    · next refused =>
      have writable : base = 10 → Number.isWritable i = true := by simpa using refused
      rw [bind_eq_error_iff, checkRoom_eq_error_iff]
      constructor
      · rintro (⟨long, h⟩ | ⟨u, -, h⟩)
        · exact Or.inr ⟨Nat.not_lt.1 many, writable, long, Problem.range.inj h⟩
        · cases h
      · rintro (⟨tooMany, -⟩ | ⟨-, -, long, rfl⟩)
        · exact absurd tooMany many
        · exact Or.inl ⟨long, rfl⟩

theorem showReal_eq_range_iff : showReal room d letter x = .error (.range e) ↔
    x.specialText? = none ∧ (d.flags.alternate = true ∨ letter.toLower ≠ 'g') ∧
      room ≤ d.precision.getD 6 ∧ e = .memory := by
  unfold showReal
  dsimp only
  split
  · next all =>
    simp only [Bool.and_eq_true, Option.isNone_iff_eq_none, Bool.or_eq_true, decide_eq_true_eq] at all
    rw [bind_eq_error_iff, checkRoom_eq_error_iff]
    constructor
    · rintro (⟨many, h⟩ | ⟨u, -, h⟩)
      · exact ⟨all.1, all.2, many, Problem.range.inj h⟩
      · split at h <;> cases h
    · rintro ⟨-, -, many, rfl⟩
      exact Or.inl ⟨many, rfl⟩
  · next all =>
    simp only [Bool.and_eq_true, Option.isNone_iff_eq_none, Bool.or_eq_true, decide_eq_true_eq] at all
    constructor
    · intro h
      split at h <;> cases h
    · rintro ⟨finite, places, -⟩
      exact absurd ⟨finite, places⟩ all

theorem wholePart_eq_range_iff : wholePart a = .error (.range e) ↔
    ∃ x, a = .real x ∧ x.truncate = .error .infinite ∧ e = .infinite := by
  unfold wholePart
  split
  · next x =>
    cases h : x.truncate with
    | ok i => simp [h]
    | error none => cases none <;> simp [h, eq_comm]
  · next other =>
    have : ∀ x, a ≠ .real x := other
    split <;> simp [this]

/-- The conversion is any function here, so that nothing is computed to see that the cases of an
integer are those of its conversion. -/
theorem converted_eq (number? : Int → Option Binary64) (h : a.integer? = some i) :
    (match a.integer? with
      | some i =>
        match number? i with
        | some x => Except.ok x
        | none => .error (Problem.range .real)
      | none => .error Problem.mismatch) = (number? i).elim (.error (.range .real)) .ok := by
  rw [h]
  dsimp only
  cases number? i <;> rfl

theorem realPart_of_integer (h : a.integer? = some i) :
    realPart a = (ofInt? i).elim (.error (.range .real)) .ok := by
  have notReal : ∀ x, a = .real x → False := by
    rintro x rfl
    cases h
  exact (realPart.eq_2 a notReal).trans (converted_eq ofInt? h)

theorem realPart_eq_range_iff : realPart a = .error (.range e) ↔
    ∃ i, a.integer? = some i ∧ firstBeyond ≤ i.natAbs ∧ e = .real := by
  cases number : a.integer? with
  | none =>
    refine iff_of_false (fun h => ?_) (by simp)
    cases a <;> simp [realPart, Argument.integer?] at h number
  | some i =>
    rw [realPart_of_integer number]
    have inside := exists_ofInt?_iff (i := i)
    generalize ofInt? i = x at inside
    cases x with
    | some x =>
      refine iff_of_false (by simp) ?_
      rintro ⟨j, hj, beyond, -⟩
      cases hj
      exact Nat.not_lt.2 beyond (inside.1 ⟨x, rfl⟩)
    | none =>
      constructor
      · intro h
        cases h
        refine ⟨i, rfl, Nat.not_lt.1 fun h => ?_, rfl⟩
        obtain ⟨x, hx⟩ := inside.2 h
        cases hx
      · rintro ⟨j, -, -, rfl⟩
        rfl

theorem shownAs_decimal (h : letter ∈ decimalLetters) :
    shownAs room d letter a = wholePart a >>= showInteger room d 10 false := by
  simp only [decimalLetters, List.mem_cons, List.not_mem_nil, or_false] at h
  obtain rfl | rfl | rfl := h <;> rfl

theorem shownAs_based (room : Nat) (h : letter ∈ baseLetters) : ∃ base capital, base ≠ 10 ∧
    shownAs room d letter a = a.integer?.elim (.error .mismatch) (showInteger room d base capital) := by
  simp only [baseLetters, List.mem_cons, List.not_mem_nil, or_false] at h
  obtain rfl | rfl | rfl := h
  · refine ⟨8, false, by decide, ?_⟩
    simp only [shownAs]
    cases a.integer? <;> rfl
  · refine ⟨16, false, by decide, ?_⟩
    simp only [shownAs]
    cases a.integer? <;> rfl
  · refine ⟨16, true, by decide, ?_⟩
    simp only [shownAs]
    cases a.integer? <;> rfl

theorem shownAs_whole (room : Nat) (h : Whole letter a i) : ∃ base capital,
    (base = 10 ↔ letter ∈ decimalLetters) ∧ shownAs room d letter a = showInteger room d base capital i := by
  obtain ⟨decimal, whole⟩ | ⟨based, number⟩ := h
  · refine ⟨10, false, iff_of_true rfl decimal, ?_⟩
    rw [shownAs_decimal decimal, whole]
    rfl
  · obtain ⟨base, capital, notTen, heq⟩ := shownAs_based room (d := d) (a := a) based
    refine ⟨base, capital, iff_of_false notTen ?_, by rw [heq, number]; rfl⟩
    simp only [baseLetters, List.mem_cons, List.not_mem_nil, or_false] at based
    obtain rfl | rfl | rfl := based <;> decide

theorem shownAs_real (h : letter ∈ realLetters) :
    shownAs room d letter a = realPart a >>= showReal room d letter := by
  simp only [realLetters, List.mem_cons, List.not_mem_nil, or_false] at h
  obtain rfl | rfl | rfl | rfl | rfl | rfl := h <;> rfl

theorem shownAs_char_eq_range_iff : shownAs room d 'c' a = .error (.range e) ↔
    ∃ i, a.integer? = some i ∧ (i < 0 ∨ 0x110000 ≤ i) ∧ e = .codePoint := by
  simp only [shownAs]
  split
  · next s => split <;> simp [Argument.integer?]
  · cases number : a.integer? with
    | none => simp
    | some i =>
      simp only [Bool.and_eq_true, decide_eq_true_eq]
      split
      · next inside =>
        refine iff_of_false (by simp) ?_
        rintro ⟨j, hj, outside, -⟩
        cases hj
        omega
      · next outside =>
        constructor
        · intro h
          cases h
          exact ⟨i, rfl, by omega, rfl⟩
        · rintro ⟨j, -, -, rfl⟩
          rfl

theorem shownAs_range_cases (h : shownAs room d letter a = .error (.range e)) :
    letter = 'c' ∨ letter ∈ decimalLetters ∨ letter ∈ baseLetters ∨ letter ∈ realLetters := by
  unfold shownAs at h
  dsimp only at h
  split at h
  case h_1 => split at h <;> cases h
  case h_2 => split at h <;> cases h
  case h_3 => split at h <;> cases h
  case h_17 => cases h
  all_goals simp [decimalLetters, baseLetters, realLetters]

theorem shownAs_whole_eq_range_iff (whole : Whole letter a i) :
    shownAs room d letter a = .error (.range e) ↔ maxPrecision < d.precision.getD 0 ∧ e = .precision ∨
      d.precision.getD 0 ≤ maxPrecision ∧
        (letter ∈ decimalLetters → Number.isWritable i = true) ∧
        room ≤ d.precision.getD 0 ∧ e = .memory := by
  obtain ⟨base, capital, hbase, heq⟩ := shownAs_whole room (d := d) whole
  rw [heq, showInteger_eq_range_iff, hbase]

theorem unshowable_of_whole (whole : Whole letter a i)
    (h : shownAs room d letter a = .error (.range e)) : Unshowable room d a letter e := by
  obtain ⟨many, rfl⟩ | ⟨few, writable, long, rfl⟩ := (shownAs_whole_eq_range_iff whole).1 h
  · exact .precision whole many
  · exact .digits whole writable long few

theorem unshowable_of_shownAs (h : shownAs room d letter a = .error (.range e)) :
    Unshowable room d a letter e := by
  obtain rfl | decimal | based | real := shownAs_range_cases h
  · obtain ⟨i, number, outside, rfl⟩ := shownAs_char_eq_range_iff.1 h
    exact .codePoint number outside
  · have shown := h
    rw [shownAs_decimal decimal] at shown
    obtain refused | ⟨i, whole, -⟩ := bind_eq_error_iff.1 shown
    · obtain ⟨x, hx, infinite, rfl⟩ := wholePart_eq_range_iff.1 refused
      exact .infinite decimal hx infinite
    · exact unshowable_of_whole (Or.inl ⟨decimal, whole⟩) h
  · cases number : a.integer? with
    | none =>
      obtain ⟨base, capital, -, heq⟩ := shownAs_based room (d := d) (a := a) based
      simp [heq, number] at h
    | some i => exact unshowable_of_whole (Or.inr ⟨based, number⟩) h
  · rw [shownAs_real real] at h
    obtain refused | ⟨x, number, h⟩ := bind_eq_error_iff.1 h
    · obtain ⟨i, number, beyond, rfl⟩ := realPart_eq_range_iff.1 refused
      exact .real real number beyond
    · obtain ⟨finite, all, many, rfl⟩ := showReal_eq_range_iff.1 h
      exact .places real number finite all many

/-- An argument cannot be shown because of a range exactly in the cases of the table. -/
theorem showArgument_eq_range_iff :
    showArgument room d letter a = .error (.range e) ↔ Unshowable room d a letter e := by
  rw [showArgument, bind_eq_error_iff]
  constructor
  · rintro (h | ⟨shown, shows, h⟩)
    · exact unshowable_of_shownAs h
    · obtain ⟨wide, h⟩ := pad_eq_error_iff.1 h
      cases h
      exact .width shows wide
  · intro h
    cases h with
    | codePoint number outside =>
      exact Or.inl (shownAs_char_eq_range_iff.2 ⟨_, number, outside, rfl⟩)
    | infinite decimal real infinite =>
      rw [shownAs_decimal decimal]
      exact Or.inl (bind_eq_error_iff.2 (Or.inl
        (wholePart_eq_range_iff.2 ⟨_, real, infinite, rfl⟩)))
    | precision whole many =>
      exact Or.inl ((shownAs_whole_eq_range_iff whole).2 (Or.inl ⟨many, rfl⟩))
    | digits whole writable many few =>
      exact Or.inl ((shownAs_whole_eq_range_iff whole).2 (Or.inr ⟨few, writable, many, rfl⟩))
    | real real number beyond =>
      rw [shownAs_real real]
      exact Or.inl (bind_eq_error_iff.2 (Or.inl
        (realPart_eq_range_iff.2 ⟨_, number, beyond, rfl⟩)))
    | places real number finite all many =>
      rw [shownAs_real real]
      exact Or.inl (bind_eq_error_iff.2 (Or.inr
        ⟨_, number, showReal_eq_range_iff.2 ⟨finite, all, many, rfl⟩⟩))
    | width shows wide => exact Or.inr ⟨_, shows, pad_eq_error_iff.2 ⟨wide, rfl⟩⟩

/-! ## Templates -/

/-- Filling gets to a directive that has a number out of range. -/
inductive Exceeds (room : Nat) (template : String) (args : List Argument) (e : RangeError) : Prop where
  | star {out left s} (reaches : Reaches room ⟨args, template.toList⟩ out ⟨left, '%' :: s⟩)
      (opens : s.head? ≠ some '%') (overlong : Overlong left s e) : Exceeds room template args e
  | letter {out before s d a left letter rest}
      (reaches : Reaches room ⟨args, template.toList⟩ out ⟨before, '%' :: s⟩)
      (opens : s.head? ≠ some '%')
      (taken : takeDirective before s = .ok (d, a :: left, letter :: rest))
      (unshowable : Unshowable room d a letter e) : Exceeds room template args e

/-- Filling gets to where the arguments do not fit the template. -/
def Misfits (room : Nat) (template : String) (args : List Argument) : Prop :=
  ∃ out x, Reaches room ⟨args, template.toList⟩ out x ∧ Stuck room x .mismatch

theorem fill_eq_range_iff {template : String} :
    fill room template args = .error (.range e) ↔ Exceeds room template args e := by
  rw [fill_eq_error_iff]
  constructor
  · rintro ⟨out, x, reaches, stuck⟩
    cases stuck with
    | unread opens refused => exact .star reaches opens (takeDirective_eq_range_iff.1 refused)
    | unshown opens taken refused =>
      exact .letter reaches opens taken (showArgument_eq_range_iff.1 refused)
  · intro h
    cases h with
    | star reaches opens overlong =>
      exact ⟨_, _, reaches, .unread opens (takeDirective_eq_range_iff.2 overlong)⟩
    | letter reaches opens taken unshowable =>
      exact ⟨_, _, reaches, .unshown opens taken (showArgument_eq_range_iff.2 unshowable)⟩

theorem fill_eq_mismatch_iff {template : String} :
    fill room template args = .error .mismatch ↔ Misfits room template args :=
  fill_eq_error_iff

end VisualNovel.Text.Template
