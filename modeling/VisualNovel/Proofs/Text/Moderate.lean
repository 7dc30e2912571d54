import VisualNovel.Proofs.Text.Range

/-!
# Moderate numbers

No number is out of range as long as the arguments are character codes and the numbers in the template
are below a limit that there is room for. Filling then succeeds or the arguments do not fit.
-/
namespace VisualNovel.Text

/-- An argument of which every letter can show the number. -/
structure Argument.Moderate (a : Argument) : Prop where
  writable : a.isWritable = true
  code : ∀ i, a.integer? = some i → 0 ≤ i ∧ i < 0x110000
  finite : ∀ x, a = .real x → x.truncate ≠ .error .infinite

namespace Template

/-- A template in which every number is below a limit. -/
def HasNumbersBelow (limit : Nat) (s : List Char) : Prop :=
  ∀ digits, digits <:+: s → digits.all isAsciiDigit = true →
    ofDigits 10 (digits.map fun c => c.toNat - 48) < limit

/-- A limit that a character code is below, for which there is room, and up to which an integer can be
filled. -/
structure Admits (room limit : Nat) : Prop where
  codes : 0x110000 ≤ limit
  ample : limit ≤ room
  places : limit ≤ maxPrecision

variable {args left : List Argument} {s rest : List Char} {d d' : Directive} {out text : List Char}
  {x y : Place} {e : RangeError} {letter : Char} {a : Argument} {i : Int} {room limit : Nat}

theorem HasNumbersBelow.of_suffix (h : HasNumbersBelow limit s) (suffix : rest <:+ s) :
    HasNumbersBelow limit rest :=
  fun digits infix' hdigits => h digits (infix'.trans suffix.isInfix) hdigits

theorem Step.suffix (h : Step room x text y) :
    y.args <:+ x.args ∧ y.template <:+ x.template := by
  cases h with
  | percent => exact ⟨List.suffix_rfl, (List.suffix_cons _ _).trans (List.suffix_cons _ _)⟩
  | plain other => exact ⟨List.suffix_rfl, List.suffix_cons _ _⟩
  | directive opens taken shown =>
    obtain ⟨hargs, hrest⟩ := takeDirective_suffix taken
    exact ⟨(List.suffix_cons _ _).trans hargs,
      (List.suffix_cons _ _).trans (hrest.trans (List.suffix_cons _ _))⟩

theorem Reaches.suffix (h : Reaches room x out y) :
    y.args <:+ x.args ∧ y.template <:+ x.template := by
  induction h with
  | here => exact ⟨List.suffix_rfl, List.suffix_rfl⟩
  | step first others ih => exact ⟨ih.1.trans first.suffix.1, ih.2.trans first.suffix.2⟩

theorem not_beyond (h : a.Moderate) (number : a.integer? = some i)
    (codes : 0x110000 ≤ limit) : ¬Beyond limit i := by
  have := h.code i number
  unfold Beyond
  omega

theorem width_lt (codes : 0x110000 ≤ limit) (h : takeWidth d args s = .ok (d', left, rest))
    (moderate : ∀ a ∈ args, a.Moderate) (short : HasNumbersBelow limit s) (hd : d.width.getD 0 < limit) :
    d'.width.getD 0 < limit ∧ d'.precision = d.precision := by
  obtain ⟨rfl, -, -⟩ | ⟨a, i, flags, rfl, number, -, rfl⟩ | ⟨digits, hdigits, -, rfl, rfl⟩ :=
    takeWidth_cases h
  · exact ⟨hd, rfl⟩
  · have := (moderate a (List.mem_cons_self ..)).code i number
    refine ⟨?_, rfl⟩
    simp only [Option.getD_some]
    split <;> omega
  · exact ⟨short digits (List.prefix_append digits rest).isInfix hdigits, rfl⟩

theorem precision_lt {places : Nat} (codes : 0x110000 ≤ limit)
    (h : takePrecision d args s = .ok (d', left, rest)) (moderate : ∀ a ∈ args, a.Moderate)
    (short : HasNumbersBelow limit s) (hd : d.precision.getD places < limit) :
    d'.precision.getD places < limit ∧ d'.width = d.width := by
  obtain ⟨rfl, -, -⟩ | ⟨a, i, rfl, number, -, rfl⟩ | ⟨digits, hdigits, -, rfl, rfl⟩ :=
    takePrecision_cases h
  · exact ⟨hd, rfl⟩
  · have := (moderate a (List.mem_cons_self ..)).code i number
    refine ⟨?_, rfl⟩
    simp only [Option.getD_some]
    omega
  · refine ⟨short digits ?_ hdigits, rfl⟩
    exact (List.prefix_append digits rest).isInfix.trans (List.suffix_cons _ _).isInfix

theorem directive_lt {places : Nat} (codes : 0x110000 ≤ limit)
    (h : takeDirective args s = .ok (d, left, rest)) (moderate : ∀ a ∈ args, a.Moderate)
    (short : HasNumbersBelow limit s) (few : places < limit) :
    d.width.getD 0 < limit ∧ d.precision.getD places < limit := by
  obtain ⟨d', args', r', r'', width, precision, -⟩ := takeDirective_eq_ok_iff.1 h
  have hflags := short.of_suffix (takeFlags_suffix {} s)
  have hsuffix := takeWidth_suffix width
  obtain ⟨hwidth, hsame⟩ := width_lt codes width moderate hflags
    (Nat.lt_of_le_of_lt (Nat.zero_le _) few)
  have hplaces : d'.precision.getD places < limit := by
    rw [hsame]
    exact few
  obtain ⟨hprecision, hsame'⟩ := precision_lt codes precision
    (fun a ha => moderate a (hsuffix.1.subset ha)) (hflags.of_suffix hsuffix.2) hplaces
  rw [hsame']
  exact ⟨hwidth, hprecision⟩

theorem not_overlong (moderate : ∀ a ∈ args, a.Moderate) : ¬Overlong args s e := by
  rintro (⟨star, rfl, number, beyond⟩ | ⟨width, number, beyond⟩)
  · exact not_beyond (moderate _ (List.mem_cons_self ..)) number (by decide) beyond
  · have next := (takeWidth_suffix width).1.subset (List.mem_cons_self ..)
    exact not_beyond (moderate _ next) number (by decide) beyond

theorem not_unshowable (admits : Admits room limit) (moderate : a.Moderate)
    (hwidth : d.width.getD 0 < limit)
    (hprecision : ∀ places < limit, d.precision.getD places < limit) :
    ¬Unshowable room d a letter e := by
  have hcodes := admits.codes
  have hroom := admits.ample
  have hfew := admits.places
  have hwhole := hprecision 0 (by omega)
  intro h
  cases h with
  | codePoint number outside =>
    have := moderate.code _ number
    omega
  | infinite decimal real infinite => exact moderate.finite _ real infinite
  | precision whole many => omega
  | digits whole writable many few => omega
  | real real number beyond =>
    have := moderate.code _ number
    have := Number.Binary64.two_pow_le_firstBeyond
    omega
  | places real number finite all many =>
    have := hprecision 6 (by omega)
    omega
  | width shows wide => omega

theorem not_exceeds {template : String} (admits : Admits room limit)
    (moderate : ∀ a ∈ args, a.Moderate) (short : HasNumbersBelow limit template.toList) :
    ¬Exceeds room template args e := by
  rintro (⟨reaches, opens, overlong⟩ | ⟨reaches, opens, taken, unshowable⟩)
  · exact not_overlong (fun a ha => moderate a (reaches.suffix.1.subset ha)) overlong
  · have hargs := fun a ha => moderate a (reaches.suffix.1.subset ha)
    have hshort := (short.of_suffix reaches.suffix.2).of_suffix (List.suffix_cons _ _)
    have next := hargs _ ((takeDirective_suffix taken).1.subset (List.mem_cons_self ..))
    have hlimit : 0 < limit := Nat.lt_of_lt_of_le (by decide) admits.codes
    exact not_unshowable admits next (directive_lt admits.codes taken hargs hshort hlimit).1
      (fun places few => (directive_lt admits.codes taken hargs hshort few).2) unshowable

end Template

end VisualNovel.Text
