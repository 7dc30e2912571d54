import VisualNovel.Proofs.Frame.Channel
import VisualNovel.Proofs.Text.Blank

/-!
# The notation of colors

A color is read from two hexadecimal digits for each channel, of which the last one may be left out. The
digits are counted together with the gaps that may stand in front of a pair; so six digits and two gaps
are read as well as eight digits, as a color whose last channel is full. Every color is read back from
its own notation.
-/
namespace VisualNovel.Color

open VisualNovel.Text

/-- What is left of a text without the blanks around it and the number signs in front. -/
def digitsOf (value : String) : List Char :=
  (trimChars value.toList).dropWhile (· == '#')

/-- The text is six or eight hexadecimal digits and nothing else, and its pairs are the channels of the
color, the last of which is full if there are six digits. -/
def Writes (digits : List Char) (c : Color) : Prop :=
  (∀ d ∈ digits, (hexValue? d).isSome = true) ∧
    (digits.length = 8 ∧ Pairs digits c.numbers ∨
      digits.length = 6 ∧ Pairs digits [c.red.toNat, c.green.toNat, c.blue.toNat] ∧ c.alpha = 255)

/-- The text has eight characters, but they are three pairs of digits with two gaps in front of pairs. -/
def Gapped (digits : List Char) (c : Color) : Prop :=
  digits.length = 8 ∧ Pairs digits [c.red.toNat, c.green.toNat, c.blue.toNat] ∧ c.alpha = 255

variable {s : List Char} {c : Char} {n : Nat} {numbers : List Nat} {value : String} {color : Color}

theorem toNat_of_hexValue? (h : hexValue? c = some n) : 48 ≤ c.toNat ∧ c.toNat < 103 := by
  have h0 : ('0' : Char).val.toNat = 48 := rfl
  have h9 : ('9' : Char).val.toNat = 57 := rfl
  have ha : ('a' : Char).val.toNat = 97 := rfl
  have hf : ('f' : Char).val.toNat = 102 := rfl
  have hA : ('A' : Char).val.toNat = 65 := rfl
  have hF : ('F' : Char).val.toNat = 70 := rfl
  have hpoint : c.toNat = c.val.toNat := rfl
  simp only [hexValue?, Bool.and_eq_true, decide_eq_true_eq, Char.le_def, UInt32.le_iff_toNat_le]
    at h
  split at h
  · omega
  · split at h
    · omega
    · split at h
      · omega
      · cases h

theorem isGap_of_hexValue? (h : hexValue? c = some n) : isGap c = false := by
  have hrange := toNat_of_hexValue? h
  simp only [isGap, Bool.or_eq_false_iff, decide_eq_false_iff_not, Bool.and_eq_false_iff]
  refine ⟨?_, by omega⟩
  rintro rfl
  exact absurd hrange.1 (by decide)

theorem isBlank_of_hexValue? (h : hexValue? c = some n) : isBlank c = false := by
  have hrange := toNat_of_hexValue? h
  simp only [isBlank, Bool.or_eq_false_iff, Bool.and_eq_false_iff, beq_eq_false_iff_ne,
    decide_eq_false_iff_not]
  omega

theorem toNat_lt_of_isGap (h : isGap c = true) : c.toNat < 128 := by
  simp only [isGap, Bool.or_eq_true, decide_eq_true_eq, Bool.and_eq_true] at h
  obtain rfl | ⟨-, h⟩ := h
  · decide
  · omega

theorem Pairs.toNat_lt (h : Pairs s numbers) : ∀ c ∈ s, c.toNat < 128 := by
  induction h with
  | nil => simp
  | gap gap _ ih =>
    rw [List.forall_mem_cons]
    exact ⟨toNat_lt_of_isGap gap, ih⟩
  | pair first second _ ih =>
    rw [List.forall_mem_cons, List.forall_mem_cons]
    have hfirst := toNat_of_hexValue? first
    have hsecond := toNat_of_hexValue? second
    exact ⟨by omega, by omega, ih⟩

theorem Pairs.length_le (h : Pairs s numbers) : 2 * numbers.length ≤ s.length := by
  induction h with
  | nil => exact Nat.le_refl _
  | gap _ _ ih =>
    rw [List.length_cons]
    omega
  | pair _ _ _ ih =>
    simp only [List.length_cons]
    omega

theorem Pairs.isSome_of_length (h : Pairs s numbers) (length : s.length = 2 * numbers.length) :
    ∀ d ∈ s, (hexValue? d).isSome = true := by
  induction h with
  | nil => simp
  | gap _ pairs _ =>
    have := pairs.length_le
    rw [List.length_cons] at length
    omega
  | pair first second _ ih =>
    simp only [List.length_cons] at length
    rw [List.forall_mem_cons, List.forall_mem_cons, first, second]
    exact ⟨rfl, rfl, ih (by omega)⟩

theorem readPairs_of_pairs (h : Pairs s numbers) (position : Nat) :
    readPairs position s = .ok (numbers.map UInt8.ofNat) := by
  induction h generalizing position with
  | nil => rfl
  | gap gap _ ih =>
    rw [readPairs.eq_def]
    simp only [gap, if_true, ih]
  | pair first second _ ih =>
    rw [readPairs.eq_def]
    simp only [isGap_of_hexValue? first, Bool.false_eq_true, if_false, first, second, ih]
    rfl

/-- Bytes are read from a text exactly if it is their pairs of digits. -/
theorem readBytes_eq_ok_iff {bytes : List UInt8} :
    readBytes s = .ok bytes ↔ Pairs s (bytes.map UInt8.toNat) := by
  refine ⟨pairs_of_readBytes, fun h => ?_⟩
  have hascii : s.findIdx? (fun c => 128 ≤ c.toNat) = none := by
    rw [List.findIdx?_eq_none_iff]
    intro c hc
    simpa using h.toNat_lt c hc
  have hback : (bytes.map UInt8.toNat).map UInt8.ofNat = bytes := by
    rw [List.map_map]
    exact (List.map_congr_left fun b _ => UInt8.ofNat_toNat).trans (List.map_id _)
  rw [readBytes, hascii, ← hback]
  exact readPairs_of_pairs h 0

theorem ofText_eq (value : String) :
    ofText value =
      if (digitsOf value).length ≠ 6 ∧ (digitsOf value).length ≠ 8 then .error (.length value)
      else readBytes (digitsOf value) >>= fun bytes =>
        match bytes with
        | [r, g, b] => .ok ⟨r, g, b, 255⟩
        | [r, g, b, a] => .ok ⟨r, g, b, a⟩
        | bytes => .error (.channels bytes.length) := by
  obtain ⟨digits, hdigits⟩ : ∃ digits, digitsOf value = digits := ⟨_, rfl⟩
  rw [hdigits]
  rw [digitsOf] at hdigits
  simp only [ofText, hdigits]
  split
  · rfl
  · rfl

/-- A text is a color exactly if it writes one or has three pairs and two gaps. -/
theorem ofText_eq_ok_iff : ofText value = .ok color ↔
    Writes (digitsOf value) color ∨ Gapped (digitsOf value) color := by
  rw [ofText_eq]
  constructor
  · intro h
    split at h
    · cases h
    · rename_i hlength
      obtain ⟨bytes, hbytes, hcolor⟩ := exists_of_bind h
      have hpairs := readBytes_eq_ok_iff.1 hbytes
      have hle := hpairs.length_le
      split at hcolor
      · cases hcolor
        by_cases hsix : (digitsOf value).length = 6
        · exact Or.inl ⟨hpairs.isSome_of_length hsix, Or.inr ⟨hsix, hpairs, rfl⟩⟩
        · exact Or.inr ⟨by omega, hpairs, rfl⟩
      · cases hcolor
        simp only [List.map_cons, List.map_nil, List.length_cons, List.length_nil] at hle
        have height : (digitsOf value).length = 8 := by omega
        exact Or.inl ⟨hpairs.isSome_of_length height, Or.inl ⟨height, hpairs⟩⟩
      · cases hcolor
  · have hthree (h : Pairs (digitsOf value) [color.red.toNat, color.green.toNat, color.blue.toNat]) :
        readBytes (digitsOf value) = .ok [color.red, color.green, color.blue] :=
      readBytes_eq_ok_iff.2 h
    rintro (⟨-, ⟨hlength, hpairs⟩ | ⟨hlength, hpairs, halpha⟩⟩ | ⟨hlength, hpairs, halpha⟩)
    · rw [if_neg (by omega), bind_of_ok (readBytes_eq_ok_iff.2 hpairs)]
      rfl
    · rw [if_neg (by omega), bind_of_ok (hthree hpairs), ← halpha]
    · rw [if_neg (by omega), bind_of_ok (hthree hpairs), ← halpha]

theorem hexValue?_digitChar {d : Nat} (h : d < 16) : hexValue? (digitChar d) = some d := by
  have hall : ∀ d, d < 16 → hexValue? (digitChar d) = some d := by decide +kernel
  exact hall d h

theorem pairs_hexDigits (bytes : List UInt8) :
    Pairs (bytes.flatMap fun b => hexDigits 2 b.toNat) (bytes.map UInt8.toNat) := by
  induction bytes with
  | nil => exact .nil
  | cons b bytes ih =>
    have hb := b.toNat_lt
    have hhigh := hexValue?_digitChar (d := b.toNat / 16 % 16) (by omega)
    have hlow := hexValue?_digitChar (d := b.toNat % 16) (by omega)
    have hbyte : b.toNat / 16 % 16 * 16 + b.toNat % 16 = b.toNat := by omega
    have hpair := Pairs.pair hhigh hlow ih
    rw [hbyte] at hpair
    exact hpair

/-- The notation of a color has a number sign and eight digits, to which the blanks and number signs
that are dropped do not belong. -/
theorem digitsOf_text (c : Color) :
    digitsOf c.text = c.channels.flatMap fun b => hexDigits 2 b.toNat := by
  have hdigits := (pairs_hexDigits c.channels).isSome_of_length rfl
  obtain ⟨digits, hd⟩ : ∃ digits, (c.channels.flatMap fun b => hexDigits 2 b.toNat) = digits :=
    ⟨_, rfl⟩
  rw [hd] at hdigits ⊢
  have hshown : ∀ d ∈ '#' :: digits, isBlank d = false := by
    rw [List.forall_mem_cons]
    refine ⟨by decide, fun d hmem => ?_⟩
    obtain ⟨n, hn⟩ := Option.isSome_iff_exists.1 (hdigits d hmem)
    exact isBlank_of_hexValue? hn
  have htrim : trimChars ('#' :: digits) = '#' :: digits :=
    stripWhile_eq_self_iff.2 ⟨fun d hhead => hshown d (List.mem_of_mem_head? hhead),
      fun d hlast => hshown d (List.mem_of_mem_getLast? hlast)⟩
  have hkeep : digits.dropWhile (· == '#') = digits := by
    cases digits with
    | nil => rfl
    | cons d rest =>
      refine List.dropWhile_cons_of_neg ?_
      intro hsign
      have hd := hdigits d List.mem_cons_self
      rw [beq_iff_eq.1 hsign] at hd
      cases hd
  rw [digitsOf, text, String.toList_ofList, hd, htrim, List.dropWhile_cons_of_pos rfl, hkeep]

theorem ofText_text (c : Color) : ofText c.text = .ok c := by
  have hpairs := pairs_hexDigits c.channels
  have hlength : (c.channels.flatMap fun b => hexDigits 2 b.toNat).length = 8 := rfl
  rw [ofText_eq_ok_iff, digitsOf_text]
  exact Or.inl ⟨hpairs.isSome_of_length rfl, Or.inl ⟨hlength, hpairs⟩⟩

/-- Apart from blanks around them and number signs in front, six or eight hexadecimal digits are read as
the color that they write, and so are three pairs with two gaps; nothing else is read. A color is read
back from its notation, so that of whatever is read the notation is read as the same. -/
theorem ofText_exact (value : String) :
    (∀ c, ofText value = .ok c ↔ Writes (digitsOf value) c ∨ Gapped (digitsOf value) c) ∧
      ((∃ e, ofText value = .error e) ↔
        ∀ c, ¬Writes (digitsOf value) c ∧ ¬Gapped (digitsOf value) c) ∧
      ∀ c, ofText (text c) = .ok c := by
  refine ⟨fun c => ofText_eq_ok_iff, ?_, ofText_text⟩
  simp only [← not_or, ← ofText_eq_ok_iff]
  cases ofText value <;> simp

/-- Gaps are read between pairs of digits, where there should be digits alone. -/
theorem exists_ofText_gapped :
    ∃ value c, ofText value = .ok c ∧ ∀ d, ¬Writes (digitsOf value) d := by
  have hdigits : digitsOf "ff 00 00" = ['f', 'f', ' ', '0', '0', ' ', '0', '0'] := by decide +kernel
  have hfull : hexValue? 'f' = some 15 := rfl
  have hnone : hexValue? '0' = some 0 := rfl
  have hpairs : Pairs ['f', 'f', ' ', '0', '0', ' ', '0', '0'] [255, 0, 0] :=
    .pair hfull hfull (.gap rfl (.pair hnone hnone (.gap rfl (.pair hnone hnone .nil))))
  have hgapped : Gapped (digitsOf "ff 00 00") ⟨255, 0, 0, 255⟩ := by
    rw [hdigits]
    exact ⟨rfl, hpairs, rfl⟩
  refine ⟨"ff 00 00", _, ofText_eq_ok_iff.2 (Or.inr hgapped), fun d h => ?_⟩
  rw [hdigits] at h
  have hdigit : (hexValue? ' ').isSome = true := h.1 ' ' (by simp)
  cases hdigit

end VisualNovel.Color
