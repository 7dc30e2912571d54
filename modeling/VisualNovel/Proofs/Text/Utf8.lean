import VisualNovel.Text.Surrogate
import VisualNovel.Text.Utf8

/-!
# Decoding what was encoded

Every character is encoded in one to four bytes. The decoder reads such bytes back as the character
and goes on right behind them, so that decoding is the inverse of encoding and no two texts share
their bytes. It reads no other bytes: what it takes is the encoding of some text.
-/
namespace VisualNovel.Text.Utf8

/-- A character is no surrogate and lies below the end of the code space. -/
theorem char_range (c : Char) : c.toNat < 0xD800 ∨ (0xDFFF < c.toNat ∧ c.toNat < 0x110000) :=
  c.valid

theorem takeTail_cons {lo hi k acc n : Nat} {rest : List UInt8} {r : Nat × List UInt8}
    (hlo : lo ≤ 0x80 + n) (hhi : 0x80 + n ≤ hi) (hn : n < 64)
    (h : takeTail 0x80 0xBF k (acc * 64 + n) rest = .ok r) :
    takeTail lo hi (k + 1) acc (UInt8.ofNat (0x80 + n) :: rest) = .ok r := by
  have hb : (UInt8.ofNat (0x80 + n)).toNat = 0x80 + n :=
    UInt8.toNat_ofNat_of_lt' (show 0x80 + n < 256 by omega)
  have hm : (0x80 + n) % 64 = n := by omega
  rw [takeTail, hb, hm, h, if_pos (by simp [hlo, hhi])]

/-- A start byte with its continuation bytes is read as one character. -/
theorem decodeFrom_of_takeTail {n count lo hi offset : Nat} {rest : List UInt8} (b : Nat)
    (tail : List UInt8) (hb : b < 256) (start : continuation? b = some (count, lo, hi))
    (read : takeTail lo hi count (startBits b count) (tail ++ rest) = .ok (n, rest)) :
    decodeFrom offset (UInt8.ofNat b :: (tail ++ rest)) =
      (decodeFrom (offset + 1 + count) rest).map (Char.ofNat n :: ·) := by
  have hb' : (UInt8.ofNat b).toNat = b := UInt8.toNat_ofNat_of_lt' hb
  rw [← hb'] at start read
  rw [decodeFrom]
  simp only [start]
  split
  · rename_i h
    rw [read] at h
    cases h
  · rename_i h
    rw [read] at h
    cases h
    rfl

/-- What may follow the start byte of three: the byte after it has a narrower range behind the
first start byte and behind the one that leads to the surrogates. -/
private theorem continuation?_of_three {n : Nat} (low : 0x800 ≤ n) (high : n < 0x10000)
    (range : n < 0xD800 ∨ 0xDFFF < n) :
    ∃ lo hi, continuation? (0xE0 + n / 4096) = some (2, lo, hi) ∧
      lo ≤ 0x80 + n / 64 % 64 ∧ 0x80 + n / 64 % 64 ≤ hi := by
  unfold continuation?
  rw [if_neg (by omega), if_neg (by omega), if_neg (by omega)]
  by_cases h0 : 0xE0 + n / 4096 = 0xE0
  · rw [if_pos h0]
    exact ⟨_, _, rfl, by omega, by omega⟩
  rw [if_neg h0]
  by_cases hd : 0xE0 + n / 4096 = 0xED
  · rw [if_pos hd]
    exact ⟨_, _, rfl, by omega, by omega⟩
  rw [if_neg hd, if_pos (by omega)]
  exact ⟨_, _, rfl, by omega, by omega⟩

private theorem continuation?_of_four {n : Nat} (low : 0x10000 ≤ n) (high : n < 0x110000) :
    ∃ lo hi, continuation? (0xF0 + n / 262144) = some (3, lo, hi) ∧
      lo ≤ 0x80 + n / 4096 % 64 ∧ 0x80 + n / 4096 % 64 ≤ hi := by
  unfold continuation?
  rw [if_neg (by omega), if_neg (by omega), if_neg (by omega), if_neg (by omega),
    if_neg (by omega), if_neg (by omega)]
  by_cases h0 : 0xF0 + n / 262144 = 0xF0
  · rw [if_pos h0]
    exact ⟨_, _, rfl, by omega, by omega⟩
  rw [if_neg h0]
  by_cases h4 : 0xF0 + n / 262144 < 0xF4
  · rw [if_pos h4]
    exact ⟨_, _, rfl, by omega, by omega⟩
  rw [if_neg h4, if_pos (by omega)]
  exact ⟨_, _, rfl, by omega, by omega⟩

/-- The decoder reads the bytes of a character as that character. -/
theorem decodeFrom_encodeChar (offset : Nat) (c : Char) (rest : List UInt8) :
    decodeFrom offset (encodeChar c ++ rest) =
      (decodeFrom (offset + (encodeChar c).length) rest).map (c :: ·) := by
  have range := char_range c
  have back : Char.ofNat c.toNat = c := Char.ofNat_toNat c
  generalize hn : c.toNat = n at range back
  simp only [encodeChar, hn]
  rw [← back]
  split
  · have start : continuation? n = some (0, 0x80, 0xBF) := by
      rw [continuation?, if_pos (by omega)]
    exact decodeFrom_of_takeTail n [] (by omega) start rfl
  split
  · have start : continuation? (0xC0 + n / 64) = some (1, 0x80, 0xBF) := by
      rw [continuation?, if_neg (by omega), if_neg (by omega), if_pos (by omega)]
    refine decodeFrom_of_takeTail (0xC0 + n / 64) [_] (by omega) start ?_
    refine takeTail_cons (by omega) (by omega) (by omega) ?_
    rw [takeTail, startBits, show (0xC0 + n / 64) % 32 * 64 + n % 64 = n by omega]
    rfl
  split
  · obtain ⟨lo, hi, start, hlo, hhi⟩ := @continuation?_of_three n (by omega) (by omega)
      (by omega)
    refine decodeFrom_of_takeTail (0xE0 + n / 4096) [_, _] (by omega) start ?_
    refine takeTail_cons hlo hhi (by omega) (takeTail_cons (by omega) (by omega) (by omega) ?_)
    rw [takeTail, startBits,
      show ((0xE0 + n / 4096) % 16 * 64 + n / 64 % 64) * 64 + n % 64 = n by omega]
    rfl
  · obtain ⟨lo, hi, start, hlo, hhi⟩ := @continuation?_of_four n (by omega) (by omega)
    refine decodeFrom_of_takeTail (0xF0 + n / 262144) [_, _, _] (by omega) start ?_
    refine takeTail_cons hlo hhi (by omega) (takeTail_cons (by omega) (by omega) (by omega)
      (takeTail_cons (by omega) (by omega) (by omega) ?_))
    have bits : startBits (0xF0 + n / 262144) 3 = (0xF0 + n / 262144) % 8 := rfl
    rw [takeTail, bits, show (((0xF0 + n / 262144) % 8 * 64 + n / 4096 % 64) * 64 +
      n / 64 % 64) * 64 + n % 64 = n by omega]
    rfl

theorem decodeFrom_encode (offset : Nat) (s : List Char) :
    decodeFrom offset (encode s) = .ok s := by
  induction s generalizing offset with
  | nil => rw [encode, List.flatMap_nil, decodeFrom]
  | cons c r ih =>
    rw [encode, List.flatMap_cons, decodeFrom_encodeChar]
    rw [encode] at ih
    rw [ih]
    rfl

/-- Decoding is the inverse of encoding. -/
theorem decode_encode (s : List Char) : decode (encode s) = .ok s :=
  decodeFrom_encode 0 s

theorem encode_inj {s t : List Char} (h : encode s = encode t) : s = t := by
  have hd := congrArg decode h
  rw [decode_encode, decode_encode] at hd
  exact Except.ok.inj hd

theorem encodeString_inj {s t : String} (h : encodeString s = encodeString t) : s = t :=
  String.toList_injective (encode_inj h)

theorem encode_append (s t : List Char) : encode (s ++ t) = encode s ++ encode t :=
  List.flatMap_append

theorem exists_of_takeTail {lo hi k acc : Nat} {bytes : List UInt8} {r : Nat × List UInt8}
    (hlo : 0x80 ≤ lo) (hhi : hi ≤ 0xBF) (h : takeTail lo hi (k + 1) acc bytes = .ok r) :
    ∃ n rest, bytes = UInt8.ofNat (0x80 + n) :: rest ∧ n < 64 ∧ lo ≤ 0x80 + n ∧ 0x80 + n ≤ hi ∧
      takeTail 0x80 0xBF k (acc * 64 + n) rest = .ok r := by
  cases bytes with
  | nil => cases h
  | cons b rest =>
    rw [takeTail] at h
    split at h
    · rename_i hrange
      simp only [Bool.and_eq_true, decide_eq_true_eq] at hrange
      split at h
      · rename_i hrest
        cases h
        refine ⟨b.toNat - 0x80, rest, ?_, by omega, by omega, by omega, ?_⟩
        · rw [show 0x80 + (b.toNat - 0x80) = b.toNat by omega, UInt8.ofNat_toNat]
        · rw [← hrest, show b.toNat - 0x80 = b.toNat % 64 by omega]
      · cases h
    · cases h

/-- What a start byte announces: the number of the bytes behind it, and a range of the first of them
that leaves out the surrogates, what is beyond the last character, and what has a shorter form. -/
theorem continuation?_cases {b count lo hi : Nat} (h : continuation? b = some (count, lo, hi)) :
    (count = 0 ∧ b < 0x80) ∨
    (count = 1 ∧ 0xC2 ≤ b ∧ b < 0xE0 ∧ lo = 0x80 ∧ hi = 0xBF) ∨
    (count = 2 ∧ 0xE0 ≤ b ∧ b < 0xF0 ∧ 0x80 ≤ lo ∧ hi ≤ 0xBF ∧ (b = 0xE0 → 0xA0 ≤ lo) ∧
      (b = 0xED → hi ≤ 0x9F)) ∨
    (count = 3 ∧ 0xF0 ≤ b ∧ b < 0xF5 ∧ 0x80 ≤ lo ∧ hi ≤ 0xBF ∧ (b = 0xF0 → 0x90 ≤ lo) ∧
      (b = 0xF4 → hi ≤ 0x8F)) := by
  unfold continuation? at h
  repeat' split at h
  all_goals
    cases h <;> omega

/-- Bytes that are read as a character are the bytes of that character. -/
theorem encodeChar_of_takeTail {b : UInt8} {count lo hi n : Nat} {bytes rest : List UInt8}
    (start : continuation? b.toNat = some (count, lo, hi))
    (read : takeTail lo hi count (startBits b.toNat count) bytes = .ok (n, rest)) :
    encodeChar (Char.ofNat n) ++ rest = b :: bytes := by
  have hbyte : UInt8.ofNat b.toNat = b := UInt8.ofNat_toNat
  obtain ⟨rfl, hb⟩ | ⟨rfl, hlow, hhigh, rfl, rfl⟩ | ⟨rfl, hlow, hhigh, hlo, hhi, hshort, hsurrogate⟩ |
    ⟨rfl, hlow, hhigh, hlo, hhi, hshort, hlast⟩ := continuation?_cases start
  · cases read
    have hn : (Char.ofNat b.toNat).toNat = b.toNat := toNat_ofNat_of_isValidChar (by left; omega)
    rw [startBits, encodeChar, hn, if_pos hb, hbyte]
    rfl
  · obtain ⟨m, tail, rfl, hm, -, -, hread⟩ := exists_of_takeTail (by omega) (by omega) read
    cases hread
    have hn := toNat_ofNat_of_isValidChar (n := b.toNat % 32 * 64 + m) (by left; omega)
    rw [startBits, encodeChar, hn, if_neg (by omega), if_pos (by omega)]
    rw [show 0xC0 + (b.toNat % 32 * 64 + m) / 64 = b.toNat by omega,
      show (b.toNat % 32 * 64 + m) % 64 = m by omega, hbyte]
    rfl
  · obtain ⟨m, tail, rfl, hm, hmlo, hmhi, hread⟩ := exists_of_takeTail hlo hhi read
    obtain ⟨k, tail, rfl, hk, -, -, hread⟩ := exists_of_takeTail (by omega) (by omega) hread
    cases hread
    have hn := toNat_ofNat_of_isValidChar (n := (b.toNat % 16 * 64 + m) * 64 + k) (by
      rw [Nat.isValidChar]
      omega)
    rw [startBits, encodeChar, hn, if_neg (by omega), if_neg (by omega), if_pos (by omega)]
    rw [show 0xE0 + ((b.toNat % 16 * 64 + m) * 64 + k) / 4096 = b.toNat by omega,
      show ((b.toNat % 16 * 64 + m) * 64 + k) / 64 % 64 = m by omega,
      show ((b.toNat % 16 * 64 + m) * 64 + k) % 64 = k by omega, hbyte]
    rfl
  · obtain ⟨m, tail, rfl, hm, hmlo, hmhi, hread⟩ := exists_of_takeTail hlo hhi read
    obtain ⟨k, tail, rfl, hk, -, -, hread⟩ := exists_of_takeTail (by omega) (by omega) hread
    obtain ⟨j, tail, rfl, hj, -, -, hread⟩ := exists_of_takeTail (by omega) (by omega) hread
    cases hread
    have hn := toNat_ofNat_of_isValidChar
      (n := ((b.toNat % 8 * 64 + m) * 64 + k) * 64 + j) (by
        rw [Nat.isValidChar]
        omega)
    have bits : startBits b.toNat 3 = b.toNat % 8 := rfl
    rw [bits, encodeChar, hn, if_neg (by omega), if_neg (by omega), if_neg (by omega)]
    rw [show 0xF0 + (((b.toNat % 8 * 64 + m) * 64 + k) * 64 + j) / 262144 = b.toNat by omega,
      show (((b.toNat % 8 * 64 + m) * 64 + k) * 64 + j) / 4096 % 64 = m by omega,
      show (((b.toNat % 8 * 64 + m) * 64 + k) * 64 + j) / 64 % 64 = k by omega,
      show (((b.toNat % 8 * 64 + m) * 64 + k) * 64 + j) % 64 = j by omega, hbyte]
    rfl

theorem encode_of_decodeFrom {offset : Nat} {bytes : List UInt8} {s : List Char}
    (h : decodeFrom offset bytes = .ok s) : encode s = bytes := by
  induction hlength : bytes.length using Nat.strongRecOn generalizing offset bytes s with
  | ind length ih =>
    cases bytes with
    | nil =>
      rw [decodeFrom] at h
      cases h
      rfl
    | cons b rest =>
      rw [decodeFrom] at h
      split at h
      · cases h
      · rename_i count lo hi start
        split at h
        · cases h
        · rename_i n rest' read
          cases htail : decodeFrom (offset + 1 + count) rest' with
          | error e =>
            rw [htail] at h
            cases h
          | ok tail =>
            rw [htail] at h
            cases h
            have hshorter : rest'.length < length := by
              have := takeTail_length read
              rw [← hlength, List.length_cons]
              omega
            rw [encode, List.flatMap_cons, ← encode, ih _ hshorter htail rfl]
            exact encodeChar_of_takeTail start read

/-- Bytes are decoded exactly if they encode a text, which is then the one that they are decoded to. -/
theorem decode_eq_ok_iff {bytes : List UInt8} {s : List Char} :
    decode bytes = .ok s ↔ bytes = encode s := by
  constructor
  · exact fun h => (encode_of_decodeFrom h).symm
  · rintro rfl
    exact decode_encode s

end VisualNovel.Text.Utf8
