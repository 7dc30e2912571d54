import VisualNovel.Proofs.Session.Action
import VisualNovel.Settings.Basic

/-!
# Channels of colors

A channel is one byte. Where colors come from, be it a text of hexadecimal digits or a document of
settings, a channel is given by a number, and it is that number: none is too great for the byte.
-/
namespace VisualNovel

open VisualNovel.Text

namespace Color

variable {s : List Char} {value : String} {c : Color} {bytes : List UInt8}

/-- Pairs of hexadecimal digits, with gaps in front of a pair, and the numbers that they write. -/
inductive Pairs : List Char → List Nat → Prop where
  | nil : Pairs [] []
  | gap {c : Char} {s : List Char} {numbers : List Nat} (gap : isGap c = true) :
      Pairs s numbers → Pairs (c :: s) numbers
  | pair {c d : Char} {s : List Char} {high low : Nat} {numbers : List Nat}
      (first : hexValue? c = some high) (second : hexValue? d = some low) :
      Pairs s numbers → Pairs (c :: d :: s) ((high * 16 + low) :: numbers)

def numbers (c : Color) : List Nat :=
  c.channels.map UInt8.toNat

/-- A text writes the channels of a color, the last of which is full if it is left out. -/
def Spells (value : String) (c : Color) : Prop :=
  ∃ numbers, Pairs ((trimChars value.toList).dropWhile (· == '#')) numbers ∧
    (c.numbers = numbers ∨ c.numbers = numbers ++ [255])

theorem hexValue?_lt {c : Char} {n : Nat} (h : hexValue? c = some n) : n < 16 := by
  have h0 : ('0' : Char).val.toNat = 48 := rfl
  have h9 : ('9' : Char).val.toNat = 57 := rfl
  have ha : ('a' : Char).val.toNat = 97 := rfl
  have hf : ('f' : Char).val.toNat = 102 := rfl
  have hA : ('A' : Char).val.toNat = 65 := rfl
  have hF : ('F' : Char).val.toNat = 70 := rfl
  simp only [hexValue?, Bool.and_eq_true, decide_eq_true_eq, Char.le_def, UInt32.le_iff_toNat_le]
    at h
  have hpoint : c.toNat = c.val.toNat := rfl
  split at h
  · cases h
    omega
  · split at h
    · cases h
      omega
    · split at h
      · cases h
        omega
      · cases h

theorem pairs_of_readPairs : ∀ {s : List Char} {position : Nat} {bytes : List UInt8},
    readPairs position s = .ok bytes → Pairs s (bytes.map UInt8.toNat)
  | [], _, _, h => by
    cases h
    exact .nil
  | c :: r, position, bytes, h => by
    rw [readPairs.eq_def] at h
    by_cases hgap : isGap c = true
    · simp only [hgap, if_true] at h
      exact .gap hgap (pairs_of_readPairs h)
    cases hhigh : hexValue? c with
    | none => simp [hgap, hhigh] at h
    | some high =>
      cases r with
      | nil => simp [hgap, hhigh] at h
      | cons d r =>
        cases hlow : hexValue? d with
        | none => simp [hgap, hhigh, hlow] at h
        | some low =>
          simp only [hgap, hhigh, hlow] at h
          have hhigh16 := hexValue?_lt hhigh
          have hlow16 := hexValue?_lt hlow
          have hbyte : (UInt8.ofNat (high * 16 + low)).toNat = high * 16 + low := by
            rw [UInt8.toNat_ofNat']
            omega
          cases hrest : readPairs (position + 2) r with
          | error e =>
            rw [hrest] at h
            cases h
          | ok rest =>
            rw [hrest] at h
            cases h
            rw [List.map_cons, hbyte]
            exact .pair hhigh hlow (pairs_of_readPairs hrest)

theorem pairs_of_readBytes (h : readBytes s = .ok bytes) : Pairs s (bytes.map UInt8.toNat) := by
  rw [readBytes] at h
  split at h
  · cases h
  · exact pairs_of_readPairs h

theorem spells_of_ofText (h : ofText value = .ok c) : Spells value c := by
  simp only [ofText] at h
  split at h
  · cases h
  · obtain ⟨bytes, hbytes, hcolor⟩ := exists_of_bind h
    have hpairs := pairs_of_readBytes hbytes
    refine ⟨_, hpairs, ?_⟩
    split at hcolor
    · cases hcolor
      exact Or.inr rfl
    · cases hcolor
      exact Or.inl rfl
    · cases hcolor

end Color

namespace Settings

theorem channelRange_eq_none_iff {i : Int} : channelRange i = none ↔ 0 ≤ i ∧ i ≤ 255 := by
  rw [channelRange]
  split
  · simp only [reduceCtorEq, false_iff]
    omega
  · split
    · simp only [reduceCtorEq, false_iff]
      omega
    · simp only [true_iff]
      omega

/-- A channel of a document is an integer from 0 to 255, and no other one is taken. -/
theorem channel_eq_ok_iff {d : Datum} {b : UInt8} :
    channel d = .ok b ↔ integer d = .ok (b.toNat : Int) := by
  have hb := b.toNat_lt
  simp only [channel, integerThat]
  cases integer d with
  | error e => simp [Except.map]
  | ok i =>
    simp only [Except.ok.injEq]
    cases hrange : channelRange i with
    | some kind =>
      apply iff_of_false
      · intro h
        cases h
      · rintro rfl
        rw [channelRange_eq_none_iff.2 (by omega)] at hrange
        cases hrange
    | none =>
      have hi := channelRange_eq_none_iff.1 hrange
      have hbyte : (UInt8.ofNat i.toNat).toNat = i.toNat := by
        rw [UInt8.toNat_ofNat']
        omega
      simp only [Except.map, Except.ok.injEq]
      rw [← UInt8.toNat_inj, hbyte]
      omega

end Settings

end VisualNovel
