/-!
# Decimal digits

The decimal digits of all scripts. In every script the ten digits are consecutive, so the table
holds the code points of the zeros.
-/
namespace VisualNovel.Text

def zeros : List Nat := [
  48, 1632, 1776, 1984, 2406, 2534, 2662, 2790, 2918, 3046, 3174, 3302, 3430, 3558, 3664, 3792,
  3872, 4160, 4240, 6112, 6160, 6470, 6608, 6784, 6800, 6992, 7088, 7232, 7248, 42528, 43216,
  43264, 43472, 43504, 43600, 44016, 65296, 66720, 68912, 69734, 69872, 69942, 70096, 70384,
  70736, 70864, 71248, 71360, 71472, 71904, 72016, 72784, 73040, 73120, 92768, 92864, 93008,
  120782, 120792, 120802, 120812, 120822, 123200, 123632, 125264, 130032]

def digitValue? (c : Char) : Option Nat :=
  let n := c.toNat
  (zeros.find? fun z => z ≤ n && n ≤ z + 9).map fun z => n - z

def isAsciiDigit (c : Char) : Bool :=
  '0' ≤ c && c ≤ '9'

def hexValue? (c : Char) : Option Nat :=
  if '0' ≤ c && c ≤ '9' then some (c.toNat - 48)
  else if 'a' ≤ c && c ≤ 'f' then some (c.toNat - 87)
  else if 'A' ≤ c && c ≤ 'F' then some (c.toNat - 55)
  else none

def digitChar (n : Nat) : Char :=
  if n < 10 then Char.ofNat (48 + n) else Char.ofNat (87 + n)

/-- The number that a list of digit values writes in a base, most significant first. -/
def ofDigits (base : Nat) (ds : List Nat) : Nat :=
  ds.foldl (fun acc d => acc * base + d) 0

def natDigits (base n : Nat) : List Char :=
  if h : n < base ∨ base < 2 then [digitChar n]
  else
    have : n / base < n := Nat.div_lt_self (by omega) (by omega)
    natDigits base (n / base) ++ [digitChar (n % base)]

theorem digitValue?_digitChar {d : Nat} (h : d < 10) : digitValue? (digitChar d) = some d := by
  have : ∀ d, d < 10 → digitValue? (digitChar d) = some d := by decide +kernel
  exact this d h

theorem isAsciiDigit_digitChar {d : Nat} (h : d < 10) : isAsciiDigit (digitChar d) = true := by
  have : ∀ d, d < 10 → isAsciiDigit (digitChar d) = true := by decide +kernel
  exact this d h

theorem ofDigits_append_singleton (base : Nat) (ds : List Nat) (d : Nat) :
    ofDigits base (ds ++ [d]) = ofDigits base ds * base + d := by
  simp [ofDigits]

theorem natDigits_ten (n : Nat) :
    natDigits 10 n = if n < 10 then [digitChar n] else natDigits 10 (n / 10) ++ [digitChar (n % 10)] := by
  rw [natDigits]
  by_cases h : n < 10 <;> simp [h]

/-- The decimal digits of a number are read back as the number. -/
theorem ofDigits_natDigits (n : Nat) : ofDigits 10 ((natDigits 10 n).filterMap digitValue?) = n := by
  induction n using Nat.strongRecOn with
  | ind n ih =>
    rw [natDigits_ten]
    by_cases h : n < 10
    · simp [h, digitValue?_digitChar h, ofDigits]
    · have hd : n % 10 < 10 := Nat.mod_lt _ (by omega)
      simp only [h, if_false, List.filterMap_append]
      rw [show [digitChar (n % 10)].filterMap digitValue? = [n % 10] by
        simp [digitValue?_digitChar hd]]
      rw [ofDigits_append_singleton, ih (n / 10) (by omega)]
      omega

theorem all_isAsciiDigit_natDigits (n : Nat) : (natDigits 10 n).all isAsciiDigit = true := by
  induction n using Nat.strongRecOn with
  | ind n ih =>
    rw [natDigits_ten]
    by_cases h : n < 10
    · simp [h, isAsciiDigit_digitChar h]
    · have hd : n % 10 < 10 := Nat.mod_lt _ (by omega)
      simp only [h, if_false, List.all_append, List.all_cons, List.all_nil, Bool.and_true,
        isAsciiDigit_digitChar hd]
      exact ih (n / 10) (by omega)

def natText (n : Nat) : String :=
  String.ofList (natDigits 10 n)

def intText (i : Int) : String :=
  if i < 0 then "-" ++ natText i.natAbs else natText i.natAbs

end VisualNovel.Text
