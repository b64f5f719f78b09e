/-!
# Decimal digits

Natural numbers written in decimal without leading zeros, integers with a minus sign, and the number that a
run of digits stands for.
-/

namespace AccessLog

namespace Decimal

def digit (n : Nat) : Char := Char.ofNat (48 + n)

def isDigit (c : Char) : Bool := 48 ≤ c.toNat && c.toNat ≤ 57

def digitValue (c : Char) : Nat := c.toNat - 48

def ofNat (n : Nat) : List Char :=
  if n < 10 then [digit n] else ofNat (n / 10) ++ [digit (n % 10)]

def ofInt : Int → List Char
  | .ofNat n => ofNat n
  | .negSucc n => '-' :: ofNat (n + 1)

def value (s : List Char) : Nat := s.foldl (fun n c => n * 10 + digitValue c) 0

/-- The last `width` digits, with zeros in front. -/
def padded : Nat → Nat → List Char
  | 0, _ => []
  | width + 1, n => padded width (n / 10) ++ [digit (n % 10)]

theorem value_append_digit (s : List Char) (c : Char) :
    value (s ++ [c]) = value s * 10 + digitValue c := by
  simp [value]

theorem digitValue_digit {n : Nat} (h : n < 10) : digitValue (digit n) = n := by
  have : n = 0 ∨ n = 1 ∨ n = 2 ∨ n = 3 ∨ n = 4 ∨ n = 5 ∨ n = 6 ∨ n = 7 ∨ n = 8 ∨ n = 9 := by omega
  rcases this with rfl | rfl | rfl | rfl | rfl | rfl | rfl | rfl | rfl | rfl <;> decide

theorem isDigit_digit {n : Nat} (h : n < 10) : isDigit (digit n) = true := by
  have : n = 0 ∨ n = 1 ∨ n = 2 ∨ n = 3 ∨ n = 4 ∨ n = 5 ∨ n = 6 ∨ n = 7 ∨ n = 8 ∨ n = 9 := by omega
  rcases this with rfl | rfl | rfl | rfl | rfl | rfl | rfl | rfl | rfl | rfl <;> decide

@[simp] theorem value_ofNat (n : Nat) : value (ofNat n) = n := by
  induction n using ofNat.induct with
  | case1 n h => rw [ofNat, if_pos h]; simp [value, digitValue_digit h]
  | case2 n h ih =>
    rw [ofNat, if_neg h, value_append_digit, ih, digitValue_digit (Nat.mod_lt _ (by decide))]
    omega

theorem isDigit_of_mem_ofNat {n : Nat} {c : Char} (h : c ∈ ofNat n) : isDigit c = true := by
  induction n using ofNat.induct with
  | case1 n hn =>
    rw [ofNat, if_pos hn, List.mem_singleton] at h
    exact h ▸ isDigit_digit hn
  | case2 n hn ih =>
    rw [ofNat, if_neg hn, List.mem_append, List.mem_singleton] at h
    rcases h with h | rfl
    · exact ih h
    · exact isDigit_digit (Nat.mod_lt _ (by decide))

theorem ofNat_ne_nil (n : Nat) : ofNat n ≠ [] := by
  rw [ofNat]; split <;> simp

@[simp] theorem length_padded (width n : Nat) : (padded width n).length = width := by
  induction width generalizing n with
  | zero => rfl
  | succ w ih => simp [padded, ih]

end Decimal

def natText (n : Nat) : String := String.ofList (Decimal.ofNat n)

def intText (n : Int) : String := String.ofList (Decimal.ofInt n)

end AccessLog
