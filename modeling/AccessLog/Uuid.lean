/-!
# Identifiers

A UUID is a number below 2 ^ 128. Its canonical text is 32 lower-case hexadecimal digits in groups of
8, 4, 4, 4 and 12, joined by hyphens.
-/

namespace AccessLog

structure Uuid where
  value : Nat
  value_lt : value < 0x1_0000_0000_0000_0000_0000_0000_0000_0000 := by decide
  deriving DecidableEq, Repr

namespace Uuid

theorem ext_value {a b : Uuid} (h : a.value = b.value) : a = b := by
  cases a; cases b; simp_all

def count : Nat := 0x1_0000_0000_0000_0000_0000_0000_0000_0000

def ofNat (n : Nat) : Uuid := ⟨n % count, Nat.mod_lt _ (by decide)⟩

instance : Inhabited Uuid := ⟨⟨0, by decide⟩⟩

def hexDigit (n : Nat) : Char := if n < 10 then Char.ofNat (48 + n) else Char.ofNat (87 + n)

def hexDigits : Nat → Nat → List Char
  | 0, _ => []
  | width + 1, n => hexDigits width (n / 16) ++ [hexDigit (n % 16)]

def grouped (digits : List Char) : List Char :=
  digits.take 8 ++ '-' :: (digits.drop 8).take 4 ++ '-' :: (digits.drop 12).take 4
    ++ '-' :: (digits.drop 16).take 4 ++ '-' :: digits.drop 20

def chars (u : Uuid) : List Char := grouped (hexDigits 32 u.value)

def text (u : Uuid) : String := String.ofList u.chars

def versionPlace : Nat := 0x1000_0000_0000_0000_0000

def variantPlace : Nat := 0x4000_0000_0000_0000

def withDigit (base place digit n : Nat) : Nat := n - n / place % base * place + digit * place

/-- The identifier with the bits of a random one set: version 4, and the variant `10`. -/
def random (n : Nat) : Uuid :=
  ofNat (withDigit 4 variantPlace 2 (withDigit 16 versionPlace 4 (n % count)))

@[simp] theorem length_hexDigits (width n : Nat) : (hexDigits width n).length = width := by
  induction width generalizing n with
  | zero => rfl
  | succ w ih => simp [hexDigits, ih]

end Uuid

end AccessLog
