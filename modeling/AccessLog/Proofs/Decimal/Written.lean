import AccessLog.Proofs.Decimal.Reader

/-!
# Written numbers

A number is written in as many digits as its size takes, and without zeros in front. Whatever digits have none in front
are how their number is written.
-/

namespace AccessLog

namespace Decimal

theorem head?_ofNat_ne_zero {n : Nat} (h : 0 < n) : (ofNat n).head? ≠ some '0' := by
  induction n using ofNat.induct with
  | case1 n hn =>
    rw [ofNat, if_pos hn, List.head?_cons]
    intro h0
    have hv := digitValue_digit hn
    rw [Option.some.inj h0] at hv
    simp [digitValue] at hv
    omega
  | case2 n hn ih =>
    rw [ofNat, if_neg hn, List.head?_append, List.head?_eq_some_head (ofNat_ne_nil _),
      Option.some_or, ← List.head?_eq_some_head]
    exact ih (by omega)

theorem head?_ofNat_of_long {n : Nat} (h : 1 < (ofNat n).length) : (ofNat n).head? ≠ some '0' := by
  refine head?_ofNat_ne_zero (Nat.pos_of_ne_zero ?_)
  rintro rfl
  rw [ofNat] at h
  exact Nat.lt_irrefl 1 h

theorem length_ofNat_le {n width : Nat} (hn : n < Nat.pow 10 (width + 1)) : (ofNat n).length ≤ width + 1 := by
  induction width generalizing n with
  | zero =>
    rw [ofNat, if_pos hn]
    exact Nat.le_refl 1
  | succ width ih =>
    rw [ofNat]
    split
    · simp
    · have power : Nat.pow 10 (width + 1 + 1) = Nat.pow 10 (width + 1) * 10 := rfl
      have tenth : n / 10 < Nat.pow 10 (width + 1) := by omega
      rw [List.length_append]
      exact Nat.succ_le_succ (ih tenth)

theorem digitValue_lt {c : Char} (h : isDigit c = true) : digitValue c < 10 := by
  simp only [isDigit, Bool.and_eq_true, decide_eq_true_eq] at h
  unfold digitValue
  omega

theorem digit_digitValue {c : Char} (h : isDigit c = true) : digit (digitValue c) = c := by
  simp only [isDigit, Bool.and_eq_true, decide_eq_true_eq] at h
  have code : 48 + (c.toNat - 48) = c.toNat := by omega
  rw [digit, digitValue, code, Char.ofNat_toNat]

theorem ofNat_append {n : Nat} {digits : List Char} (hn : 0 < n) (hd : digits.all isDigit = true) :
    ofNat n ++ digits = ofNat (valueFrom n digits) := by
  induction digits generalizing n with
  | nil => exact List.append_nil _
  | cons c rest ih =>
    rw [List.all_cons, Bool.and_eq_true] at hd
    have last := digitValue_lt hd.1
    have shifted : ofNat (n * 10 + digitValue c) = ofNat n ++ [c] := by
      have front : (n * 10 + digitValue c) / 10 = n := by omega
      have back : (n * 10 + digitValue c) % 10 = digitValue c := by omega
      rw [ofNat, if_neg (by omega), front, back, digit_digitValue hd.1]
    rw [valueFrom_cons, ← ih (by omega) hd.2, shifted, List.append_assoc, List.singleton_append]

theorem eq_ofNat {t : List Char} (hne : t ≠ []) (hd : t.all isDigit = true)
    (plain : 1 < t.length → t.head? ≠ some '0') : t = ofNat (value t) := by
  obtain ⟨c, rest, rfl⟩ := List.exists_cons_of_ne_nil hne
  rw [List.all_cons, Bool.and_eq_true] at hd
  have first : ofNat (digitValue c) = [c] := by
    rw [ofNat, if_pos (digitValue_lt hd.1), digit_digitValue hd.1]
  have number : value (c :: rest) = valueFrom (digitValue c) rest := by
    rw [show value (c :: rest) = valueFrom 0 (c :: rest) from rfl, valueFrom_cons, Nat.zero_mul, Nat.zero_add]
  rw [number]
  cases rest with
  | nil => exact first.symm
  | cons d rest =>
    have positive : 0 < digitValue c := by
      refine Nat.pos_of_ne_zero fun zero => plain (by simp) ?_
      rw [List.head?_cons, ← digit_digitValue hd.1, zero]
      rfl
    rw [← ofNat_append positive hd.2, first, List.singleton_append]

end Decimal

end AccessLog
