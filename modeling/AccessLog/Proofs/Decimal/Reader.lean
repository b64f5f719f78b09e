import AccessLog.Decimal.Reader

/-!
# What an integer is read from

A positive integer is read from one or more digits, perhaps behind a plus sign, whose number is in the range, and from
nothing else: what stands behind a minus sign is never positive. An unsigned integer is read from nothing else either. What
is wrong with another text depends on the digits in front of it: they make too great a number, or something follows them.
-/

namespace AccessLog

namespace Decimal

/-- One or more digits with this number, perhaps behind a plus sign. -/
def Spells (s : List Char) (n : Nat) : Prop :=
  ∃ digits, (s = digits ∨ s = '+' :: digits) ∧ digits ≠ [] ∧ digits.all isDigit = true ∧ value digits = n

def body : List Char → List Char
  | '+' :: rest => rest
  | s => s

theorem body_of_ne {c : Char} (h : c ≠ '+') (rest : List Char) : body (c :: rest) = c :: rest := by
  simp [body, h]

def valueFrom (n : Nat) (digits : List Char) : Nat := digits.foldl (fun n c => n * 10 + digitValue c) n

theorem valueFrom_cons (n : Nat) (c : Char) (rest : List Char) :
    valueFrom n (c :: rest) = valueFrom (n * 10 + digitValue c) rest := List.foldl_cons ..

theorem le_valueFrom (n : Nat) (digits : List Char) : n ≤ valueFrom n digits := by
  induction digits generalizing n with
  | nil => exact Nat.le_refl n
  | cons c rest ih =>
    have shifted : n ≤ n * 10 + digitValue c := by omega
    exact Nat.le_trans shifted (ih _)

theorem ne_of_isDigit {c d : Char} (hc : isDigit c = true) (hd : isDigit d = false) : c ≠ d := by
  rintro rfl
  rw [hc] at hd
  cases hd

end Decimal

namespace IntegerRange

open Decimal (isDigit digitValue valueFrom Spells)

variable {r : IntegerRange}

/-- The digits are read one by one, but only the number of all of them counts: those on the way are smaller. What is not
a digit counts only if the digits in front of it are not too many. -/
theorem readUp_eq {n : Nat} {digits : List Char} (hn : (n : Int) ≤ r.greatest) :
    r.readUp n digits =
      if r.greatest < valueFrom n (digits.takeWhile isDigit) then .error .tooLarge
      else if digits.all isDigit then .ok (valueFrom n digits : Int) else .error .invalidDigit := by
  induction digits generalizing n with
  | nil => exact (if_neg (Int.not_lt.mpr hn)).symm
  | cons c rest ih =>
    rw [readUp, Decimal.valueFrom_cons, List.all_cons, List.takeWhile_cons]
    cases hc : isDigit c with
    | false => exact (if_neg (Int.not_lt.mpr hn)).symm
    | true =>
      have next : (n : Int) * 10 + digitValue c = ((n * 10 + digitValue c : Nat) : Int) := by omega
      rw [if_neg (by decide), if_pos rfl, Decimal.valueFrom_cons, Bool.true_and, next]
      by_cases hg : ((n * 10 + digitValue c : Nat) : Int) ≤ r.greatest
      · rw [if_neg (Int.not_lt.mpr hg), ih hg]
      · have grows := Decimal.le_valueFrom (n * 10 + digitValue c) (rest.takeWhile isDigit)
        have above : r.greatest < valueFrom (n * 10 + digitValue c) (rest.takeWhile isDigit) := by omega
        rw [if_pos (Int.not_le.mp hg), if_pos above]

theorem readUp_eq_ok {n : Nat} {digits : List Char} {m : Int} (hn : (n : Int) ≤ r.greatest) :
    r.readUp n digits = .ok m ↔
      digits.all isDigit = true ∧ m = valueFrom n digits ∧ (valueFrom n digits : Int) ≤ r.greatest := by
  rw [readUp_eq hn]
  cases hd : digits.all isDigit with
  | false =>
    split
    · simp
    · simp
  | true =>
    have self : digits.takeWhile isDigit = digits := by
      rw [← List.append_nil digits, List.takeWhile_append_of_pos (List.all_eq_true.mp hd), List.takeWhile_nil]
    rw [self]
    by_cases hg : r.greatest < valueFrom n digits
    · rw [if_pos hg]
      constructor
      · nofun
      · rintro ⟨-, -, hv⟩
        exact absurd hg (Int.not_lt.mpr hv)
    · rw [if_neg hg, if_pos rfl, Except.ok.injEq]
      exact ⟨fun h => ⟨rfl, h.symm, Int.not_lt.mp hg⟩, fun h => h.2.1.symm⟩

theorem readUp_zero_eq_ok {digits : List Char} {m : Int} (hg : 0 ≤ r.greatest) :
    r.readUp 0 digits = .ok m ↔
      digits.all isDigit = true ∧ m = Decimal.value digits ∧ (Decimal.value digits : Int) ≤ r.greatest :=
  readUp_eq_ok (n := 0) hg

theorem nonpos_of_readDown {n m : Int} {digits : List Char} (hn : n ≤ 0) (h : r.readDown n digits = .ok m) :
    m ≤ 0 := by
  induction digits generalizing n with
  | nil =>
    obtain rfl := Except.ok.inj h
    exact hn
  | cons c rest ih =>
    unfold readDown at h
    split at h
    · cases h
    split at h
    · cases h
    have below : n * 10 - digitValue c ≤ 0 := by omega
    exact ih below h

theorem read_of_unsigned {c : Char} (plus : c ≠ '+') (minus : c ≠ '-') (rest : List Char) :
    r.read (c :: rest) = r.readUp 0 (c :: rest) := by
  simp [read, plus, minus]

theorem read_cases {s : List Char} {m : Int} (hg : 0 ≤ r.greatest) (h : r.read s = .ok m) :
    (∃ n, Spells s n ∧ (n : Int) ≤ r.greatest ∧ m = n) ∨ (r.least < 0 ∧ m ≤ 0) := by
  cases s with
  | nil => cases h
  | cons c rest =>
    by_cases plus : c = '+'
    · subst plus
      cases rest with
      | nil => cases h
      | cons d rest =>
        obtain ⟨hd, hm, hn⟩ := (readUp_zero_eq_ok hg).mp h
        exact .inl ⟨_, ⟨d :: rest, .inr rfl, nofun, hd, rfl⟩, hn, hm⟩
    · by_cases minus : c = '-'
      · subst minus
        cases rest with
        | nil => cases h
        | cons d rest =>
          have negative : (if r.least < 0 then r.readDown 0 (d :: rest) else .error .invalidDigit) = .ok m := h
          split at negative
          · case isTrue signed => exact .inr ⟨signed, nonpos_of_readDown (Int.le_refl 0) negative⟩
          · cases negative
      · rw [read_of_unsigned plus minus] at h
        obtain ⟨hd, hm, hn⟩ := (readUp_zero_eq_ok hg).mp h
        exact .inl ⟨_, ⟨c :: rest, .inl rfl, nofun, hd, rfl⟩, hn, hm⟩

theorem read_of_spells {s : List Char} {n : Nat} (hs : Spells s n) (hn : (n : Int) ≤ r.greatest) :
    r.read s = .ok (n : Int) := by
  obtain ⟨digits, hs, hne, hd, rfl⟩ := hs
  have read : r.readUp 0 digits = .ok (Decimal.value digits : Int) :=
    (readUp_zero_eq_ok (by omega)).mpr ⟨hd, rfl, hn⟩
  obtain ⟨c, rest, rfl⟩ := List.exists_cons_of_ne_nil hne
  rcases hs with rfl | rfl
  · have hc : isDigit c = true := List.all_eq_true.mp hd c (List.mem_cons_self ..)
    have plus := Decimal.ne_of_isDigit hc (show isDigit '+' = false by decide)
    have minus := Decimal.ne_of_isDigit hc (show isDigit '-' = false by decide)
    rw [read_of_unsigned plus minus, read]
  · exact read

theorem read_eq_ok_of_pos {s : List Char} {n : Nat} (hg : 0 ≤ r.greatest) (positive : 0 < n) :
    r.read s = .ok (n : Int) ↔ Spells s n ∧ (n : Int) ≤ r.greatest := by
  constructor
  · intro h
    rcases read_cases hg h with ⟨m, hs, hm, same⟩ | ⟨-, negative⟩
    · obtain rfl := Int.ofNat_inj.mp same
      exact ⟨hs, hm⟩
    · omega
  · rintro ⟨hs, hn⟩
    exact read_of_spells hs hn

theorem read_unsigned_eq_ok {bits : Nat} {s : List Char} {m : Int} :
    (unsigned bits).read s = .ok m ↔ ∃ n, Spells s n ∧ n < Nat.pow 2 bits ∧ m = n := by
  have fits (n : Nat) : (n : Int) ≤ (unsigned bits).greatest ↔ n < Nat.pow 2 bits := by
    change (n : Int) ≤ (Nat.pow 2 bits : Int) - 1 ↔ _
    omega
  constructor
  · intro h
    rcases read_cases ((fits 0).mpr (Nat.pow_pos (by decide))) h with ⟨n, hs, hn, hm⟩ | ⟨signed, -⟩
    · exact ⟨n, hs, (fits n).mp hn, hm⟩
    · exact absurd signed (Int.lt_irrefl 0)
  · rintro ⟨n, hs, hn, rfl⟩
    exact read_of_spells hs ((fits n).mpr hn)

/-- What is wrong with a text that spells no number of so many bits: the digits at its beginning alone are too many, or
something that is not a digit stands there. -/
def complaint (bits : Nat) (s : List Char) : IntegerError :=
  if Nat.pow 2 bits ≤ Decimal.value ((Decimal.body s).takeWhile isDigit) then .tooLarge else .invalidDigit

theorem complaint_of_readUp {bits : Nat} {digits : List Char} {e : IntegerError}
    (h : (unsigned bits).readUp 0 digits = .error e) :
    e = if Nat.pow 2 bits ≤ Decimal.value (digits.takeWhile isDigit) then .tooLarge else .invalidDigit := by
  have positive : 0 < Nat.pow 2 bits := Nat.pow_pos (by decide)
  have greatest : (unsigned bits).greatest = (Nat.pow 2 bits : Int) - 1 := rfl
  have closed : (unsigned bits).readUp 0 digits = _ := readUp_eq (n := 0) (by omega)
  have number : valueFrom 0 (digits.takeWhile isDigit) = Decimal.value (digits.takeWhile isDigit) := rfl
  rw [closed, number] at h
  split at h
  · case isTrue large =>
    rw [if_pos (by omega)]
    exact (Except.error.inj h).symm
  · case isFalse small =>
    rw [if_neg (by omega)]
    split at h
    · cases h
    · exact (Except.error.inj h).symm

theorem eq_complaint_of_read {bits : Nat} {s : List Char} {e : IntegerError} (hs : s ≠ [])
    (h : (unsigned bits).read s = .error e) : e = complaint bits s := by
  have positive : 0 < Nat.pow 2 bits := Nat.pow_pos (by decide)
  have undigited {digits : List Char} (hd : digits.takeWhile isDigit = []) :
      (if Nat.pow 2 bits ≤ Decimal.value (digits.takeWhile isDigit) then .tooLarge else .invalidDigit) =
        IntegerError.invalidDigit := by
    rw [hd]
    exact if_neg (Nat.not_le.mpr positive)
  obtain ⟨c, rest, rfl⟩ := List.exists_cons_of_ne_nil hs
  by_cases plus : c = '+'
  · subst plus
    cases rest with
    | nil =>
      obtain rfl := Except.error.inj h
      exact (undigited rfl).symm
    | cons d rest => exact complaint_of_readUp h
  by_cases minus : c = '-'
  · subst minus
    have invalid : e = .invalidDigit := by
      cases rest with
      | nil => exact (Except.error.inj h).symm
      | cons d rest => exact (Except.error.inj h).symm
    exact invalid.trans (undigited rfl).symm
  · rw [read_of_unsigned plus minus] at h
    rw [complaint, Decimal.body_of_ne plus]
    exact complaint_of_readUp h

end IntegerRange

end AccessLog
