import AccessLog.Decimal.Shortest
import AccessLog.Proofs.Decimal.Written
import Mathlib

/-!
# Whole numbers as doubles

A whole number below 2 ^ 53 is a double, since it is not rounded. Its shortest decimal has the digits of the number and
perhaps zeros behind them, so that the plain layout writes the number as it is.
-/

namespace AccessLog

namespace Decimal

theorem ofNat_mul_ten {n : Nat} (hn : 0 < n) : ofNat (n * 10) = ofNat n ++ ['0'] := by
  have large : ¬ n * 10 < 10 := by omega
  rw [ofNat, if_neg large, Nat.mul_div_cancel n (by decide), Nat.mul_mod_left]
  rfl

theorem ofNat_mul_pow {n : Nat} (hn : 0 < n) (t : Nat) :
    ofNat (n * 10 ^ t) = ofNat n ++ List.replicate t '0' := by
  induction t with
  | zero => simp
  | succ t ih =>
    have pos : 0 < n * 10 ^ t := Nat.mul_pos hn (Nat.pow_pos (by decide))
    rw [Nat.pow_succ, ← Nat.mul_assoc, ofNat_mul_ten pos, ih, List.replicate_succ', List.append_assoc]

end Decimal

namespace Shortest

/-- The interval of a whole number, which is small enough that no other whole number is in it. -/
structure Interval.Whole (i : Interval) (n : Nat) : Prop where
  scale_eq : i.scale = 1
  fine : 4 ≤ i.divisor
  centre_eq : i.centre = i.divisor * n
  low_lt : i.low < i.centre
  le_low : i.centre ≤ i.low + 2
  high_eq : i.high = i.centre + 2

theorem interval_whole {n : Nat} (hn : 0 < n) (k : Nat) (atPower : Bool) :
    (interval (n * 2 ^ k) (-(k : Int)) atPower).Whole n := by
  have pos : 0 < n * 2 ^ k := Nat.mul_pos hn (Nat.two_pow_pos k)
  have up : (-(k : Int) - 2).toNat = 0 := by omega
  have down : (2 - -(k : Int)).toNat = k + 2 := by omega
  have divisor : (interval (n * 2 ^ k) (-(k : Int)) atPower).divisor = 4 * 2 ^ k := by
    show Nat.pow 2 (2 - -(k : Int)).toNat = _
    rw [down]
    exact (Nat.pow_add 2 k 2).trans (Nat.mul_comm ..)
  constructor
  · show Nat.pow 2 (-(k : Int) - 2).toNat = 1
    rw [up]
  · rw [divisor]
    have := Nat.two_pow_pos k
    omega
  · rw [divisor, Nat.mul_assoc, Nat.mul_comm (2 ^ k)]
    rfl
  · show (if atPower then 4 * (n * 2 ^ k) - 1 else 4 * (n * 2 ^ k) - 2) < 4 * (n * 2 ^ k)
    split <;> omega
  · show 4 * (n * 2 ^ k) ≤ (if atPower then 4 * (n * 2 ^ k) - 1 else 4 * (n * 2 ^ k) - 2) + 2
    split <;> omega
  · rfl

variable {i : Interval} {n : Nat}

theorem hits_whole (hi : i.Whole n) (t x : Nat) : hits i t x = decide (x * 10 ^ t = n) := by
  obtain ⟨scale, fine, centre, low, low', high⟩ := hi
  have down : (-(t : Int)).toNat = 0 := by omega
  have steps : x * (i.divisor * 10 ^ t) = i.divisor * (x * 10 ^ t) := by ac_rfl
  simp only [hits, inSteps, scale, down, Int.toNat_natCast, Nat.pow_eq, Nat.pow_zero, Nat.mul_one, steps]
  generalize x * 10 ^ t = m
  -- The next whole numbers are four units away, and the ends of the interval are two.
  rcases Nat.lt_trichotomy m n with below | rfl | above
  · have away := Nat.mul_le_mul_left i.divisor (Nat.succ_le_of_lt below)
    rw [Nat.mul_succ] at away
    have low : ¬ i.low ≤ i.divisor * m := by omega
    have low' : ¬ i.low < i.divisor * m := by omega
    simp [low, low', Nat.ne_of_lt below]
  · have inside : i.low < i.divisor * m ∧ i.divisor * m < i.high := by omega
    simp [inside, Nat.le_of_lt inside.1, Nat.le_of_lt inside.2]
  · have away := Nat.mul_le_mul_left i.divisor (Nat.succ_le_of_lt above)
    rw [Nat.mul_succ] at away
    have high : ¬ i.divisor * m ≤ i.high := by omega
    have high' : ¬ i.divisor * m < i.high := by omega
    simp [high, high', Nat.ne_of_gt above]

theorem onGrid_whole (hi : i.Whole n) (t : Nat) :
    onGrid i t = if n % 10 ^ t = 0 then some (n / 10 ^ t) else none := by
  have down : (-(t : Int)).toNat = 0 := by omega
  have pos : 0 < i.divisor := Nat.lt_of_lt_of_le (by decide) hi.fine
  have below : i.centre / (i.divisor * 10 ^ t) = n / 10 ^ t := by
    rw [hi.centre_eq, Nat.mul_div_mul_left _ _ pos]
  have parts := Nat.div_add_mod n (10 ^ t)
  have rest := Nat.mod_lt n (Nat.pow_pos (n := t) (show 0 < 10 by decide))
  have beyond : (n / 10 ^ t + 1) * 10 ^ t ≠ n := by
    rw [Nat.add_mul, Nat.one_mul, Nat.mul_comm]
    omega
  have reached : n / 10 ^ t * 10 ^ t = n ↔ n % 10 ^ t = 0 := by
    rw [Nat.mul_comm]
    omega
  simp only [onGrid, inSteps, hi.scale_eq, down, Int.toNat_natCast, Nat.pow_eq, Nat.pow_zero, Nat.mul_one, below,
    hits_whole hi, beyond, decide_false, reached]
  by_cases h : n % 10 ^ t = 0 <;> simp [h]

theorem pointPlace_whole (hi : i.Whole n) (hn : 0 < n) : pointPlace i = (Decimal.ofNat n).length := by
  have pos : 0 < i.divisor := Nat.lt_of_lt_of_le (by decide) hi.fine
  have place (zeros : Nat) (shift : Int) (hs : shift = zeros) :
      ((Decimal.ofNat (i.centre * i.scale * Nat.pow 10 zeros / i.divisor)).length : Int) - shift =
        (Decimal.ofNat n).length := by
    rw [hs, hi.centre_eq, hi.scale_eq, Nat.mul_one, Nat.mul_assoc, Nat.mul_div_cancel_left _ pos, Nat.pow_eq,
      Decimal.ofNat_mul_pow hn, List.length_append, List.length_replicate]
    omega
  apply place
  rfl

/-- The digits of a whole number, with the zeros at its end left to the exponent. -/
def Writes (s : Decimal.Scaled) (n : Nat) : Prop := 0 ≤ s.exponent ∧ s.digits * 10 ^ s.exponent.toNat = n

theorem search_whole (hi : i.Whole n) {place fuel count : Nat} (started : count ≤ place)
    (enough : place < count + fuel) : Writes (search i place fuel count) n := by
  induction fuel generalizing count with
  | zero => omega
  | succ fuel ih =>
    obtain ⟨t, ht⟩ : ∃ t : Nat, (place : Int) - count = t := ⟨place - count, by omega⟩
    rw [search, ht, onGrid_whole hi]
    by_cases h : n % 10 ^ t = 0
    · rw [if_pos h]
      exact ⟨Int.natCast_nonneg t, Nat.div_mul_cancel (Nat.dvd_of_mod_eq_zero h)⟩
    · rw [if_neg h]
      have later : count ≠ place := by
        rintro rfl
        obtain rfl : t = 0 := by omega
        exact h (Nat.mod_one n)
      exact ih (by omega) (by omega)

theorem strip_writes (fuel : Nat) {s : Decimal.Scaled} (hs : Writes s n) : Writes (strip fuel s) n := by
  induction fuel generalizing s with
  | zero => exact hs
  | succ fuel ih =>
    rw [strip]
    split
    · rename_i h
      obtain ⟨nonneg, value⟩ := hs
      have tens : s.digits % 10 = 0 := by simp_all
      refine ih ⟨by show 0 ≤ s.exponent + 1; omega, ?_⟩
      show s.digits / 10 * 10 ^ (s.exponent + 1).toNat = n
      rw [Int.toNat_add nonneg (by decide), ← value]
      show s.digits / 10 * 10 ^ (s.exponent.toNat + 1) = _
      rw [Nat.pow_succ, ← Nat.mul_assoc, Nat.mul_right_comm, Nat.div_mul_cancel (Nat.dvd_of_mod_eq_zero tens)]
    · exact hs

end Shortest

namespace NumberLayout

theorem render_plain_of_writes {s : Decimal.Scaled} {n : Nat} (hn : 0 < n) (hs : Shortest.Writes s n) :
    plain.render s = Decimal.ofNat n := by
  obtain ⟨nonneg, value⟩ := hs
  have digits : 0 < s.digits := by
    rcases Nat.eq_zero_or_pos s.digits with h | h
    · rw [h, Nat.zero_mul] at value
      omega
    · exact h
  have whole : ¬ s.digits = 0 := Nat.ne_of_gt digits
  rw [← value, Decimal.ofNat_mul_pow digits]
  simp [render, whole, plain, nonneg]

end NumberLayout

namespace Double

open Float.Model (Format totalExponent UnpackedFloat)
open Float.Model.UnpackedFloat (ExtendedMantissa Sign decreaseExponent packComponents roundWithAccuracy
  shiftToExponent shiftToTargetExponent)

section Whole

variable {n k : Nat}

theorem targetExponent_of_log2 (hm : n.log2 = 52) (hk : k ≤ 52) :
    Format.binary64.targetExponent (totalExponent n (-(k : Int))) = -(k : Int) := by
  simp only [Format.targetExponent, totalExponent, hm, Format.mantissaBits, Format.minExponent]
  omega

theorem roundWithAccuracy_of_target (hn : 0 < n)
    (ht : Format.binary64.targetExponent (totalExponent n (-(k : Int))) = -(k : Int)) :
    roundWithAccuracy .binary64 .positive n (-(k : Int)) .exact = .finite .positive n (-(k : Int)) hn := by
  have unshifted (m : ExtendedMantissa) : m >>> 0 = m := rfl
  have exact_ : (ExtendedMantissa.mk n false false).roundedMantissa = n := rfl
  simp [roundWithAccuracy, shiftToTargetExponent, shiftToExponent, ht, unshifted, exact_,
    ExtendedMantissa.ofMantissaAndAccuracy, Nat.ne_of_gt hn]

theorem log2_shiftLeft (hn : n ≠ 0) : (n <<< k).log2 = n.log2 + k := by
  have pos : 0 < n <<< k := Nat.shiftLeft_pos_iff.mpr (Nat.pos_of_ne_zero hn)
  have bounds := (Nat.log2_eq_iff hn).mp rfl
  rw [Nat.log2_eq_iff (Nat.ne_of_gt pos), Nat.shiftLeft_eq, Nat.add_right_comm, Nat.pow_add, Nat.pow_add]
  exact ⟨Nat.mul_le_mul_right _ bounds.1, Nat.mul_lt_mul_of_pos_right bounds.2 (Nat.two_pow_pos k)⟩

/-- A whole number with at most 53 bits is shifted until it has 53, and nothing is rounded. -/
theorem ofNat_eq_finite (hn : n ≠ 0) (hk : n.log2 + k = 52) :
    UnpackedFloat.ofNat .binary64 n =
      .finite .positive (n <<< k) (-(k : Int)) (Nat.shiftLeft_pos_iff.mpr (Nat.pos_of_ne_zero hn)) := by
  have small : k ≤ 52 := by omega
  have bits : (n <<< k).log2 = 52 := (log2_shiftLeft hn).trans hk
  have target : Format.binary64.targetExponent (totalExponent n 0) = -(k : Int) := by
    simp only [Format.targetExponent, totalExponent, Format.mantissaBits, Format.minExponent]
    omega
  have shift : (0 - -(k : Int)).toNat = k := by omega
  have start : (0 : Int) - k = -(k : Int) := by omega
  have greater : compare (n : Int) 0 = .gt := Int.compare_eq_gt.mpr (by omega)
  simp only [UnpackedFloat.ofNat, UnpackedFloat.ofInt, UnpackedFloat.normalize, greater, UnpackedFloat.round,
    decreaseExponent, Int.toNat_natCast, target, shift, start]
  exact roundWithAccuracy_of_target _ (targetExponent_of_log2 bits small)

theorem toNat_pack (hn : 0 < n) (hm : n.log2 = 52) (hk : k ≤ 52) :
    (UnpackedFloat.pack .binary64 (.finite .positive n (-(k : Int)) hn)).toNat =
      (1075 - k) * fractions + n % fractions := by
  have biased : (-(k : Int) + Format.binary64.exponentBias + (52 : Nat)).toNat = 1075 - k := by
    show (-(k : Int) + (1023 : Nat) + (52 : Nat)).toNat = 1075 - k
    omega
  have bounded : ¬ 2 ^ 11 ≤ 1075 - k + 1 := by omega
  have normal : 52 + 1 = Format.binary64.mantissaBits := rfl
  simp only [UnpackedFloat.pack, biased, hm, if_neg bounded, if_pos normal, packComponents]
  rw [BitVec.toNat_append, BitVec.toNat_append, BitVec.toNat_ofNat, BitVec.toNat_ofNat,
    Nat.mod_eq_of_lt (show 1075 - k < 2 ^ 11 by omega), ← Nat.shiftLeft_add_eq_or_of_lt (Nat.mod_lt _ (by decide)),
    ← Nat.shiftLeft_add_eq_or_of_lt (by omega)]
  simp [Nat.shiftLeft_eq, Sign.toBitVec, fractions]

theorem ofFloat_of_toBits {x : Float} (hm : n.log2 = 52) (hk : k ≤ 52)
    (hx : x.toBits.toNat = (1075 - k) * fractions + n % fractions) :
    ∃ atPower, ofFloat x = .finite false n (-(k : Int)) atPower := by
  have bounds : 2 ^ 52 ≤ n ∧ n < 2 ^ 53 := (Nat.log2_eq_iff (by rintro rfl; cases hm)).mp hm
  have rest : n % fractions + fractions = n := by
    simp only [fractions]
    omega
  have exponent : x.toBits.toNat / fractions = 1075 - k := by
    rw [hx]
    simp only [fractions]
    omega
  have fraction : x.toBits.toNat % fractions = n % fractions := by
    rw [hx, Nat.mul_add_mod_self_right, Nat.mod_mod]
  have small : (1075 - k) % 2048 = 1075 - k := Nat.mod_eq_of_lt (by omega)
  have place : ((1075 - k : Nat) : Int) - 1075 = -(k : Int) := by omega
  have positive : ((1075 - k) / 2048 == 1) = false := by
    rw [Nat.div_eq_of_lt (by omega)]
    rfl
  refine ⟨n % fractions == 0 && 1075 - k > 1, ?_⟩
  simp only [ofFloat, exponent, fraction, small, positive, place, rest]
  rw [if_neg (by omega), if_neg (by omega)]

theorem ofFloat_toFloat {n : UInt64} (hn : n.toNat ≠ 0) (few : n.toNat < 2 ^ 53) :
    ∃ (k : Nat) (atPower : Bool), ofFloat n.toFloat = .finite false (n.toNat * 2 ^ k) (-(k : Int)) atPower := by
  have log : n.toNat.log2 < 53 := (Nat.log2_lt hn).mpr few
  obtain ⟨k, hk⟩ : ∃ k, n.toNat.log2 + k = 52 := ⟨52 - n.toNat.log2, by omega⟩
  have bits : (n.toNat <<< k).log2 = 52 := (log2_shiftLeft hn).trans hk
  have small : k ≤ 52 := by omega
  have packed : n.toFloat.toBits.toNat =
      (UnpackedFloat.pack .binary64 (UnpackedFloat.ofNat .binary64 n.toNat)).toNat := rfl
  rw [ofNat_eq_finite hn hk, toNat_pack _ bits small] at packed
  obtain ⟨atPower, read⟩ := ofFloat_of_toBits bits small packed
  rw [Nat.shiftLeft_eq] at read
  exact ⟨k, atPower, read⟩

end Whole

theorem text?_whole {n : Nat} (hn : 0 < n) (few : n < 10 ^ 17) (k : Nat) (atPower : Bool) :
    (finite false (n * 2 ^ k) (-(k : Int)) atPower).text? .plain = some (natText n) := by
  have pos : ¬ n * 2 ^ k = 0 := Nat.ne_of_gt (Nat.mul_pos hn (Nat.two_pow_pos k))
  have hi := Shortest.interval_whole hn k atPower
  have width : (Decimal.ofNat n).length ≤ 17 := Decimal.length_ofNat_le few
  have started : 1 ≤ (Decimal.ofNat n).length := List.length_pos_iff.mpr (Decimal.ofNat_ne_nil n)
  have written := Shortest.strip_writes 20
    (Shortest.search_whole hi started (show _ < 1 + 18 by omega))
  rw [← Shortest.pointPlace_whole hi hn] at written
  rw [Double.text?, if_neg pos]
  simp only [Shortest.ofInterval, NumberLayout.render_plain_of_writes hn written]
  rfl

/-- A 64-bit number below 2 ^ 53 is exported as it is. -/
theorem text?_toFloat {n : UInt64} (few : n.toNat < 2 ^ 53) :
    (ofFloat n.toFloat).text? .plain = some (natText n.toNat) := by
  by_cases hn : n.toNat = 0
  · obtain rfl : n = 0 := UInt64.toNat_inj.mp hn
    decide +kernel
  · obtain ⟨k, atPower, read⟩ := ofFloat_toFloat hn few
    rw [read]
    exact text?_whole (Nat.pos_of_ne_zero hn) (Nat.lt_trans few (by decide)) k atPower

end Double

end AccessLog
