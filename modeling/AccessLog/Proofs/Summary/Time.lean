import AccessLog.Proofs.Decimal.Written
import AccessLog.Proofs.Summary

/-!
# The time in a summary

A duration is printed in milliseconds with one decimal: the nearest tenth, and the greater one of two that are equally
near. The number is the one that a sum without a limit gives, and whoever reads it off the texts of two durations finds
them in the order of the durations.
-/

namespace AccessLog

def distance (micros tenths : Nat) : Nat := ((micros : Int) - 100 * tenths).natAbs

/-- The nearest number of tenths, and the greatest of those. -/
structure RoundsHalfUp (micros tenths : Nat) : Prop where
  nearest : ∀ other, distance micros tenths ≤ distance micros other
  greatest : ∀ other, distance micros tenths = distance micros other → other ≤ tenths

/-- A text that says a time: a number without zeros in front, a point, one digit, and the unit. -/
structure SaysTime (text : List Char) (whole tenth : Nat) : Prop where
  one_digit : tenth < 10
  text_eq : ∃ digits, digits ≠ [] ∧ digits.all Decimal.isDigit = true ∧
    (1 < digits.length → digits.head? ≠ some '0') ∧ Decimal.value digits = whole ∧
    text = digits ++ '.' :: Decimal.digit tenth :: [' ', 'm', 's']

theorem roundsHalfUp_tenths (micros : Nat) : RoundsHalfUp micros (tenths micros) := by
  constructor
  · intro other
    unfold distance tenths
    omega
  · intro other same
    unfold distance tenths at same
    unfold tenths
    omega

theorem saysTime_iff {text : List Char} {whole tenth : Nat} :
    SaysTime text whole tenth ↔ tenth < 10 ∧ text = tenthsText (10 * whole + tenth) ++ [' ', 'm', 's'] := by
  have written (small : tenth < 10) : tenthsText (10 * whole + tenth) =
      Decimal.ofNat whole ++ ['.', Decimal.digit tenth] := by
    have front : (10 * whole + tenth) / 10 = whole := by omega
    have back : (10 * whole + tenth) % 10 = tenth := by omega
    have digit : Decimal.ofNat tenth = [Decimal.digit tenth] := by rw [Decimal.ofNat, if_pos small]
    rw [tenthsText, front, back, digit]
  constructor
  · rintro ⟨small, digits, some_digit, all_digits, plain, rfl, rfl⟩
    refine ⟨small, ?_⟩
    rw [written small, ← Decimal.eq_ofNat some_digit all_digits plain]
    simp
  · rintro ⟨small, rfl⟩
    refine ⟨small, Decimal.ofNat whole, Decimal.ofNat_ne_nil whole, ?_, Decimal.head?_ofNat_of_long,
      Decimal.value_ofNat whole, ?_⟩
    · apply List.all_eq_true.mpr
      intro c hc
      exact Decimal.isDigit_of_mem_ofNat hc
    · rw [written small]
      simp

theorem SaysTime.unique {text : List Char} {whole tenth whole' tenth' : Nat} (h : SaysTime text whole tenth)
    (h' : SaysTime text whole' tenth') : 10 * whole + tenth = 10 * whole' + tenth' := by
  obtain ⟨-, he⟩ := saysTime_iff.mp h
  obtain ⟨-, he'⟩ := saysTime_iff.mp h'
  rw [he] at he'
  exact tenthsText_inj.mp (List.append_cancel_right he')

theorem saysTime_prettyTime {micros : Nat} (h : micros ≤ longestMicros) :
    SaysTime (prettyTime micros) (tenths micros / 10) (tenths micros % 10) := by
  apply saysTime_iff.mpr
  constructor
  · omega
  · have parts : 10 * (tenths micros / 10) + tenths micros % 10 = tenths micros := by omega
    rw [parts]
    exact prettyTime_eq h

theorem tenths_mono {micros longer : Nat} (h : micros ≤ longer) : tenths micros ≤ tenths longer := by
  unfold tenths
  omega

/-- What every duration of 64 bits is printed as. -/
theorem prettyTime_rounds (micros : UInt64) :
    ∃ whole tenth, SaysTime (prettyTime micros.toNat) whole tenth ∧
      10 * whole + tenth = (micros.toNat + 50) / 100 ∧
      min (micros.toNat + 50) longestMicros / 100 = (micros.toNat + 50) / 100 ∧
      RoundsHalfUp micros.toNat (10 * whole + tenth) ∧
      ∀ (longer : UInt64) (whole' tenth' : Nat), micros ≤ longer →
        SaysTime (prettyTime longer.toNat) whole' tenth' → 10 * whole + tenth ≤ 10 * whole' + tenth' := by
  have within (n : UInt64) : n.toNat ≤ longestMicros := Nat.le_of_lt_succ n.toNat_lt
  have parts (n : UInt64) : 10 * (tenths n.toNat / 10) + tenths n.toNat % 10 = tenths n.toNat := by omega
  refine ⟨tenths micros.toNat / 10, tenths micros.toNat % 10, saysTime_prettyTime (within micros), ?_⟩
  rw [parts]
  refine ⟨rfl, ?_, roundsHalfUp_tenths micros.toNat, ?_⟩
  · have limit := within micros
    unfold longestMicros at limit ⊢
    omega
  · intro longer whole' tenth' hl said
    rw [said.unique (saysTime_prettyTime (within longer)), parts]
    exact tenths_mono (UInt64.le_iff_toNat_le.mp hl)

/-- The greatest duration, where the sum stops at its limit. -/
example : prettyTime longestMicros = "18446744073709551.6 ms".toList := by decide +kernel

end AccessLog
