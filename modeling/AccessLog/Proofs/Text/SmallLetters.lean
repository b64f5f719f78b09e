import AccessLog.Text.Lowercase

/-!
# Small letters stay small

No small letter of the case table is a capital of it, so a text in lower case is left as it is by lower-casing: every
text and its lower-case text are the same but for letter case.
-/

namespace AccessLog

namespace CapitalRun

def small (r : CapitalRun) (n : Nat) : Nat := ((n : Int) + r.shift).toNat

/-- Nothing in steps of `step` from `first` to `last` is a capital of the run: it lies on one side of it, or between its
members, or is one number that is not among them. -/
def isMissedBy (r : CapitalRun) (first last step : Nat) : Bool :=
  last.blt r.first || r.last.blt first
    || ((0).blt first && (step % 2).beq 0 && (r.step % 2).beq 0 && ((first + r.first) % 2).beq 1)
    || (first.beq last && !r.contains first)

theorem contains_iff (r : CapitalRun) (n : Nat) :
    r.contains n = true ↔ r.first ≤ n ∧ n ≤ r.last ∧ (n - r.first) % r.step = 0 := by
  simp [contains, and_assoc]

theorem even_of_step {n step : Nat} (hs : step % 2 = 0) (hn : n % step = 0) : n % 2 = 0 :=
  Nat.mod_eq_zero_of_dvd (Nat.dvd_trans (Nat.dvd_of_mod_eq_zero hs) (Nat.dvd_of_mod_eq_zero hn))

theorem not_contains_small {r q : CapitalRun}
    (h : q.isMissedBy (r.small r.first) (r.small r.last) r.step = true) {n : Nat} (hn : r.contains n = true) :
    q.contains (r.small n) = false := by
  obtain ⟨hf, hl, hm⟩ := (contains_iff r n).mp hn
  have low : r.small r.first ≤ r.small n := by simp only [small]; omega
  have high : r.small n ≤ r.small r.last := by simp only [small]; omega
  simp only [isMissedBy, Bool.or_eq_true, Bool.and_eq_true, Nat.blt_eq, Nat.beq_eq, Bool.not_eq_true'] at h
  rw [Bool.eq_false_iff]
  intro hq
  obtain ⟨qf, ql, qm⟩ := (contains_iff q _).mp hq
  rcases h with ((h | h) | ⟨⟨⟨hp, hr⟩, hs⟩, hx⟩) | ⟨he, hx⟩
  · omega
  · omega
  · have even := even_of_step hr hm
    have even' := even_of_step hs qm
    simp only [small] at hp hx even' qf
    omega
  · rw [Nat.le_antisymm (he ▸ high) low, hx] at hq
    cases hq

end CapitalRun

def capitals : List CapitalRun := ⟨0x130, 0x130, 1, 0⟩ :: capitalRuns

theorem small_missed :
    (capitalRuns.all fun r => capitals.all (·.isMissedBy (r.small r.first) (r.small r.last) r.step)) = true := by
  decide +kernel

def IsSmall (c : Char) : Prop := c ≠ 'Σ' ∧ smallLetters c = [c]

instance (c : Char) : Decidable (IsSmall c) :=
  inferInstanceAs (Decidable (c ≠ 'Σ' ∧ smallLetters c = [c]))

theorem toLower_of_not_capital {c : Char} (h : ¬ (0x41 ≤ c.toNat ∧ c.toNat ≤ 0x5A)) : c.toLower = c := by
  delta Char.toLower
  apply dif_neg
  rintro ⟨ha, hz⟩
  exact h ⟨UInt32.le_iff_toNat_le.mp ha, UInt32.le_iff_toNat_le.mp hz⟩

theorem isSmall_of_not_capital {c : Char} (h : ∀ q ∈ capitals, q.contains c.toNat = false) :
    IsSmall c := by
  have apart (q : CapitalRun) (hq : q ∈ capitals) : ¬ q.contains c.toNat = true := by
    rw [h q hq]
    decide
  constructor
  · rintro rfl
    have sigma : ∃ q ∈ capitals, q.contains 'Σ'.toNat = true := List.any_eq_true.mp (by decide)
    obtain ⟨q, hq, hs⟩ := sigma
    exact apart q hq hs
  · unfold smallLetters
    split
    · rw [toLower_of_not_capital]
      have latin := apart ⟨0x41, 0x5A, 1, 32⟩ (List.mem_cons_of_mem _ List.mem_cons_self)
      rw [CapitalRun.contains_iff] at latin
      intro hc
      exact latin ⟨hc.1, hc.2, Nat.mod_one _⟩
    · split
      · case isTrue hi =>
        subst hi
        exact absurd (by decide) (apart ⟨0x130, 0x130, 1, 0⟩ List.mem_cons_self)
      · have none : capitalRuns.find? (·.contains c.toNat) = none :=
          List.find?_eq_none.mpr fun q hq => apart q (List.mem_cons_of_mem _ hq)
        rw [none]

theorem isSmall_toLower_ascii : ∀ n < 0x80, IsSmall (Char.ofNat n).toLower := by decide +kernel

theorem isSmall_of_mem_smallLetters {c d : Char} (h : d ∈ smallLetters c) : IsSmall d := by
  unfold smallLetters at h
  split at h
  · case isTrue hc =>
    rw [List.mem_singleton.mp h, ← c.ofNat_toNat]
    exact isSmall_toLower_ascii _ hc
  split at h
  · have both : IsSmall 'i' ∧ IsSmall '\u0307' := by decide +kernel
    rcases List.mem_cons.mp h with rfl | h
    · exact both.1
    · obtain rfl := List.mem_singleton.mp h
      exact both.2
  · case isFalse hi =>
    cases hr : capitalRuns.find? (·.contains c.toNat) with
    | some r =>
      rw [hr] at h
      have hm := List.mem_of_find?_eq_some hr
      have hc : r.contains c.toNat = true :=
        List.find?_some (p := fun q : CapitalRun => q.contains c.toNat) hr
      have hd : d = Char.ofNat (r.small c.toNat) := List.mem_singleton.mp h
      by_cases valid : (r.small c.toNat).isValidChar
      · have number : d.toNat = r.small c.toNat := by
          rw [hd]
          exact congrArg Char.toNat (dif_pos valid)
        refine isSmall_of_not_capital fun q hq => ?_
        have missed := List.all_eq_true.mp (List.all_eq_true.mp small_missed r hm) q hq
        rw [number]
        exact CapitalRun.not_contains_small missed hc
      · have zero : d = Char.ofNat 0 := hd.trans (dif_neg valid)
        rw [zero]
        decide
    | none =>
      rw [hr] at h
      obtain rfl : d = c := List.mem_singleton.mp h
      refine isSmall_of_not_capital fun q hq => ?_
      rcases List.mem_cons.mp hq with rfl | hq
      · rw [Bool.eq_false_iff]
        intro hc
        obtain ⟨h1, h2, -⟩ := (CapitalRun.contains_iff _ _).mp hc
        apply hi
        rw [← d.ofNat_toNat, Nat.le_antisymm h2 h1]
      · exact Bool.eq_false_iff.mpr (List.find?_eq_none.mp hr q hq)

namespace Text

theorem isSmall_of_mem_lowerAfter {before s : List Char} {d : Char} (h : d ∈ lowerAfter before s) :
    IsSmall d := by
  induction s generalizing before with
  | nil => cases h
  | cons c rest ih =>
    rw [lowerAfter, List.mem_append] at h
    rcases h with h | h
    · split at h
      · have both : IsSmall 'ς' ∧ IsSmall 'σ' := by decide +kernel
        rw [List.mem_singleton.mp h]
        split
        · exact both.1
        · exact both.2
      · exact isSmall_of_mem_smallLetters h
    · exact ih h

theorem lowerAfter_of_small {s : List Char} (h : ∀ c ∈ s, IsSmall c) (before : List Char) :
    lowerAfter before s = s := by
  induction s generalizing before with
  | nil => rfl
  | cons c rest ih =>
    obtain ⟨hc, hs⟩ := h c List.mem_cons_self
    rw [lowerAfter, if_neg hc, hs, ih (fun d hd => h d (List.mem_cons_of_mem c hd)), List.singleton_append]

end Text

theorem lowercase_lowercase (s : String) : lowercase (lowercase s) = lowercase s := by
  have small : ∀ d ∈ Text.lower s.toList, IsSmall d := fun d hd => Text.isSmall_of_mem_lowerAfter hd
  rw [lowercase, toList_lowercase, Text.lower, Text.lowerAfter_of_small small]
  rfl

end AccessLog
