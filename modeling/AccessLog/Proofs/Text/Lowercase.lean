import AccessLog.Text.Lowercase
import Mathlib.Data.List.TakeWhile

/-!
# Lower case and beginnings

A text whose letters are made small begins like its own beginning made small, but for one letter: a capital sigma
at the end of the beginning, which ends a word only as long as nothing is added.
-/

namespace AccessLog

namespace Text

/-- A word of `s`, with `before` in front of it read backwards, ends in a capital sigma and goes on in `t`. What is
case-ignorable does not end a word. -/
def SplitsSigma (before s t : List Char) : Prop :=
  ∃ front back, s = front ++ 'Σ' :: back ∧ back.all isCaseIgnorable = true ∧
    casedAhead (front.reverse ++ before) = true ∧ casedAhead t = true

theorem casedAhead_of_ignorable {s : List Char} (h : s.all isCaseIgnorable = true) (t : List Char) :
    casedAhead (s ++ t) = casedAhead t := by
  have hd : (s ++ t).dropWhile isCaseIgnorable = t.dropWhile isCaseIgnorable :=
    List.dropWhile_append_of_pos fun c hc => List.all_eq_true.mp h c hc
  rw [casedAhead, hd, casedAhead]

theorem casedAhead_append {s : List Char} (h : ¬ s.all isCaseIgnorable = true) (t : List Char) :
    casedAhead (s ++ t) = casedAhead s := by
  have hn : (s.dropWhile isCaseIgnorable).isEmpty = false := by
    rw [Bool.eq_false_iff]
    intro he
    apply h
    rw [List.all_eq_true]
    intro c hc
    exact List.dropWhile_eq_nil_iff.mp (List.isEmpty_iff.mp he) c hc
  cases hs : s.dropWhile isCaseIgnorable with
  | nil => simp [hs] at hn
  | cons c rest => rw [casedAhead, casedAhead, List.dropWhile_append, hn, hs]; rfl

/-- Whether a sigma ends its word changes with what is added in one case only. -/
theorem endsWord_append_iff (before back t : List Char) :
    endsWord before back = endsWord before (back ++ t) ↔
      ¬ (back.all isCaseIgnorable = true ∧ casedAhead before = true ∧ casedAhead t = true) := by
  by_cases h : back.all isCaseIgnorable = true
  · have hb : casedAhead back = false := by
      rw [← List.append_nil back, casedAhead_of_ignorable h]
      rfl
    rw [endsWord, endsWord, casedAhead_of_ignorable h, hb]
    cases casedAhead before <;> cases casedAhead t <;> simp [h]
  · rw [endsWord, endsWord, casedAhead_append h]
    simp [h]

theorem splitsSigma_nil (before t : List Char) : ¬ SplitsSigma before [] t := by
  rintro ⟨front, back, hs, -⟩
  cases front <;> cases hs

theorem splitsSigma_cons (before rest t : List Char) (c : Char) :
    SplitsSigma before (c :: rest) t ↔
      (c = 'Σ' ∧ rest.all isCaseIgnorable = true ∧ casedAhead before = true ∧ casedAhead t = true) ∨
        SplitsSigma (c :: before) rest t := by
  constructor
  · rintro ⟨front, back, hs, hb, hf, ht⟩
    cases front with
    | nil =>
      obtain ⟨rfl, rfl⟩ := List.cons.inj hs
      exact .inl ⟨rfl, hb, hf, ht⟩
    | cons d front =>
      obtain ⟨rfl, rfl⟩ := List.cons.inj hs
      exact .inr ⟨front, back, rfl, hb, by simpa using hf, ht⟩
  · rintro (⟨rfl, hb, hf, ht⟩ | ⟨front, back, rfl, hb, hf, ht⟩)
    · exact ⟨[], rest, rfl, hb, hf, ht⟩
    · exact ⟨c :: front, back, rfl, hb, by simpa using hf, ht⟩

theorem lowerAfter_isPrefix_iff (before s t : List Char) :
    lowerAfter before s <+: lowerAfter before (s ++ t) ↔ ¬ SplitsSigma before s t := by
  induction s generalizing before with
  | nil => simp [lowerAfter, splitsSigma_nil]
  | cons c rest ih =>
    rw [List.cons_append, lowerAfter, lowerAfter, splitsSigma_cons, not_or, ← ih]
    by_cases hc : c = 'Σ'
    · have he : (if endsWord before rest = true then 'ς' else 'σ') =
          (if endsWord before (rest ++ t) = true then 'ς' else 'σ') ↔
            endsWord before rest = endsWord before (rest ++ t) := by
        cases endsWord before rest <;> cases endsWord before (rest ++ t) <;> simp
      rw [if_pos hc, if_pos hc, List.singleton_append, List.singleton_append, List.cons_prefix_cons, he,
        endsWord_append_iff]
      simp [hc]
    · rw [if_neg hc, if_neg hc, List.prefix_append_right_inj]
      simp [hc]

end Text

end AccessLog
