import AccessLog.Text.Pieces
import Mathlib.Data.List.DropRight

/-!
# What stands between separators

The pieces of a text are what stands between two separators, or between a separator and an end. The entries of a
list are what is left of its pieces without the blanks around them, where anything is left.
-/

namespace AccessLog

namespace Text

variable {separator : Char}

theorem pieces_eq_splitOn (s : List Char) : pieces separator s = s.splitOn separator := by
  induction s with
  | nil => rfl
  | cons c rest ih =>
    rw [pieces, List.splitOn_cons_eq_if_modifyHead, ← ih]
    by_cases h : c = separator
    · simp [h]
    · simp only [h, beq_iff_eq, if_false]
      cases hp : pieces separator rest with
      | nil => exact absurd hp (pieces_ne_nil separator rest)
      | cons p ps => rfl

theorem pieces_append_separator {s : List Char} (h : separator ∉ s) (rest : List Char) :
    pieces separator (s ++ separator :: rest) = s :: pieces separator rest := by
  rw [pieces_eq_splitOn, pieces_eq_splitOn, List.splitOn_append_cons_self_of_not_mem h]

theorem pieces_of_not_mem {s : List Char} (h : separator ∉ s) : pieces separator s = [s] := by
  rw [pieces_eq_splitOn, List.splitOn_eq_singleton h]

theorem pieces_lines {lines : List (List Char)} (h : ∀ line ∈ lines, separator ∉ line) :
    pieces separator (lines.flatMap (· ++ [separator])) = lines ++ [[]] := by
  induction lines with
  | nil => rfl
  | cons line rest ih =>
    rw [List.flatMap_cons, List.append_assoc, List.singleton_append,
      pieces_append_separator (h line List.mem_cons_self), ih fun l hl => h l (List.mem_cons_of_mem _ hl)]
    rfl

/-- `p` stands in `s` between two separators, or between a separator and an end, or is all of it. -/
structure Between (separator : Char) (s p : List Char) : Prop where
  not_mem : separator ∉ p
  placed : ∃ before after, s = before ++ p ++ after ∧
    (before = [] ∨ ∃ front, before = front ++ [separator]) ∧
    (after = [] ∨ ∃ back, after = separator :: back)

theorem Between.behind {s p : List Char} (h : Between separator s p) (front : List Char) :
    Between separator (front ++ separator :: s) p := by
  obtain ⟨hp, before, after, rfl, hb, ha⟩ := h
  refine ⟨hp, front ++ separator :: before, after, by simp, .inr ?_, ha⟩
  rcases hb with rfl | ⟨inner, rfl⟩
  · exact ⟨front, rfl⟩
  · exact ⟨front ++ separator :: inner, by simp⟩

theorem between_of_mem_pieces {s p : List Char} (h : p ∈ pieces separator s) :
    Between separator s p := by
  by_cases hs : separator ∈ s
  · obtain ⟨first, rest, he, hf⟩ := List.eq_append_cons_of_mem hs
    rw [he, pieces_append_separator hf] at h
    rw [he]
    rcases List.mem_cons.mp h with rfl | h
    · exact ⟨hf, [], separator :: rest, rfl, .inl rfl, .inr ⟨rest, rfl⟩⟩
    · exact (between_of_mem_pieces h).behind first
  · rw [pieces_of_not_mem hs, List.mem_singleton] at h
    subst h
    exact ⟨hs, [], [], by simp, .inl rfl, .inl rfl⟩
termination_by s.length
decreasing_by
  rw [he, List.length_append, List.length_cons]
  omega

theorem Between.mem_pieces {s p : List Char} (h : Between separator s p) :
    p ∈ pieces separator s := by
  obtain ⟨hp, before, after, rfl, hb, ha⟩ := h
  have rear : p ∈ pieces separator (p ++ after) := by
    rcases ha with rfl | ⟨back, rfl⟩
    · rw [List.append_nil, pieces_of_not_mem hp]
      exact List.mem_singleton_self p
    · rw [pieces_append_separator hp]
      exact List.mem_cons_self
  rcases hb with rfl | ⟨front, rfl⟩
  · exact rear
  · rw [pieces_eq_splitOn] at rear
    rw [pieces_eq_splitOn, List.append_assoc, List.append_assoc, List.singleton_append,
      List.splitOn_append_cons_self]
    exact List.mem_append_right _ rear

theorem mem_pieces_iff {s p : List Char} : p ∈ pieces separator s ↔ Between separator s p :=
  ⟨between_of_mem_pieces, Between.mem_pieces⟩

structure Trimmed (t : List Char) : Prop where
  head : ∀ c ∈ t.head?, isBlank c = false
  last : ∀ c ∈ t.getLast?, isBlank c = false

def Blank (s : List Char) : Prop := ∀ c ∈ s, isBlank c = true

theorem trimEnd_eq_rdropWhile (s : List Char) : trimEnd s = s.rdropWhile isBlank := rfl

theorem trimmed_trim (s : List Char) : Trimmed (trim s) := by
  constructor
  · intro c hc
    have hp : trim s <+: trimStart s := List.rdropWhile_prefix isBlank _
    have hh : c ∈ (trimStart s).head? := by
      cases ht : trim s with
      | nil =>
        rw [ht] at hc
        cases hc
      | cons d rest =>
        rw [ht] at hc hp
        obtain ⟨tail, he⟩ := hp
        rw [← he]
        exact hc
    have hn := List.head?_dropWhile_not isBlank s
    rw [Option.mem_def, trimStart] at hh
    rwa [hh] at hn
  · intro c hc
    obtain ⟨hne, rfl⟩ := List.mem_getLast?_eq_getLast hc
    exact Bool.eq_false_iff.mpr (List.rdropWhile_last_not isBlank _ hne)

theorem trim_eq_iff {s t : List Char} :
    trim s = t ↔ Trimmed t ∧ ∃ left right, s = left ++ t ++ right ∧ Blank left ∧ Blank right := by
  constructor
  · rintro rfl
    refine ⟨trimmed_trim s, s.takeWhile isBlank, (trimStart s).rtakeWhile isBlank, ?_, ?_, ?_⟩
    · calc s = s.takeWhile isBlank ++ trimStart s := List.takeWhile_append_dropWhile.symm
        _ = s.takeWhile isBlank ++ (trim s ++ (trimStart s).rtakeWhile isBlank) := by
          rw [trim, trimEnd_eq_rdropWhile, List.rdropWhile_append_rtakeWhile]
        _ = _ := (List.append_assoc ..).symm
    · exact fun c hc => List.mem_takeWhile_imp hc
    · exact fun c hc => List.mem_rtakeWhile_imp hc
  · rintro ⟨⟨head, last⟩, left, right, rfl, hl, hr⟩
    have front : trimStart (left ++ t ++ right) = trimStart (t ++ right) := by
      rw [List.append_assoc]
      exact List.dropWhile_append_of_pos hl
    rw [trim, front]
    cases t with
    | nil =>
      have gone : trimStart ([] ++ right) = [] := List.dropWhile_eq_nil_iff.mpr hr
      rw [gone]
      rfl
    | cons c rest =>
      have kept : trimStart (c :: rest ++ right) = c :: rest ++ right :=
        List.dropWhile_cons_of_neg (by simp [head c rfl])
      have behind : (c :: rest).rdropWhile isBlank = c :: rest :=
        List.rdropWhile_eq_self_iff.mpr fun hn => by
          simp [last _ (List.getLast?_eq_some_getLast hn)]
      rw [kept, trimEnd, List.reverse_append,
        List.dropWhile_append_of_pos fun d hd => hr d (List.mem_reverse.mp hd)]
      exact behind

/-- An entry of a comma-separated text: it is not empty, stands between commas and has blanks around it at most,
but none at its own ends. -/
structure Entry (s e : List Char) : Prop where
  ne_nil : e ≠ []
  trimmed : Trimmed e
  between : ∃ left right, Between ',' s (left ++ e ++ right) ∧ Blank left ∧ Blank right

theorem mem_entries_iff {s e : List Char} : e ∈ entries s ↔ Entry s e := by
  simp only [entries, List.mem_filter, List.mem_map, mem_pieces_iff, trim_eq_iff]
  constructor
  · rintro ⟨⟨p, hp, ht, left, right, rfl, hl, hr⟩, hn⟩
    exact ⟨by simpa using hn, ht, left, right, hp, hl, hr⟩
  · rintro ⟨hn, ht, left, right, hp, hl, hr⟩
    exact ⟨⟨_, hp, ht, left, right, rfl, hl, hr⟩, by simpa using hn⟩

theorem not_entry_of_bare {s : List Char} (h : ∀ c ∈ s, c = ',' ∨ isBlank c = true) (e : List Char) :
    ¬ Entry s e := by
  rintro ⟨hn, ht, left, right, ⟨hc, before, after, rfl, -⟩, -⟩
  cases e with
  | nil => exact hn rfl
  | cons c rest =>
    rcases h c (by simp) with rfl | hb
    · simp at hc
    · rw [ht.head c rfl] at hb
      cases hb

end Text

theorem mem_commaList_iff {s e : String} : e ∈ commaList s ↔ Text.Entry s.toList e.toList := by
  rw [← Text.mem_entries_iff, commaList, List.mem_map]
  constructor
  · rintro ⟨cs, hc, rfl⟩
    rwa [String.toList_ofList]
  · intro h
    exact ⟨e.toList, h, String.ofList_toList⟩

end AccessLog
