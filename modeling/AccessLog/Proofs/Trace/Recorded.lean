import AccessLog.Trace

/-!
# What is recorded of a trace

The fields of a trace are taken in one after another. A textual field called `message` is the message of the line; all
others become members, in the order of their names.
-/

namespace AccessLog

namespace Trace

def IsMessage (f : String × FieldValue) : Prop := f.1 = messageName ∧ (textual? f.2).isSome = true

instance : DecidablePred IsMessage := fun _ => inferInstanceAs (Decidable (_ ∧ _))

def member (f : String × FieldValue) : String × Scalar := (f.1, scalar f.2)

variable {name : String} {members : Members} {fields : List (String × FieldValue)} {t : Trace}

theorem record_of_message {f : String × FieldValue} (r : Recorded) (h : IsMessage f) :
    record r f = { r with message := textual? f.2 } := if_pos h

theorem record_of_not_message {f : String × FieldValue} (r : Recorded) (h : ¬ IsMessage f) :
    record r f = { r with data := insertSorted f.1 (scalar f.2) r.data } := if_neg h

theorem insertSorted_perm (value : Scalar) (h : name ∉ members.map (·.1)) :
    (insertSorted name value members).Perm ((name, value) :: members) := by
  induction members with
  | nil => exact .refl _
  | cons m members ih =>
    obtain ⟨n, v⟩ := m
    obtain ⟨hn, hm⟩ : name ≠ n ∧ name ∉ members.map (·.1) := by
      simpa only [List.map_cons, List.mem_cons, not_or] using h
    rw [insertSorted, if_neg hn]
    split
    · exact .refl _
    · exact ((ih hm).cons (n, v)).trans (.swap ..)

def Ascending (members : Members) : Prop := members.Pairwise fun a b => a.1 < b.1

theorem mem_insertSorted {m : String × Scalar} {value : Scalar}
    (h : m ∈ insertSorted name value members) : m = (name, value) ∨ m ∈ members := by
  induction members with
  | nil => exact .inl (List.mem_singleton.mp h)
  | cons first rest ih =>
    rw [insertSorted] at h
    split at h
    · rcases List.mem_cons.mp h with rfl | h
      · exact .inl rfl
      · exact .inr (List.mem_cons_of_mem _ h)
    · split at h
      · exact List.mem_cons.mp h
      · rcases List.mem_cons.mp h with rfl | h
        · exact .inr List.mem_cons_self
        · exact (ih h).imp_right (List.mem_cons_of_mem _)

theorem ascending_insertSorted (value : Scalar) (h : Ascending members) :
    Ascending (insertSorted name value members) := by
  induction members with
  | nil => exact List.pairwise_singleton ..
  | cons first rest ih =>
    obtain ⟨below, tail⟩ := List.pairwise_cons.mp h
    rw [insertSorted]
    split
    · case isTrue same =>
      subst same
      exact List.pairwise_cons.mpr ⟨below, tail⟩
    · case isFalse other =>
      split
      · case isTrue less =>
        refine List.pairwise_cons.mpr ⟨fun m hm => ?_, h⟩
        rcases List.mem_cons.mp hm with rfl | hm
        · exact less
        · exact String.lt_trans less (below m hm)
      · case isFalse notLess =>
        refine List.pairwise_cons.mpr ⟨fun m hm => ?_, ih tail⟩
        rcases mem_insertSorted hm with rfl | hm
        · exact String.not_le.mp fun le => other (String.le_antisymm (String.not_lt.mp notLess) le).symm
        · exact below m hm

/-- Fields of distinct names become data, each once, but for the message. -/
theorem perm_foldl_record (r : Recorded) (hn : (r.data.map (·.1) ++ fields.map (·.1)).Nodup) :
    (fields.foldl record r).data.Perm (r.data ++ (fields.filter (¬ IsMessage ·)).map member) := by
  induction fields generalizing r with
  | nil => simp
  | cons f fields ih =>
    rw [List.map_cons] at hn
    rw [List.foldl_cons]
    by_cases hm : IsMessage f
    · rw [record_of_message r hm, List.filter_cons_of_neg (by simpa using hm)]
      exact ih { r with message := textual? f.2 } (hn.sublist (by simp))
    · have hfresh : f.1 ∉ r.data.map (·.1) := fun h =>
        (List.nodup_append.mp hn).2.2 _ h _ List.mem_cons_self rfl
      have hp := insertSorted_perm (scalar f.2) hfresh
      have hkeys : ((insertSorted f.1 (scalar f.2) r.data).map (·.1) ++ fields.map (·.1)).Nodup := by
        refine (List.Perm.nodup_iff ?_).mpr hn
        exact ((hp.map (·.1)).append_right _).trans List.perm_middle.symm
      rw [record_of_not_message r hm, List.filter_cons_of_pos (by simpa using hm)]
      refine (ih { r with data := insertSorted f.1 (scalar f.2) r.data } hkeys).trans ?_
      exact (hp.append_right _).trans List.perm_middle.symm

theorem ascending_foldl_record (r : Recorded) (h : Ascending r.data) :
    Ascending (fields.foldl record r).data := by
  induction fields generalizing r with
  | nil => exact h
  | cons f fields ih =>
    rw [List.foldl_cons]
    by_cases hm : IsMessage f
    · rw [record_of_message r hm]
      exact ih _ h
    · rw [record_of_not_message r hm]
      exact ih _ (ascending_insertSorted _ h)

theorem message_foldl_record (r : Recorded) (h : ∀ f ∈ fields, ¬ IsMessage f) :
    (fields.foldl record r).message = r.message := by
  induction fields generalizing r with
  | nil => rfl
  | cons f fields ih =>
    rw [List.foldl_cons, record_of_not_message r (h f List.mem_cons_self)]
    exact ih _ fun g hg => h g (List.mem_cons_of_mem f hg)

theorem perm_recorded (hn : (t.fields.map (·.1)).Nodup) :
    t.recorded.data.Perm ((t.fields.filter (¬ IsMessage ·)).map member) :=
  perm_foldl_record ⟨none, []⟩ hn

theorem ascending_recorded (t : Trace) : Ascending t.recorded.data :=
  ascending_foldl_record ⟨none, []⟩ .nil

theorem message_recorded_of_none (h : ∀ f ∈ t.fields, ¬ IsMessage f) : t.recorded.message = none :=
  message_foldl_record ⟨none, []⟩ h

theorem message_recorded {f : String × FieldValue} (hn : (t.fields.map (·.1)).Nodup) (hf : f ∈ t.fields)
    (hm : IsMessage f) : t.recorded.message = textual? f.2 := by
  obtain ⟨before, after, hs⟩ := List.append_of_mem hf
  have apart : ∀ g ∈ after, ¬ IsMessage g := by
    intro g hg same
    rw [hs, List.map_append, List.map_cons] at hn
    have later := (List.nodup_cons.mp (List.nodup_append.mp hn).2.1).1
    exact later (List.mem_map.mpr ⟨g, hg, same.1.trans hm.1.symm⟩)
  rw [recorded, hs, List.foldl_append, List.foldl_cons, record_of_message _ hm]
  exact message_foldl_record _ apart

end Trace

end AccessLog
