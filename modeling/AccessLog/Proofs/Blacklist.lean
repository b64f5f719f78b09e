import AccessLog.Blacklist
import AccessLog.Proofs.Text.Lowercase

/-!
# What a blacklist keeps out

A path is kept out when, in lower case, it begins like one of the beginnings or is one of the whole paths. A path
that begins with an entry letter by letter is kept out whatever follows, unless what follows goes on with a word
which the entry ends in a capital sigma.
-/

namespace AccessLog

namespace Blacklist

theorem begins_iff (beginning path : String) :
    begins beginning path = true ↔ beginning.toList <+: path.toList :=
  List.isPrefixOf_iff_prefix

theorem shouldLog_ofEntries (beginnings whole : List String) (path : String) :
    (ofEntries beginnings whole).shouldLog path = false ↔
      (∃ entry ∈ beginnings, begins (lowercase entry) (lowercase path) = true) ∨
        ∃ entry ∈ whole, lowercase entry = lowercase path := by
  rw [shouldLog_eq, ofEntries, Bool.and_eq_false_iff, Bool.not_eq_false', Bool.not_eq_false',
    List.any_map, List.any_eq_true, List.contains_iff_mem, List.mem_eraseDups, List.mem_map]
  rfl

/-- The entry ends in a capital sigma behind a letter, and the rest goes on with a letter; characters that are
case-ignorable do not count. The small letter of the sigma is then another one in the whole than in the entry. -/
def Splits (entry rest : String) : Prop := Text.SplitsSigma [] entry.toList rest.toList

theorem begins_lowercase_iff (entry rest : String) :
    begins (lowercase entry) (lowercase (entry ++ rest)) = true ↔ ¬ Splits entry rest := by
  rw [begins_iff, toList_lowercase, toList_lowercase, String.toList_append]
  exact Text.lowerAfter_isPrefix_iff [] entry.toList rest.toList

/-- Exactly when an entry keeps out what begins with it, whatever else is on the blacklist. -/
theorem shouldLog_of_begins_iff (entry rest : String) :
    (∀ beginnings whole, entry ∈ beginnings →
      (ofEntries beginnings whole).shouldLog (entry ++ rest) = false) ↔ ¬ Splits entry rest := by
  constructor
  · intro h
    have alone := h [entry] [] (List.mem_singleton_self entry)
    rw [shouldLog_ofEntries] at alone
    rcases alone with ⟨other, ho, hb⟩ | ⟨other, ho, -⟩
    · obtain rfl := List.mem_singleton.mp ho
      exact (begins_lowercase_iff _ rest).mp hb
    · cases ho
  · intro h beginnings whole he
    rw [shouldLog_ofEntries]
    exact .inl ⟨entry, he, (begins_lowercase_iff entry rest).mpr h⟩

/-- The path begins with the entry and is logged. -/
theorem logged_behind_sigma :
    "/ΑΣΑ" = "/ΑΣ" ++ "Α" ∧ (ofEntries ["/ΑΣ"] []).shouldLog "/ΑΣΑ" = true := by
  constructor
  · decide
  · decide +kernel

end Blacklist

end AccessLog
