import AccessLog.Text.Blank

/-!
# Lists written as text

Entries between commas: blanks around an entry do not count, and entries with nothing in them are left out.
-/

namespace AccessLog

namespace Text

/-- The pieces between the separators; there is always one more than there are separators. -/
def pieces (separator : Char) : List Char → List (List Char)
  | [] => [[]]
  | c :: rest =>
    if c = separator then [] :: pieces separator rest
    else match pieces separator rest with
      | p :: ps => (c :: p) :: ps
      | [] => [[c]]

def entries (s : List Char) : List (List Char) :=
  ((pieces ',' s).map trim).filter (!·.isEmpty)

@[simp] theorem pieces_ne_nil (separator : Char) (s : List Char) : pieces separator s ≠ [] := by
  induction s with
  | nil => simp [pieces]
  | cons c rest ih =>
    by_cases h : c = separator
    · simp [pieces, h]
    · simp only [pieces, h, if_false]
      cases pieces separator rest <;> simp

end Text

def commaList (s : String) : List String := (Text.entries s.toList).map String.ofList

end AccessLog
