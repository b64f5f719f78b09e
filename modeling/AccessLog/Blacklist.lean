import AccessLog.Text.Lowercase
import AccessLog.Text.Quoted

/-!
# Paths that are not logged

Two sets of rules on the path of a request: beginnings, and whole paths. Both are matched without regard to
letter case, by comparing lower-case texts.
-/

namespace AccessLog

/-- The entries are lower case. -/
structure Blacklist where
  beginnings : List String
  whole : List String
  deriving DecidableEq, Repr

namespace Blacklist

def empty : Blacklist := ⟨[], []⟩

instance : Inhabited Blacklist := ⟨empty⟩

/-- Repeated whole paths count once. -/
def ofEntries (beginnings whole : List String) : Blacklist :=
  ⟨beginnings.map lowercase, (whole.map lowercase).eraseDups⟩

def isEmpty (b : Blacklist) : Bool := b.beginnings.isEmpty && b.whole.isEmpty

def begins (beginning path : String) : Bool := beginning.toList.isPrefixOf path.toList

def shouldLog (b : Blacklist) (path : String) : Bool :=
  if b.isEmpty then true
  else
    let path := lowercase path
    if b.beginnings.any (begins · path) then false else !b.whole.contains path

def debugText (b : Blacklist) : String :=
  "Blacklist \x7b starts_with: " ++ quotedList b.beginnings ++ ", equality: " ++ quotedSet b.whole
    ++ " \x7d"

theorem shouldLog_eq (b : Blacklist) (path : String) :
    b.shouldLog path =
      (!b.beginnings.any (begins · (lowercase path)) && !b.whole.contains (lowercase path)) := by
  unfold shouldLog
  by_cases h : b.isEmpty = true
  · simp only [isEmpty, Bool.and_eq_true, List.isEmpty_iff] at h
    simp [isEmpty, h.1, h.2]
  · simp only [h]
    cases b.beginnings.any (begins · (lowercase path)) <;> simp

end Blacklist

end AccessLog
