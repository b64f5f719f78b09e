import AccessLog.Http.Request
import AccessLog.Text.Quoted
import AccessLog.Uuid

/-!
# Exchange context

Values that a hook leaves at the request for itself to find at the response. A value is found under its key
and by its type; a later value under the same key replaces it, whatever the types.
-/

namespace AccessLog

/-- The values that can be kept, by their types. Of the types that nothing here asks for only the name is told. -/
inductive Kept where
  | word32 (n : UInt32)
  | word64 (n : UInt64)
  | integer (n : Int64)
  | text (s : String)
  | flag (b : Bool)
  | request (r : Request)
  | identifier (id : Uuid)
  | foreign (type : String)

/-- A type whose values can be kept, and found again as themselves. -/
class Keepable (α : Type) where
  keep : α → Kept
  find? : Kept → Option α
  find_keep : ∀ a, find? (keep a) = some a

instance : Keepable UInt32 := ⟨.word32, fun | .word32 n => some n | _ => none, fun _ => rfl⟩
instance : Keepable UInt64 := ⟨.word64, fun | .word64 n => some n | _ => none, fun _ => rfl⟩
instance : Keepable Int64 := ⟨.integer, fun | .integer n => some n | _ => none, fun _ => rfl⟩
instance : Keepable String := ⟨.text, fun | .text s => some s | _ => none, fun _ => rfl⟩
instance : Keepable Bool := ⟨.flag, fun | .flag b => some b | _ => none, fun _ => rfl⟩
instance : Keepable Request := ⟨.request, fun | .request r => some r | _ => none, fun _ => rfl⟩
instance : Keepable Uuid := ⟨.identifier, fun | .identifier u => some u | _ => none, fun _ => rfl⟩

structure Context where
  entries : List (String × Kept)

namespace Context

def empty : Context := ⟨[]⟩

instance : Inhabited Context := ⟨empty⟩

def set {α : Type} [Keepable α] (c : Context) (key : String) (a : α) : Context :=
  ⟨(key, Keepable.keep a) :: c.entries.filter (·.1 ≠ key)⟩

def get? (α : Type) [Keepable α] (c : Context) (key : String) : Option α :=
  (c.entries.lookup key).bind Keepable.find?

def debugText (c : Context) : String :=
  "Context \x7b keys: " ++ quotedList (c.entries.map (·.1)) ++ " \x7d"

@[simp] theorem get?_set_self {α : Type} [Keepable α] (c : Context) (key : String) (a : α) :
    (c.set key a).get? α key = some a := by
  simp [get?, set, Keepable.find_keep]

theorem lookup_filter_of_ne (l : List (String × Kept)) {key other : String} (h : other ≠ key) :
    (l.filter (·.1 ≠ key)).lookup other = l.lookup other := by
  induction l with
  | nil => rfl
  | cons x rest ih =>
    obtain ⟨k, v⟩ := x
    by_cases hk : k = key
    · subst hk
      have hb : (other == k) = false := by simp [h]
      simpa [List.lookup_cons, hb] using ih
    · by_cases ho : other = k
      · subst ho; simp [hk]
      · have hb : (other == k) = false := by simp [ho]
        simpa [hk, List.lookup_cons, hb] using ih

theorem lookup_set {α : Type} [Keepable α] (c : Context) (key other : String) (a : α) :
    (c.set key a).entries.lookup other =
      if other = key then some (Keepable.keep a) else c.entries.lookup other := by
  by_cases h : other = key
  · simp [set, h]
  · have hb : (other == key) = false := by simp [h]
    rw [if_neg h, set, List.lookup_cons, hb]
    exact lookup_filter_of_ne _ h

theorem get?_set_of_ne {α β : Type} [Keepable α] [Keepable β] (c : Context) {key other : String}
    (a : α) (h : other ≠ key) : (c.set key a).get? β other = c.get? β other := by
  rw [get?, lookup_set, if_neg h, get?]

end Context

end AccessLog
