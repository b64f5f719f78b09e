import AccessLog.Http.Method
import AccessLog.Text.Utf8

/-!
# Headers

A list of names with values, in the order in which they were added; one name may have several values. Names
are lower case, and values are bytes that need not be text.
-/

namespace AccessLog

structure HeaderName where
  text : String
  deriving DecidableEq, Repr

namespace HeaderName

def longest : Nat := 65535

/-- A token of any letter case that is not too long. -/
def parse? (s : String) : Option HeaderName :=
  if Http.isToken s && byteLength s ≤ longest then
    some ⟨String.ofList (s.toList.map Char.toLower)⟩
  else none

end HeaderName

structure HeaderValue where
  bytes : Bytes
  deriving DecidableEq, Repr

namespace HeaderValue

def isAllowed (b : UInt8) : Bool := b = 9 || (32 ≤ b && b ≠ 127)

def isVisible (b : UInt8) : Bool := b = 9 || (32 ≤ b && b < 127)

def parse? (bytes : Bytes) : Option HeaderValue :=
  if bytes.all isAllowed then some ⟨bytes⟩ else none

/-- The value as text if all of it is visible ASCII, blanks and tabs. -/
def visible? (v : HeaderValue) : Option String :=
  if v.bytes.all isVisible then
    some (String.ofList (v.bytes.map fun b => Char.ofNat b.toNat))
  else none

/-- The value as text, with replacement characters for what is not UTF-8. -/
def lossy (v : HeaderValue) : String := textOfBytes v.bytes

end HeaderValue

structure Headers where
  entries : List (HeaderName × HeaderValue)
  deriving DecidableEq, Repr

namespace Headers

def empty : Headers := ⟨[]⟩

instance : Inhabited Headers := ⟨empty⟩

def values (h : Headers) (name : HeaderName) : List HeaderValue :=
  (h.entries.filter (·.1 = name)).map (·.2)

def get? (h : Headers) (name : HeaderName) : Option HeaderValue := (h.values name).head?

def contains (h : Headers) (name : HeaderName) : Bool := h.entries.any (·.1 = name)

def append (h : Headers) (name : HeaderName) (value : HeaderValue) : Headers :=
  ⟨h.entries ++ [(name, value)]⟩

def insert (h : Headers) (name : HeaderName) (value : HeaderValue) : Headers :=
  ⟨h.entries.filter (·.1 ≠ name) ++ [(name, value)]⟩

/-- Replaces by text; a pair that is no header changes nothing. -/
def insertText (h : Headers) (name value : String) : Headers :=
  match HeaderName.parse? name, HeaderValue.parse? (utf8 value) with
  | some n, some v => h.insert n v
  | _, _ => h

def lookup (h : Headers) (name : String) : Option String :=
  ((HeaderName.parse? name).bind h.get?).bind HeaderValue.visible?

@[simp] theorem values_insert_self (h : Headers) (name : HeaderName) (value : HeaderValue) :
    (h.insert name value).values name = [value] := by
  simp [values, insert, List.filter_append, List.filter_filter]

theorem values_insert_of_ne (h : Headers) {name other : HeaderName} (value : HeaderValue)
    (ne : other ≠ name) : (h.insert name value).values other = h.values other := by
  simp only [values, insert, List.filter_append, List.filter_filter]
  congr 1
  have : List.filter (fun x => decide (x.1 = other)) [(name, value)] = [] := by
    simp [Ne.symm ne]
  rw [this, List.append_nil]
  apply List.filter_congr
  intro x _
  by_cases hx : x.1 = other <;> simp [hx, ne]

end Headers

end AccessLog
