import AccessLog.Address.Parser
import AccessLog.Decimal.Reader
import AccessLog.Settings.Error
import AccessLog.Text.Pieces

/-!
# Variables

Named texts that settings are read from. For optional and parsed values an empty text is no value; for raw
values and flags it is one.
-/

namespace AccessLog

structure Variables where
  get : String → Option String

namespace Variables

def empty : Variables := ⟨fun _ => none⟩

instance : Inhabited Variables := ⟨empty⟩

/-- Of several values for one name the last counts. -/
def ofPairs (pairs : List (String × String)) : Variables := ⟨fun key => pairs.reverse.lookup key⟩

def getOr (v : Variables) (key default : String) : String := (v.get key).getD default

def given (v : Variables) (key : String) : Option String := (v.get key).filter (· ≠ "")

/-- `1` and `true` in any letter case mean yes, all else means no. -/
def isYes (s : String) : Bool := s == "1" || s.toList.map Char.toLower == "true".toList

def flag (v : Variables) (key : String) (default : Bool) : Bool :=
  match v.get key with
  | some s => isYes s
  | none => default

/-- Reads a value that is not empty; where none is given, the default stands. -/
def parse {α : Type} (v : Variables) (read : String → Except String α) (key : String)
    (default : α) : Except SettingsError α :=
  match v.given key with
  | none => .ok default
  | some value =>
    match read value with
    | .ok a => .ok a
    | .error detail => .error (.unreadable key value detail)

def list (v : Variables) (key : String) : List String :=
  match v.get key with
  | some s => commaList s
  | none => []

end Variables

namespace Reading

def integer (range : IntegerRange) (s : String) : Except String Int :=
  match range.read s.toList with
  | .ok n => .ok n
  | .error e => .error e.message

def bool (s : String) : Except String Bool :=
  if s = "true" then .ok true
  else if s = "false" then .ok false
  else .error "provided string was not `true` or `false`"

def ipAddress (s : String) : Except String IpAddress :=
  match IpAddress.parse? s with
  | some ip => .ok ip
  | none => .error "invalid IP address syntax"

def socketAddress (s : String) : Except String SocketAddress :=
  match SocketAddress.parse? s with
  | some a => .ok a
  | none => .error "invalid socket address syntax"

end Reading

end AccessLog
