import AccessLog.Decimal.Digits

/-!
# Reading integers

A decimal integer of a bounded type: one sign in front, then digits and nothing else. The error says what
was wrong with the first fault met from left to right.
-/

namespace AccessLog

inductive IntegerError where
  | empty
  | invalidDigit
  | tooLarge
  | tooSmall
  deriving DecidableEq, Repr

def IntegerError.message : IntegerError → String
  | .empty => "cannot parse integer from empty string"
  | .invalidDigit => "invalid digit found in string"
  | .tooLarge => "number too large to fit in target type"
  | .tooSmall => "number too small to fit in target type"

structure IntegerRange where
  least : Int
  greatest : Int
  deriving DecidableEq, Repr

namespace IntegerRange

def unsigned (bits : Nat) : IntegerRange := ⟨0, Nat.pow 2 bits - 1⟩

def signed (bits : Nat) : IntegerRange := ⟨-Nat.pow 2 (bits - 1), Nat.pow 2 (bits - 1) - 1⟩

/-- Adds the digits one by one, upwards from `n`. -/
def readUp (r : IntegerRange) (n : Int) : List Char → Except IntegerError Int
  | [] => .ok n
  | c :: rest =>
    if !Decimal.isDigit c then .error .invalidDigit
    else if n * 10 + Decimal.digitValue c > r.greatest then .error .tooLarge
    else readUp r (n * 10 + Decimal.digitValue c) rest

def readDown (r : IntegerRange) (n : Int) : List Char → Except IntegerError Int
  | [] => .ok n
  | c :: rest =>
    if !Decimal.isDigit c then .error .invalidDigit
    else if n * 10 - Decimal.digitValue c < r.least then .error .tooSmall
    else readDown r (n * 10 - Decimal.digitValue c) rest

/-- A lone sign is an invalid digit, and so is a minus sign where no number is negative. -/
def read (r : IntegerRange) (s : List Char) : Except IntegerError Int :=
  match s with
  | [] => .error .empty
  | ['+'] => .error .invalidDigit
  | ['-'] => .error .invalidDigit
  | '+' :: digits => r.readUp 0 digits
  | '-' :: digits => if r.least < 0 then r.readDown 0 digits else .error .invalidDigit
  | digits => r.readUp 0 digits

end IntegerRange

end AccessLog
