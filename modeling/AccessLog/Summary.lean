import AccessLog.Decimal.Digits
import AccessLog.Instant

/-!
# Summaries

One line about an exchange: `<method> <url> : <status>, [<n> bytes in ]<t> ms`. The clause on the bytes is
left out when the size is unknown or zero.
-/

namespace AccessLog

/-- Microseconds as milliseconds with one decimal; a half goes up. -/
def prettyTime (micros : Nat) : List Char :=
  let tenths := min (micros + 50) longestMicros / 100
  Decimal.ofNat (tenths / 10) ++ '.' :: Decimal.ofNat (tenths % 10) ++ [' ', 'm', 's']

structure Summary where
  method : String
  url : String
  status : Nat
  responseSize : Option Nat
  micros : Nat

namespace Summary

def bytesClause (size : Option Nat) : List Char :=
  match size.filter (0 < ·) with
  | some n => Decimal.ofNat n ++ " bytes in ".toList
  | none => []

def chars (s : Summary) : List Char :=
  s.method.toList ++ ' ' :: s.url.toList ++ " : ".toList ++ Decimal.ofNat s.status ++ ", ".toList
    ++ bytesClause s.responseSize ++ prettyTime s.micros

def text (s : Summary) : String := String.ofList s.chars

end Summary

end AccessLog
