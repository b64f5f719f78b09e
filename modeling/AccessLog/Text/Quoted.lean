import AccessLog.Text.PrintTable

/-!
# Quoted text

A text in double quotes, with everything that would not show spelled out. Hidden characters and marks that
extend the character before them are written by their number.
-/

namespace AccessLog

def isHidden (c : Char) : Bool := hiddenRanges.contains c

def isExtending (c : Char) : Bool := extendingRanges.contains c

namespace Quoted

def codeDigits (n : Nat) : List Char := Nat.toDigits 16 n

def byNumber (c : Char) : List Char := ['\\', 'u', '\x7b'] ++ codeDigits c.toNat ++ ['\x7d']

def escape (c : Char) : List Char :=
  if c = '"' then ['\\', '"']
  else if c = '\\' then ['\\', '\\']
  else if c = '\n' then ['\\', 'n']
  else if c = '\r' then ['\\', 'r']
  else if c = '\t' then ['\\', 't']
  else if c = '\x00' then ['\\', '0']
  else if 0x20 ≤ c.toNat && c.toNat < 0x7F then [c]
  else if isHidden c || isExtending c then byNumber c
  else [c]

def encode (s : List Char) : List Char := '"' :: s.flatMap escape ++ ['"']

end Quoted

def quoted (s : String) : String := String.ofList (Quoted.encode s.toList)

def quotedList (l : List String) : String := "[" ++ String.intercalate ", " (l.map quoted) ++ "]"

def quotedSet (l : List String) : String :=
  "\x7b" ++ String.intercalate ", " (l.map quoted) ++ "\x7d"

def quotedOption : Option String → String
  | none => "None"
  | some s => "Some(" ++ quoted s ++ ")"

end AccessLog
