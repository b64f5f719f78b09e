import AccessLog.Text.Utf8
import AccessLog.Decimal.Digits
import AccessLog.Uuid

/-!
# Reading identifiers

Four spellings are read: 32 digits, the hyphenated groups, the groups in braces, and the groups after
`urn:uuid:`. Lengths and offsets count bytes. When none of them fits, a second look at the text finds
the fault to report: the first character that has no place, then a wrong number of groups, then
the first group of a wrong length.
-/

namespace AccessLog

namespace Uuid

inductive ParseError where
  | invalidLength (found : Nat)
  | invalidCharacter (found : Char) (offset : Nat)
  | groupCount (found : Nat)
  | groupLength (group expected found : Nat)
  | notText
  deriving DecidableEq, Repr

def ParseError.message : ParseError → String
  | .invalidLength found => "invalid length: found " ++ natText found
  | .invalidCharacter found offset =>
    "invalid character: found `" ++ String.ofList [found] ++ "` at " ++ natText offset
  | .groupCount found => "invalid group count: expected 5, found " ++ natText found
  | .groupLength group expected found =>
    "invalid group length in group " ++ natText group ++ ": expected " ++ natText expected
      ++ ", found " ++ natText found
  | .notText => "non-UTF8 input"

def hexValue? (b : UInt8) : Option Nat :=
  if 48 ≤ b && b ≤ 57 then some (b.toNat - 48)
  else if 97 ≤ b && b ≤ 102 then some (b.toNat - 87)
  else if 65 ≤ b && b ≤ 70 then some (b.toNat - 55)
  else none

def spelled? (n : Nat) : Bytes → Option Nat
  | [] => some n
  | b :: rest => (hexValue? b).bind fun d => spelled? (n * 16 + d) rest

def hyphen : UInt8 := 45

/-- The groups without their hyphens, if hyphens stand after 8, 12, 16 and 20 digits. -/
def ungrouped? (bytes : Bytes) : Option Bytes :=
  if bytes.length = 36 ∧ bytes[8]? = some hyphen ∧ bytes[13]? = some hyphen
      ∧ bytes[18]? = some hyphen ∧ bytes[23]? = some hyphen then
    some (bytes.take 8 ++ (bytes.drop 9).take 4 ++ (bytes.drop 14).take 4
      ++ (bytes.drop 19).take 4 ++ bytes.drop 24)
  else none

def simple? (bytes : Bytes) : Option Uuid := (spelled? 0 bytes).map ofNat

def hyphenated? (bytes : Bytes) : Option Uuid := (ungrouped? bytes).bind simple?

def smallByte (b : UInt8) : UInt8 := if 65 ≤ b && b ≤ 90 then b + 32 else b

def urnMark : Bytes := [117, 114, 110, 58, 117, 117, 105, 100, 58]

def startsWithUrn (bytes : Bytes) : Bool := (bytes.take 9).map smallByte == urnMark

def isBraced (bytes : Bytes) : Bool := bytes.head? == some 123 && bytes.getLast? == some 125

inductive Shape where
  | unknown
  | hyphenated
  | braced
  | urn
  deriving DecidableEq, Repr

/-- What the scan has met: hyphens, and the offsets of the first four. -/
structure Scan where
  shape : Shape
  hyphens : Nat
  offsets : List Nat

/-- Goes through the characters from `offset` on; stops at one that has no place. -/
def scan (found : Scan) (offset : Nat) : List Char → Except (Char × Nat) Scan
  | [] => .ok found
  | c :: rest =>
    let next := offset + c.utf8Size
    if c.toNat < 0x80 && (hexValue? c.toNat.toUInt8).isSome then scan found next rest
    else if c = '-' then
      scan { shape := if found.shape = .unknown then .hyphenated else found.shape
             hyphens := found.hyphens + 1
             offsets := if found.hyphens < 4 then found.offsets ++ [offset] else found.offsets }
        next rest
    else .error (c, offset)

def groupStarts : List (Nat × Nat × Nat) := [(0, 0, 9), (1, 9, 14), (2, 14, 19), (3, 19, 24)]

def groupSize : Nat → Nat
  | 0 => 8
  | 4 => 12
  | _ => 4

/-- The first of the first four groups that does not end where the next should begin. -/
def misplacedGroup? (offsets : List Nat) : Option ParseError :=
  (groupStarts.zip offsets).findSome? fun ((group, start, next), offset) =>
    if offset ≠ next - 1 then some (.groupLength group (groupSize group) (offset - start)) else none

def wordCount : Nat := 0x1_0000_0000_0000_0000

/-- The fault of a text that none of the spellings fits. `shape` is what the length already settled. -/
def diagnose (shape : Shape) (bytes : Bytes) : ParseError :=
  if bytes.length = 0 ∨ 45 < bytes.length then .invalidLength bytes.length
  else match Utf8.decode? bytes with
  | none => .notText
  | some text =>
    let (shape, skipped, inner) : Shape × Nat × List Char :=
      if shape = .unknown ∧ 1 < bytes.length ∧ isBraced bytes then
        (.braced, 1, (text.drop 1).dropLast)
      else if shape = .unknown ∧ startsWithUrn bytes then (.urn, 9, text.drop 9)
      else (shape, 0, text)
    match scan ⟨shape, 0, []⟩ 0 inner with
    | .error (c, offset) => .invalidCharacter c (offset + skipped)
    | .ok found =>
      if found.shape = .unknown then .invalidLength bytes.length
      else if found.hyphens ≠ 4 then .groupCount (found.hyphens + 1)
      else match misplacedGroup? found.offsets with
        | some e => e
        | none => .groupLength 4 12 ((bytes.length + wordCount - 24) % wordCount)

def orDiagnose (u : Option Uuid) (shape : Shape) (bytes : Bytes) : Except ParseError Uuid :=
  match u with
  | some u => .ok u
  | none => .error (diagnose shape bytes)

def parseBytes (bytes : Bytes) : Except ParseError Uuid :=
  if bytes.length = 32 then orDiagnose (simple? bytes) .unknown bytes
  else if bytes.length = 36 then orDiagnose (hyphenated? bytes) .hyphenated bytes
  else if bytes.length = 38 ∧ isBraced bytes then
    let inner := (bytes.drop 1).dropLast
    orDiagnose (hyphenated? inner) .hyphenated inner
  else if bytes.length = 45 ∧ startsWithUrn bytes then
    orDiagnose (hyphenated? (bytes.drop 9)) .hyphenated (bytes.drop 9)
  else .error (diagnose .unknown bytes)

def parse (raw : String) : Except ParseError Uuid := parseBytes (utf8 raw)

end Uuid

end AccessLog
