/-!
# UTF-8

Text as bytes and bytes as text. Reading never fails: each longest piece that could have begun a character
but did not become one is read as the replacement character U+FFFD.
-/

namespace AccessLog

abbrev Bytes := List UInt8

def utf8 (s : String) : Bytes := s.toList.flatMap String.utf8EncodeChar

namespace Utf8

def replacement : Char := '\uFFFD'

/-- What a first byte asks of the bytes after it: how many there are, and the range of the first of them,
which keeps out long spellings, surrogates and numbers above U+10FFFF. -/
structure Lead where
  more : Nat
  low : UInt8
  high : UInt8
  bits : Nat

def lead? (b : UInt8) : Option Lead :=
  if b < 0x80 then some ⟨0, 0x80, 0xBF, b.toNat⟩
  else if b < 0xC2 then none
  else if b < 0xE0 then some ⟨1, 0x80, 0xBF, b.toNat - 0xC0⟩
  else if b = 0xE0 then some ⟨2, 0xA0, 0xBF, 0⟩
  else if b = 0xED then some ⟨2, 0x80, 0x9F, 0xD⟩
  else if b < 0xF0 then some ⟨2, 0x80, 0xBF, b.toNat - 0xE0⟩
  else if b = 0xF0 then some ⟨3, 0x90, 0xBF, 0⟩
  else if b < 0xF4 then some ⟨3, 0x80, 0xBF, b.toNat - 0xF0⟩
  else if b = 0xF4 then some ⟨3, 0x80, 0x8F, 4⟩
  else none

/-- What the reader waits for: nothing, or `more` bytes, the next one between `low` and `high`. -/
inductive Pending where
  | idle
  | inside (lead : Lead)

/-- Reads on from `p`: a character as it completes, `none` for each piece given up. -/
def scan : Pending → Bytes → List (Option Char)
  | .idle, [] => []
  | .inside _, [] => [none]
  | .idle, b :: rest =>
    match lead? b with
    | none => none :: scan .idle rest
    | some l =>
      if l.more = 0 then some (Char.ofNat l.bits) :: scan .idle rest else scan (.inside l) rest
  | .inside l, b :: rest =>
    if l.low ≤ b && b ≤ l.high then
      let bits := l.bits * 64 + (b.toNat - 0x80)
      if l.more = 1 then some (Char.ofNat bits) :: scan .idle rest
      else scan (.inside ⟨l.more - 1, 0x80, 0xBF, bits⟩) rest
    else
      match lead? b with
      | none => none :: none :: scan .idle rest
      | some l' =>
        none :: if l'.more = 0 then some (Char.ofNat l'.bits) :: scan .idle rest
          else scan (.inside l') rest

def decodeLossy (bytes : Bytes) : List Char := (scan .idle bytes).map (·.getD replacement)

def decode? (bytes : Bytes) : Option (List Char) := (scan .idle bytes).mapM id

end Utf8

def textOfBytes (bytes : Bytes) : String := String.ofList (Utf8.decodeLossy bytes)

def textOfBytes? (bytes : Bytes) : Option String := (Utf8.decode? bytes).map String.ofList

def byteLength (s : String) : Nat := (utf8 s).length

end AccessLog
