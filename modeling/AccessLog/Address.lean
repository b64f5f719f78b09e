import AccessLog.Decimal.Digits

/-!
# Network addresses

IP addresses of both versions and socket addresses, with their canonical text: version 6 in lower-case
hexadecimal, the longest run of zero groups shortened, and an embedded version 4 address in dots.
-/

namespace AccessLog

/-- A version 6 address is a list of eight groups. -/
inductive IpAddress where
  | v4 (a b c d : UInt8)
  | v6 (groups : List UInt16)
  deriving DecidableEq, Repr

/-- A scope is zero where none is given, and always for version 4. -/
structure SocketAddress where
  ip : IpAddress
  port : UInt16
  scope : UInt32
  deriving DecidableEq, Repr

namespace IpAddress

def octetText (n : UInt8) : List Char := Decimal.ofNat n.toNat

def dottedText (a b c d : UInt8) : List Char :=
  octetText a ++ '.' :: octetText b ++ '.' :: octetText c ++ '.' :: octetText d

def groupText (n : UInt16) : List Char := Nat.toDigits 16 n.toNat

def groupsText (groups : List UInt16) : List Char :=
  List.intercalate [':'] (groups.map groupText)

structure ZeroRun where
  start : Nat
  length : Nat

/-- The longest run of zeros from `position` on, the first of equal ones; `current` is the run that
may still grow. -/
def longestZeros (position : Nat) (current longest : ZeroRun) : List UInt16 → ZeroRun
  | [] => longest
  | g :: rest =>
    if g = 0 then
      let grown : ZeroRun :=
        if current.length = 0 then ⟨position, 1⟩ else ⟨current.start, current.length + 1⟩
      longestZeros (position + 1) grown (if longest.length < grown.length then grown else longest) rest
    else longestZeros (position + 1) ⟨0, 0⟩ longest rest

def v6Text (groups : List UInt16) : List Char :=
  match groups with
  | [0, 0, 0, 0, 0, 0xFFFF, x, y] =>
    "::ffff:".toList
      ++ dottedText (x >>> 8).toUInt8 x.toUInt8 (y >>> 8).toUInt8 y.toUInt8
  | _ =>
    let run := longestZeros 0 ⟨0, 0⟩ ⟨0, 0⟩ groups
    if 1 < run.length then
      groupsText (groups.take run.start) ++ "::".toList
        ++ groupsText (groups.drop (run.start + run.length))
    else groupsText groups

def chars : IpAddress → List Char
  | .v4 a b c d => dottedText a b c d
  | .v6 groups => v6Text groups

def text (ip : IpAddress) : String := String.ofList ip.chars

end IpAddress

namespace SocketAddress

def chars (s : SocketAddress) : List Char :=
  let port := ':' :: Decimal.ofNat s.port.toNat
  match s.ip with
  | .v4 .. => s.ip.chars ++ port
  | .v6 _ =>
    let scope := if s.scope = 0 then [] else '%' :: Decimal.ofNat s.scope.toNat
    '[' :: s.ip.chars ++ scope ++ ']' :: port

def text (s : SocketAddress) : String := String.ofList s.chars

end SocketAddress

end AccessLog
