import AccessLog.Address

/-!
# Reading network addresses

Every reader takes what it can from the front of a text and gives back the rest. An octet has no leading
zeros, a group of a version 6 address has one to four hexadecimal digits, and the last two groups may be
written as a version 4 address.
-/

namespace AccessLog

namespace Address

abbrev Reader (α : Type) := List Char → Option (α × List Char)

def hexValue? (c : Char) : Option Nat :=
  if '0' ≤ c ∧ c ≤ '9' then some (c.toNat - 48)
  else if 'a' ≤ c ∧ c ≤ 'f' then some (c.toNat - 87)
  else if 'A' ≤ c ∧ c ≤ 'F' then some (c.toNat - 55)
  else none

def digitValue? (base : Nat) (c : Char) : Option Nat := (hexValue? c).filter (· < base)

def isDigitIn (base : Nat) (c : Char) : Bool := (digitValue? base c).isSome

def valueIn (base : Nat) (digits : List Char) : Nat :=
  digits.foldl (fun n c => n * base + (digitValue? base c).getD 0) 0

/-- All the digits in front, as a number up to `greatest`; at most `most` digits where that is given,
and a zero in front of others only where `zeros` allows it. -/
def number (base greatest : Nat) (most : Option Nat) (zeros : Bool) : Reader Nat := fun s =>
  let digits := s.takeWhile (isDigitIn base)
  let n := valueIn base digits
  if digits.isEmpty || most.any (· < digits.length) || greatest < n
      || (!zeros && 1 < digits.length && digits.head? == some '0') then none
  else some (n, s.dropWhile (isDigitIn base))

def char (c : Char) : Reader Unit
  | d :: rest => if d = c then some ((), rest) else none
  | [] => none

def octet : Reader UInt8 := fun s => do
  let (n, s) ← number 10 255 (some 3) false s
  some (n.toUInt8, s)

def v4 : Reader (UInt8 × UInt8 × UInt8 × UInt8) := fun s => do
  let (a, s) ← octet s
  let (_, s) ← char '.' s
  let (b, s) ← octet s
  let (_, s) ← char '.' s
  let (c, s) ← octet s
  let (_, s) ← char '.' s
  let (d, s) ← octet s
  some ((a, b, c, d), s)

def group : Reader UInt16 := fun s => do
  let (n, s) ← number 16 0xFFFF (some 4) true s
  some (n.toUInt16, s)

def separated {α : Type} (isFirst : Bool) (item : Reader α) : Reader α := fun s =>
  if isFirst then item s
  else do
    let (_, s) ← char ':' s
    item s

/-- Up to `room` groups from the front, and whether the last two came as a version 4 address. -/
def groups (isFirst : Bool) : Nat → List Char → List UInt16 × Bool × List Char
  | 0, s => ([], false, s)
  | room + 1, s =>
    let embedded := if 0 < room then separated isFirst v4 s else none
    match embedded with
    | some ((a, b, c, d), rest) =>
      ([a.toUInt16 * 256 + b.toUInt16, c.toUInt16 * 256 + d.toUInt16], true, rest)
    | none =>
      match separated isFirst group s with
      | none => ([], false, s)
      | some (g, rest) =>
        let (more, dotted, rest) := groups false room rest
        (g :: more, dotted, rest)

/-- Eight groups, or fewer around one `::`. -/
def v6 : Reader (List UInt16) := fun s =>
  let (head, dotted, rest) := groups true 8 s
  if head.length = 8 then some (head, rest)
  else if dotted then none
  else do
    let (_, rest) ← char ':' rest
    let (_, rest) ← char ':' rest
    let (tail, _, rest) := groups true (7 - head.length) rest
    some (head ++ List.replicate (8 - head.length - tail.length) 0 ++ tail, rest)

def ip : Reader IpAddress := fun s =>
  match v4 s with
  | some ((a, b, c, d), rest) => some (.v4 a b c d, rest)
  | none => (v6 s).map fun (g, rest) => (.v6 g, rest)

def port : Reader UInt16 := fun s => do
  let (_, s) ← char ':' s
  let (n, s) ← number 10 0xFFFF none true s
  some (n.toUInt16, s)

def scope : Reader UInt32 := fun s =>
  match char '%' s with
  | none => some (0, s)
  | some (_, rest) => (number 10 0xFFFFFFFF none true rest).map fun (n, rest) => (n.toUInt32, rest)

def socketV4 : Reader SocketAddress := fun s => do
  let ((a, b, c, d), s) ← v4 s
  let (p, s) ← port s
  some (⟨.v4 a b c d, p, 0⟩, s)

def socketV6 : Reader SocketAddress := fun s => do
  let (_, s) ← char '[' s
  let (g, s) ← v6 s
  let (n, s) ← scope s
  let (_, s) ← char ']' s
  let (p, s) ← port s
  some (⟨.v6 g, p, n⟩, s)

def socket : Reader SocketAddress := fun s => socketV4 s <|> socketV6 s

def whole {α : Type} (read : Reader α) (s : List Char) : Option α :=
  match read s with
  | some (a, []) => some a
  | _ => none

end Address

def IpAddress.parse? (s : String) : Option IpAddress := Address.whole Address.ip s.toList

def SocketAddress.parse? (s : String) : Option SocketAddress := Address.whole Address.socket s.toList

end AccessLog
