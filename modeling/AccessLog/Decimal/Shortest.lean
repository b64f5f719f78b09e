import AccessLog.Decimal.Digits

/-!
# Shortest decimals

The fewest decimal digits that read back as a given double, and the nearest of those. The double is
`mantissa * 2 ^ power`; the reals that round to it form an interval around it, whose ends belong to it when
the mantissa is even.
-/

namespace AccessLog

structure Decimal.Scaled where
  digits : Nat
  exponent : Int
  deriving DecidableEq, Repr

namespace Shortest

/-- Quarters of the unit in the last place, so that both ends of the interval are whole numbers:
the double is `centre * scale / divisor`. -/
structure Interval where
  low : Nat
  centre : Nat
  high : Nat
  scale : Nat
  divisor : Nat
  closed : Bool

/-- The lower half of the interval is narrower at a power of two. -/
def interval (mantissa : Nat) (power : Int) (atPower : Bool) : Interval :=
  { low := if atPower then 4 * mantissa - 1 else 4 * mantissa - 2
    centre := 4 * mantissa
    high := 4 * mantissa + 2
    scale := Nat.pow 2 (power - 2).toNat
    divisor := Nat.pow 2 (2 - power).toNat
    closed := mantissa % 2 == 0 }

/-- `n` units of the interval, counted in steps of `10 ^ t`, as numerator and denominator. -/
def inSteps (i : Interval) (t : Int) (n : Nat) : Nat × Nat :=
  (n * i.scale * Nat.pow 10 (-t).toNat, i.divisor * Nat.pow 10 t.toNat)

/-- Whether `x * 10 ^ t` rounds to the double. -/
def hits (i : Interval) (t : Int) (x : Nat) : Bool :=
  let (low, unit) := inSteps i t i.low
  let (high, _) := inSteps i t i.high
  if i.closed then low ≤ x * unit && x * unit ≤ high else low < x * unit && x * unit < high

/-- The nearer of the two neighbours of the double on the grid of steps `10 ^ t`, if one of them hits;
of two equally near the even one. -/
def onGrid (i : Interval) (t : Int) : Option Nat :=
  let (centre, unit) := inSteps i t i.centre
  let below := centre / unit
  let above := below + 1
  match hits i t below, hits i t above with
  | false, false => none
  | true, false => some below
  | false, true => some above
  | true, true =>
    let down := centre - below * unit
    let up := above * unit - centre
    if down < up || (down == up && below % 2 == 0) then some below else some above

/-- How many digits stand before the point; negative counts zeros after it. -/
def pointPlace (i : Interval) : Int :=
  let n := i.centre * i.scale * Nat.pow 10 400 / i.divisor
  (Decimal.ofNat n).length - 400

def search (i : Interval) (place : Int) : Nat → Nat → Decimal.Scaled
  | 0, _ => ⟨0, 0⟩
  | fuel + 1, count =>
    match onGrid i (place - count) with
    | some x => ⟨x, place - count⟩
    | none => search i place fuel (count + 1)

def strip : Nat → Decimal.Scaled → Decimal.Scaled
  | 0, s => s
  | fuel + 1, s =>
    if s.digits % 10 = 0 && s.digits != 0 then strip fuel ⟨s.digits / 10, s.exponent + 1⟩ else s

def ofInterval (i : Interval) : Decimal.Scaled := strip 20 (search i (pointPlace i) 18 1)

end Shortest

inductive Double where
  | notANumber
  | infinite (negative : Bool)
  | finite (negative : Bool) (mantissa : Nat) (power : Int) (atPower : Bool)
  deriving DecidableEq, Repr

def Double.fractions : Nat := 0x10_0000_0000_0000

/-- From the top: a bit for the sign, eleven for the exponent, and the rest of the mantissa. -/
def Double.ofFloat (x : Float) : Double :=
  let bits := x.toBits.toNat
  let negative := bits / fractions / 2048 == 1
  let exponent : Nat := bits / fractions % 2048
  let fraction := bits % fractions
  if exponent = 2047 then if fraction = 0 then .infinite negative else .notANumber
  else if exponent = 0 then .finite negative fraction (-1074) false
  else .finite negative (fraction + fractions) ((exponent : Int) - 1075) (fraction == 0 && exponent > 1)

/-- How a number is laid out: where positional notation ends, and whether a whole number keeps `.0`. -/
structure NumberLayout where
  positional : Int → Bool
  wholeMark : Bool

namespace NumberLayout

/-- Positional while the point stands fewer than five places before and at most sixteen after the
first digit. -/
def json : NumberLayout := ⟨fun place => -5 < place && place ≤ 16, true⟩

/-- Always positional, whole numbers without a point. -/
def plain : NumberLayout := ⟨fun _ => true, false⟩

def exponentText (n : Int) : List Char :=
  if 0 ≤ n then '+' :: Decimal.ofNat n.toNat else Decimal.ofInt n

def render (l : NumberLayout) (s : Decimal.Scaled) : List Char :=
  let digits := Decimal.ofNat s.digits
  let place : Int := digits.length + s.exponent
  if s.digits = 0 then if l.wholeMark then "0.0".toList else "0".toList
  else if l.positional place then
    if 0 ≤ s.exponent then
      digits ++ List.replicate s.exponent.toNat '0' ++ (if l.wholeMark then ['.', '0'] else [])
    else if 0 < place then digits.take place.toNat ++ '.' :: digits.drop place.toNat
    else '0' :: '.' :: List.replicate (-place).toNat '0' ++ digits
  else
    match digits with
    | [] => []
    | first :: rest =>
      first :: (if rest.isEmpty then [] else '.' :: rest) ++ 'e' :: exponentText (place - 1)

end NumberLayout

def Double.text? (l : NumberLayout) : Double → Option String
  | .notANumber => none
  | .infinite _ => none
  | .finite negative mantissa power atPower =>
    let s := if mantissa = 0 then ⟨0, 0⟩
      else Shortest.ofInterval (Shortest.interval mantissa power atPower)
    some (String.ofList ((if negative then ['-'] else []) ++ l.render s))

end AccessLog
