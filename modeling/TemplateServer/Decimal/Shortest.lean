/-!
Shortest decimals. Every finite double other than zero is the only double in an interval of
reals that round to it; the decimal chosen for it has the fewest digits of those in that
interval, and is the nearest of them.
-/

namespace TemplateServer

structure Decimal where
  digits : Nat
  exponent : Int
deriving DecidableEq

namespace Decimal

/-- A positive double `mantissa · 2 ^ exponent`, with the widths of the gaps on either side of
it. -/
structure Binary where
  mantissa : Nat
  exponent : Int
  /-- Whether the gap below is half as wide as the gap above. -/
  narrowBelow : Bool
deriving DecidableEq

def Binary.ofBits (bits : Nat) : Binary :=
  let fraction := bits % 0x10000000000000
  let field := bits / 0x10000000000000 % 0x800
  if field = 0 then
    ⟨fraction, -1074, false⟩
  else
    ⟨0x10000000000000 + fraction, (field : Int) - 1075, fraction = 0 && 1 < field⟩

structure Fraction where
  numerator : Nat
  denominator : Nat

def Fraction.scaled (value : Nat) (twos tens : Int) : Fraction :=
  ⟨value * Nat.pow 2 twos.toNat * Nat.pow 10 (-tens).toNat,
    Nat.pow 2 (-twos).toNat * Nat.pow 10 tens.toNat⟩

/-- The interval of a double on the grid of multiples of `10 ^ tens`: four times the double and
four times the two ends of the interval, over a common denominator. -/
structure Window where
  value : Nat
  low : Nat
  high : Nat
  denominator : Nat
  closed : Bool

def Binary.window (binary : Binary) (tens : Int) : Window :=
  let unit := Fraction.scaled 1 (binary.exponent - 2) tens
  { value := 4 * binary.mantissa * unit.numerator
    low := (4 * binary.mantissa - if binary.narrowBelow then 1 else 2) * unit.numerator
    high := (4 * binary.mantissa + 2) * unit.numerator
    denominator := unit.denominator
    closed := binary.mantissa % 2 = 0 }

def Window.contains (window : Window) (multiple : Nat) : Bool :=
  let point := multiple * window.denominator
  if window.closed then
    window.low ≤ point && point ≤ window.high
  else
    window.low < point && point < window.high

/-- The multiple of the grid in the window that is nearest to the double, the even one of two
equally near, if one of its two neighbours on the grid lies in the window. -/
def Window.nearest? (window : Window) : Option Nat :=
  let below := window.value / window.denominator
  let above := below + 1
  match window.contains below, window.contains above with
  | false, false => none
  | true, false => some below
  | false, true => some above
  | true, true =>
    let down := window.value - below * window.denominator
    let up := above * window.denominator - window.value
    if down < up || (down = up && below % 2 = 0) then some below else some above

/-- The exponent of the leading digit of a fraction, found among those from `lowest` on. -/
def leadingExponent (binary : Binary) : Nat → Int → Int
  | 0, lowest => lowest
  | steps + 1, lowest =>
    let next := Fraction.scaled binary.mantissa binary.exponent (lowest + 1)
    if next.denominator ≤ next.numerator then
      leadingExponent binary steps (lowest + 1)
    else
      lowest

/-- The shortest decimal of a double with at least `count` digits. Seventeen always suffice. -/
def shortestFrom (binary : Binary) (leading : Int) : Nat → Nat → Decimal
  | 0, _ => ⟨0, 0⟩
  | grids + 1, count =>
    let tens := leading + 1 - count
    match (binary.window tens).nearest? with
    | some digits => ⟨digits, tens⟩
    | none => shortestFrom binary leading grids (count + 1)

def stripped : Nat → Decimal → Decimal
  | 0, decimal => decimal
  | limit + 1, decimal =>
    if decimal.digits % 10 = 0 && decimal.digits ≠ 0 then
      stripped limit ⟨decimal.digits / 10, decimal.exponent + 1⟩
    else
      decimal

/-- The shortest decimal that reads back as the positive finite double with these bits. -/
def shortest (bits : Nat) : Decimal :=
  let binary := Binary.ofBits bits
  (shortestFrom binary (leadingExponent binary 640 (-325)) 17 1).stripped 17

end Decimal

end TemplateServer
