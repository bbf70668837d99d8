import TemplateServer.Decimal.Shortest
import TemplateServer.Json.Basic

/-!
Numbers in JSON. A number written without fraction and exponent that fits 64 bits is an integer;
every other number is a double. Doubles are written with the fewest digits that read back.
-/

namespace TemplateServer.Json

/-! ### Reading -/

def largest : Nat :=
  0xffffffffffffffff

/-- Appends digits to a significand until it would pass 64 bits; returns how many digits were
appended and how many were not. -/
def accumulate : List Nat → Nat → Nat × Nat × Nat
  | [], significand => (significand, 0, 0)
  | digit :: rest, significand =>
    if significand * 10 + digit ≤ largest then
      let result := accumulate rest (significand * 10 + digit)
      (result.1, result.2.1 + 1, result.2.2)
    else
      (significand, 0, rest.length + 1)

def tenTo (exponent : Nat) : Float :=
  Float.ofScientific 1 false exponent

def divideByTens : Nat → Float → Nat → Float
  | 0, value, _ => value
  | steps + 1, value, exponent =>
    if exponent ≤ 308 then value / tenTo exponent
    else if value == 0 then value
    else divideByTens steps (value / tenTo 308) (exponent - 308)

def scale? (significand : Nat) (exponent : Int) : Option Float :=
  let value := Float.ofNat significand
  if exponent < 0 then
    some (divideByTens 4 value exponent.natAbs)
  else if exponent ≤ 308 then
    let product := value * tenTo exponent.toNat
    if product.isInf then none else some product
  else if value == 0 then
    some value
  else
    none

structure Literal where
  negative : Bool
  whole : List Nat
  fraction : List Nat
  exponent : Option Int

/-- The double a number stands for; `none` if it is out of range. Digits beyond 64 bits of
significand do not count. -/
def Literal.float? (literal : Literal) : Option Json :=
  let (significand, _, skipped) := accumulate literal.whole 0
  let (significand, appended, _) := accumulate literal.fraction significand
  let exponent : Int := skipped - appended + literal.exponent.getD 0
  (scale? significand exponent).map fun value =>
    float (if literal.negative then -value else value)

def Literal.value? (literal : Literal) : Option Json :=
  let (magnitude, _, skipped) := accumulate literal.whole 0
  if literal.fraction.isEmpty && literal.exponent.isNone && skipped = 0 then
    if !literal.negative then some (integer magnitude)
    else if magnitude = 0 || 0x8000000000000000 < magnitude then literal.float?
    else some (integer (-(magnitude : Int)))
  else
    literal.float?

/-! ### Writing -/

def digitsText (value : Nat) : String :=
  String.ofList (Nat.toDigits 10 value)

def integerText (value : Int) : String :=
  match value with
  | .ofNat magnitude => digitsText magnitude
  | .negSucc magnitude => "-" ++ digitsText (magnitude + 1)

/-- How a decimal is laid out. Numbers whose leading digit has an exponent from -5 to 15 are
written positionally, always with a fraction; the others as a leading digit, a fraction if there
is one, and an exponent with its sign. -/
def decimalText (decimal : Decimal) : String :=
  let digits := Nat.toDigits 10 decimal.digits
  let leading : Int := decimal.exponent + digits.length - 1
  if -5 ≤ leading ∧ leading ≤ 15 then
    if 0 ≤ decimal.exponent then
      String.ofList (digits ++ List.replicate decimal.exponent.toNat '0') ++ ".0"
    else if 0 ≤ leading then
      let count := leading.toNat + 1
      String.ofList (digits.take count) ++ "." ++ String.ofList (digits.drop count)
    else
      "0." ++ String.ofList (List.replicate (-leading - 1).toNat '0' ++ digits)
  else
    let fraction := digits.drop 1
    String.ofList (digits.take 1)
      ++ (if fraction.isEmpty then "" else "." ++ String.ofList fraction)
      ++ (if leading < 0 then "e-" else "e+") ++ digitsText leading.natAbs

def floatText (value : Float) : String :=
  let bits := value.toBits.toNat
  let magnitude := bits % 0x8000000000000000
  let sign := if bits = magnitude then "" else "-"
  sign ++ if magnitude = 0 then "0.0" else decimalText (Decimal.shortest magnitude)

end TemplateServer.Json
