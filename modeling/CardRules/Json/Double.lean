import CardRules.Json.Basic
import CardRules.Text.Integer

/-!
# Numbers with a fraction or an exponent

Such a number stands for the double nearest to what is written; of two that are equally near
it is the one with the even significand. `Double.ofLiteral` reads it in exact arithmetic.
-/

namespace CardRules.Json

/-- `± digits · 10 ^ exponent`. -/
structure Decimal where
  negative : Bool
  digits : Nat
  exponent : Int
  deriving DecidableEq, Repr

namespace Decimal

def exponentOf : List Char → Int
  | _ :: '-' :: ds => -(Text.digitsValue ds : Int)
  | _ :: '+' :: ds => Text.digitsValue ds
  | _ :: ds => Text.digitsValue ds
  | [] => 0

/-- The number that a literal writes. -/
def ofLiteral (s : List Char) : Decimal :=
  let negative := s.head? == some '-'
  let s := if negative then s.drop 1 else s
  let isMark (c : Char) : Bool := c == 'e' || c == 'E'
  let number := s.takeWhile (!isMark ·)
  let whole := number.takeWhile (· != '.')
  let fraction := number.drop (whole.length + 1)
  { negative := negative, digits := Text.digitsValue (whole ++ fraction)
    exponent := exponentOf (s.dropWhile (!isMark ·)) - fraction.length }

end Decimal

/-- `a / b` rounded to the nearest integer, a half to the even one. -/
def roundQuotient (a b : Nat) : Nat :=
  let q := a / b
  let r := a % b
  if 2 * r < b || (2 * r == b && q % 2 == 0) then q else q + 1

/-- The exponent of the greatest power of two that is not above `a / b`. -/
def floorLog2 (a b : Nat) : Int :=
  let guess : Int := (a.log2 : Int) - b.log2
  let below := if 0 ≤ guess then a < b <<< guess.toNat else a <<< (-guess).toNat < b
  if below then guess - 1 else guess

/-- A double: `± significand · 2 ^ exponent`, unless it is infinite or no number. -/
inductive Double where
  | notFinite
  | finite (negative : Bool) (significand : Nat) (exponent : Int)
  deriving DecidableEq, Repr

namespace Double

/-- The double nearest to the positive quotient `a / b`. -/
def nearest (negative : Bool) (a b : Nat) : Double :=
  let exponent := max (floorLog2 a b - 52) (-1074)
  let significand :=
    if 0 ≤ exponent then roundQuotient a (b <<< exponent.toNat)
    else roundQuotient (a <<< (-exponent).toNat) b
  if 0 ≤ exponent && 1 <<< 1024 ≤ significand <<< exponent.toNat then notFinite
  else finite negative significand exponent

/-- The double nearest to a decimal number. Exponents beyond the range of doubles are decided
without computing the power. -/
def ofDecimal (d : Decimal) : Double :=
  let size := (Nat.toDigits 10 d.digits).length + d.exponent
  if d.digits == 0 || size < -400 then finite d.negative 0 0
  else if 400 < size then notFinite
  else if 0 ≤ d.exponent then nearest d.negative (d.digits * Nat.pow 10 d.exponent.toNat) 1
  else nearest d.negative d.digits (Nat.pow 10 (-d.exponent).toNat)

def ofLiteral (literal : String) : Double :=
  if literal == "NaN" || literal == "Infinity" || literal == "-Infinity" then notFinite
  else ofDecimal (.ofLiteral literal.toList)

def wholePart? : Double → Option Int
  | notFinite => none
  | finite negative m e =>
    let n := if 0 ≤ e then m <<< e.toNat else m >>> (-e).toNat
    some (if negative then -(n : Int) else n)

/-- Whether a double is an integer. -/
def isWhole : Double → Bool
  | notFinite => false
  | finite _ m e => 0 ≤ e || (m >>> (-e).toNat) <<< (-e).toNat == m

def floor? (d : Double) : Option Int :=
  d.wholePart?.map fun n => if d.isWhole then n else match d with
    | finite true _ _ => n - 1
    | _ => n

def ceil? (d : Double) : Option Int := d.floor?.map fun n => if d.isWhole then n else n + 1

def toInt? (d : Double) : Option Int := if d.isWhole then d.wholePart? else none

def isZero : Double → Bool
  | finite _ m _ => m == 0
  | notFinite => false

def same : Double → Double → Bool
  | finite negative m e, finite negative' m' e' =>
    let low := min e e'
    m <<< (e - low).toNat == m' <<< (e' - low).toNat && (negative == negative' || m == 0)
  | _, _ => false

end Double

end CardRules.Json
