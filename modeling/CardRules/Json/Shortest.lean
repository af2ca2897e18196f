import CardRules.Json.Double

/-!
# The shortest decimal of a double

`Double.shortest` is the decimal with the fewest digits that reads back as a given double, and
of those the nearest. `Double.text` writes it out: with a point, or with an exponent where the
number is very small or very large.
-/

namespace CardRules.Json

def floorLog10 (a b : Nat) : Int :=
  let guess : Int := ((Nat.toDigits 10 a).length : Int) - (Nat.toDigits 10 b).length
  let below :=
    if 0 ≤ guess then a < b * Nat.pow 10 guess.toNat else a * Nat.pow 10 (-guess).toNat < b
  if below then guess - 1 else guess

/-- The multiple of `10 ^ exponent` next to `a / b` that reads back as `d`, if one does. -/
def Double.onGrid? (d : Double) (a b : Nat) (exponent : Int) : Option Nat :=
  let (a, b) :=
    if 0 ≤ exponent then (a, b * Nat.pow 10 exponent.toNat)
    else (a * Nat.pow 10 (-exponent).toNat, b)
  let low := a / b
  let readsBack (n : Nat) : Bool := (Double.ofDecimal ⟨false, n, exponent⟩).same d
  let lowFirst := 2 * (a % b) < b || (2 * (a % b) == b && low % 2 == 0)
  (if lowFirst then [low, low + 1] else [low + 1, low]).find? readsBack

/-- The shortest decimal of a positive double `significand · 2 ^ exponent`. Seventeen digits are
enough for every double. -/
def Double.shortest (significand : Nat) (exponent : Int) : Decimal :=
  let d : Double := .finite false significand exponent
  let (a, b) :=
    if 0 ≤ exponent then (significand <<< exponent.toNat, 1)
    else (significand, 1 <<< (-exponent).toNat)
  let first := floorLog10 a b
  let found := (List.range 17).findSome? fun (n : Nat) =>
    (d.onGrid? a b (first - n)).map fun digits => (⟨false, digits, first - n⟩ : Decimal)
  found.getD ⟨false, 0, 0⟩

/-- Digits with a point behind the first `point` of them, with zeros where there are none. -/
def withPoint (digits : List Char) (point : Int) : List Char :=
  if point ≤ 0 then '0' :: '.' :: List.replicate (-point).toNat '0' ++ digits
  else if digits.length ≤ point then
    digits ++ List.replicate (point.toNat - digits.length) '0' ++ ['.', '0']
  else digits.take point.toNat ++ '.' :: digits.drop point.toNat

/-- Digits with an exponent of at least two digits; `point` is as in `withPoint`. -/
def withExponent (digits : List Char) (point : Int) : List Char :=
  let exponent := Nat.toDigits 10 (point - 1).natAbs
  digits.take 1 ++ (if 1 < digits.length then '.' :: digits.drop 1 else []) ++
    ['e', if point < 1 then '-' else '+'] ++ List.replicate (2 - exponent.length) '0' ++ exponent

def Decimal.text (d : Decimal) : List Char :=
  let digits := Nat.toDigits 10 d.digits
  let point := digits.length + d.exponent
  let digits := (digits.reverse.dropWhile (· == '0')).reverse
  if -4 < point ∧ point ≤ 16 then withPoint digits point else withExponent digits point

def realText (literal : String) : String :=
  let negative := literal.startsWith "-"
  let size : List Char := match Double.ofLiteral literal with
    | .notFinite => if literal == "NaN" then "nan".toList else "inf".toList
    | .finite _ 0 _ => ['0', '.', '0']
    | .finite _ m e => (Double.shortest m e).text
  String.ofList (if negative then '-' :: size else size)

end CardRules.Json
