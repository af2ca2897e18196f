import CardRules.Json.Double

/-!
# Equal JSON values

`Json.same` compares what values say: numbers by their size, with yes and no as one and zero,
and objects without regard to the order of their fields. What is no number is the same as
itself.
-/

namespace CardRules.Json

/-- The integer that a value counts as. -/
def wholeNumber? : Json → Option Int
  | int n => some n
  | bool b => some b.toNat
  | real literal => (Double.ofLiteral literal).toInt?
  | _ => none

def sameReal (a b : String) : Bool :=
  match Double.ofLiteral a, Double.ofLiteral b with
  | .notFinite, .notFinite => a.startsWith "-" == b.startsWith "-" && (a == "NaN") == (b == "NaN")
  | x, y => x.same y

def sameSimple (a b : Json) : Bool :=
  match a.wholeNumber?, b.wholeNumber? with
  | some m, some n => m == n
  | none, none =>
    match a, b with
    | null, null => true
    | real x, real y => sameReal x y
    | str s, str t => s == t
    | brokenStr s, brokenStr t => s == t
    | _, _ => false
  | _, _ => false

mutual
def same : Json → Json → Bool
  | arr xs, arr ys => sameItems xs ys
  | obj fs, obj gs => fs.length == gs.length && sameFields gs fs
  | a, b => sameSimple a b

def sameItems : List Json → List Json → Bool
  | [], [] => true
  | x :: xs, y :: ys => same x y && sameItems xs ys
  | _, _ => false

/-- Whether all fields have equal ones of the same key among the `others`. -/
def sameFields (others : List (String × Json)) : List (String × Json) → Bool
  | [] => true
  | (key, v) :: rest =>
    (match others.lookup key with
      | some w => same v w
      | none => false) && sameFields others rest
end

end CardRules.Json
