/-!
# Sets of characters given by ranges

A property of characters is written down as the list of its code point ranges. `Ranges.has` is the
membership test; the tables of the other modules of this folder are values of `Ranges`.
-/

namespace CardRules.Text

/-- Code point ranges, both ends included, in increasing order. -/
abbrev Ranges := List (Nat × Nat)

/-- Membership in one of the ranges; the list is increasing, so the search stops early. -/
def Ranges.has : Ranges → Nat → Bool
  | [], _ => false
  | (lo, hi) :: rest, n => if n < lo then false else if n ≤ hi then true else Ranges.has rest n

end CardRules.Text
