import CardRules.Text.Blank
import CardRules.Text.Digit

/-!
# Reading integers

An integer may have blanks around it, a sign, digits of any script and single underscores between
digits. A text with more than `digitLimit` digits is refused.
-/

namespace CardRules.Text

/-- The most digits an integer may be written with. -/
def digitLimit : Nat := 4300

inductive IntegerProblem where
  | malformed
  | tooManyDigits (count : Nat)
  deriving DecidableEq, Repr

/-- Blanks around an integer: all blanks except the four ASCII separators. -/
def isMargin (c : Char) : Bool := isBlank c && !(0x1C ≤ c.toNat && c.toNat < 0x20)

def digitsValue (s : List Char) : Nat :=
  s.foldl (fun n c => match digit? c with
    | some d => 10 * n + d
    | none => n) 0

/-- No underscore at either end, and no two of them in a row. -/
def wellSpaced : List Char → Bool
  | [] => true
  | ['_'] => false
  | '_' :: '_' :: _ => false
  | _ :: rest => wellSpaced rest

/-- The number of digits and value of the digits at the front, and what follows them. -/
def readDigits (s : List Char) : Except IntegerProblem (Nat × List Char) :=
  let run := s.takeWhile fun c => isDigit c || c == '_'
  let count := run.countP isDigit
  if run.head? == some '_' || !wellSpaced run then .error .malformed
  else if digitLimit < count then .error (.tooManyDigits count)
  else if count == 0 then .error .malformed
  else .ok (digitsValue run, s.dropWhile fun c => isDigit c || c == '_')

def readInteger (s : List Char) : Except IntegerProblem Int :=
  let body := s.dropWhile isMargin
  let (negative, unsigned) := match body with
    | '-' :: rest => (true, rest)
    | '+' :: rest => (false, rest)
    | _ => (false, body)
  match readDigits unsigned with
  | .error e => .error e
  | .ok (n, rest) =>
    if rest.all isMargin then .ok (if negative then -(n : Int) else n) else .error .malformed

end CardRules.Text
