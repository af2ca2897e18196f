import CardRules.Json.Basic
import CardRules.Text.Integer

/-!
# Reading JSON texts

The grammar is that of JSON with three more numbers, the words for infinity, its negative
and for no number. Of two fields with one key the later value counts, in the place of the
earlier. Lists and objects may stand inside each other up to a given depth. Every function
returns what follows the part it has read.
-/

namespace CardRules.Json

inductive ReadProblem where
  | malformed
  | tooManyDigits (count : Nat)
  | tooDeep
  deriving DecidableEq, Repr

def isSpace (c : Char) : Bool := c == ' ' || c == '\n' || c == '\r' || c == '\t'

def skipSpace (s : List Char) : List Char := s.dropWhile isSpace

def hexDigit? (c : Char) : Option Nat :=
  if '0' ≤ c ∧ c ≤ '9' then some (c.toNat - 48)
  else if 'a' ≤ c ∧ c ≤ 'f' then some (c.toNat - 87)
  else if 'A' ≤ c ∧ c ≤ 'F' then some (c.toNat - 55)
  else none

/-- Four hexadecimal digits. -/
def readUnit : List Char → Option (Nat × List Char)
  | a :: b :: c :: d :: rest => do
    let a ← hexDigit? a
    let b ← hexDigit? b
    let c ← hexDigit? c
    let d ← hexDigit? d
    pure (((a * 16 + b) * 16 + c) * 16 + d, rest)
  | _ => none

/-- A character given by its code: two codes when the first is the upper half of a pair. A half
on its own is no character. -/
def readCode (s : List Char) : Option (Option Char × List Char) := do
  let (high, rest) ← readUnit s
  if 0xD800 ≤ high ∧ high < 0xDC00 then
    match rest with
    | '\x5C' :: 'u' :: more =>
      match readUnit more with
      | some (low, rest') =>
        if 0xDC00 ≤ low ∧ low < 0xE000 then
          pure (some (Char.ofNat (0x10000 + (high - 0xD800) * 0x400 + (low - 0xDC00))), rest')
        else pure (none, rest)
      | none => none
    | _ => pure (none, rest)
  else if 0xDC00 ≤ high ∧ high < 0xE000 then pure (none, rest)
  else pure (some (Char.ofNat high), rest)

def escaped? : Char → Option Char
  | '\x22' => some '\x22'
  | '\x5C' => some '\x5C'
  | '/' => some '/'
  | 'b' => some '\x08'
  | 'f' => some '\x0C'
  | 'n' => some '\n'
  | 'r' => some '\r'
  | 't' => some '\t'
  | _ => none

/-- The rest of a string after its opening quote, without the halves of pairs as characters;
`done` holds what was read so far, last first. -/
def readString : (fuel : Nat) → (done : List (Option Char)) → List Char →
    Except ReadProblem (List (Option Char) × List Char)
  | 0, _, _ => .error .malformed
  | fuel + 1, done, s =>
    match s with
    | [] => .error .malformed
    | '\x22' :: rest => .ok (done.reverse, rest)
    | '\x5C' :: 'u' :: rest =>
      match readCode rest with
      | some (c, rest) => readString fuel (c :: done) rest
      | none => .error .malformed
    | '\x5C' :: c :: rest =>
      match escaped? c with
      | some c => readString fuel (some c :: done) rest
      | none => .error .malformed
    | c :: rest =>
      if c.toNat < 0x20 then .error .malformed else readString fuel (some c :: done) rest

/-- The text of a string, with the replacement character for half a pair. -/
def textOf (cs : List (Option Char)) : String := String.ofList (cs.map (·.getD '\uFFFD'))

def stringValue (cs : List (Option Char)) : Json :=
  if cs.all (·.isSome) then .str (textOf cs) else .brokenStr (textOf cs)

def isPlainDigit (c : Char) : Bool := '0' ≤ c && c ≤ '9'

def readFraction (s : List Char) : List Char × List Char :=
  match s with
  | '.' :: d :: rest =>
    if isPlainDigit d then ('.' :: d :: rest.takeWhile isPlainDigit, rest.dropWhile isPlainDigit)
    else ([], s)
  | _ => ([], s)

def readExponent (s : List Char) : List Char × List Char :=
  match s with
  | e :: rest =>
    if e == 'e' || e == 'E' then
      let (sign, digits) := match rest with
        | '+' :: more => (['+'], more)
        | '-' :: more => (['-'], more)
        | _ => ([], rest)
      if digits.head?.any isPlainDigit then
        (e :: sign ++ digits.takeWhile isPlainDigit, digits.dropWhile isPlainDigit)
      else ([], s)
    else ([], s)
  | [] => ([], s)

def readNumber (negative : Bool) (s : List Char) : Except ReadProblem (Json × List Char) :=
  let whole := match s with
    | '0' :: _ => ['0']
    | _ => s.takeWhile isPlainDigit
  if whole.isEmpty then .error .malformed
  else
    let (fraction, rest) := readFraction (s.drop whole.length)
    let (exponent, rest) := readExponent rest
    if fraction.isEmpty && exponent.isEmpty then
      if Text.digitLimit < whole.length then .error (.tooManyDigits whole.length)
      else
        let n : Int := Text.digitsValue whole
        .ok (.int (if negative then -n else n), rest)
    else
      let sign := if negative then ['-'] else []
      .ok (.real (String.ofList (sign ++ whole ++ fraction ++ exponent)), rest)

def wordValues : List (String × Json) :=
  [("null", .null), ("true", .bool true), ("false", .bool false), ("NaN", .real "NaN"),
    ("Infinity", .real "Infinity"), ("-Infinity", .real "-Infinity")]

def readWord (s : List Char) : Option (Json × List Char) :=
  wordValues.findSome? fun (w, v) =>
    if w.toList.isPrefixOf s then some (v, s.drop w.length) else none

mutual
/-- A value at the front of a text; `room` levels of lists and objects may still begin. -/
def readValue : (fuel room : Nat) → List Char → Except ReadProblem (Json × List Char)
  | 0, _, _ => .error .malformed
  | fuel + 1, room, s =>
    match readWord s with
    | some r => .ok r
    | none =>
      match s, room with
      | '\x22' :: rest, _ => do
        let (cs, rest) ← readString (rest.length + 1) [] rest
        pure (stringValue cs, rest)
      | '[' :: _, 0 | '\x7b' :: _, 0 => .error .tooDeep
      | '[' :: rest, room + 1 =>
        match skipSpace rest with
        | ']' :: rest => .ok (.arr [], rest)
        | rest => do
          let (items, rest) ← readItems fuel room rest
          pure (.arr items, rest)
      | '\x7b' :: rest, room + 1 =>
        match skipSpace rest with
        | '\x7d' :: rest => .ok (.obj [], rest)
        | rest => do
          let (fields, rest) ← readFields fuel room [] rest
          pure (.obj fields, rest)
      | '-' :: rest, _ => readNumber true rest
      | _, _ => readNumber false s

def readItems : (fuel room : Nat) → List Char → Except ReadProblem (List Json × List Char)
  | 0, _, _ => .error .malformed
  | fuel + 1, room, s => do
    let (v, rest) ← readValue fuel room s
    match skipSpace rest with
    | ']' :: rest => pure ([v], rest)
    | ',' :: rest =>
      let (vs, rest) ← readItems fuel room (skipSpace rest)
      pure (v :: vs, rest)
    | _ => .error .malformed

/-- The fields of an object from the next on, with the closing brace; `done` holds those before.
-/
def readFields : (fuel room : Nat) → (done : List (String × Json)) → List Char →
    Except ReadProblem (List (String × Json) × List Char)
  | 0, _, _, _ => .error .malformed
  | fuel + 1, room, done, s =>
    match s with
    | '\x22' :: rest => do
      let (key, rest) ← readString (rest.length + 1) [] rest
      match skipSpace rest with
      | ':' :: rest =>
        let (v, rest) ← readValue fuel room (skipSpace rest)
        let done := setField (textOf key) v done
        match skipSpace rest with
        | '\x7d' :: rest => pure (done, rest)
        | ',' :: rest => readFields fuel room done (skipSpace rest)
        | _ => .error .malformed
      | _ => .error .malformed
    | _ => .error .malformed
end

def read (depth : Nat) (s : String) : Except ReadProblem Json := do
  let s := s.toList
  let (v, rest) ← readValue (2 * s.length + 2) depth (skipSpace s)
  if (skipSpace rest).isEmpty then pure v else .error .malformed

end CardRules.Json
