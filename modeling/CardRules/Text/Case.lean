import CardRules.Text.CaseTable

/-!
# Letter case

`lower` and `upper` map a text to lower and upper case, where one character may become
several and a sigma at the end of a word has its own form. `sameLetter` is the looser
comparison of card text patterns: one character against one ASCII letter.
-/

namespace CardRules.Text

private def charsOf (ns : List Nat) : List Char := ns.map Char.ofNat

def lowerChar (c : Char) : List Char :=
  if c.toNat < 128 then [c.toLower]
  else if c == 'İ' then ['i', '\u0307']
  else charsOf [(CaseRun.lookup lowerRuns c.toNat).getD c.toNat]

def upperChar (c : Char) : List Char :=
  if c.toNat < 128 then [c.toUpper]
  else match upperExpansions.lookup c.toNat with
    | some ns => charsOf ns
    | none => charsOf [(CaseRun.lookup upperRuns c.toNat).getD c.toNat]

def isCased (c : Char) : Bool := casedRanges.has c.toNat

/-- Characters that do not count when a sigma looks for the end of its word. -/
def isCaseIgnorable (c : Char) : Bool := ignorableRanges.has c.toNat

/-- Lower case, with `inWord` telling whether the last counting character was cased. -/
def lowerFrom (inWord : Bool) : List Char → List Char
  | [] => []
  | c :: rest =>
    let form :=
      if c == 'Σ' then
        let wordGoesOn := (rest.dropWhile isCaseIgnorable).head?.any isCased
        if inWord && !wordGoesOn then ['ς'] else ['σ']
      else lowerChar c
    form ++ lowerFrom (if isCaseIgnorable c then inWord else isCased c) rest

def lowerChars (s : List Char) : List Char := lowerFrom false s

def upperChars (s : List Char) : List Char := s.flatMap upperChar

def lower (s : String) : String := String.ofList (lowerChars s.toList)

def upper (s : String) : String := String.ofList (upperChars s.toList)

/-- Whether `c` reads as the lower-case ASCII letter `letter` when case does not matter. Besides
the two ASCII forms these are the dotted and dotless i, the Kelvin sign and the long s. Any
other `letter` stands for itself. -/
def sameLetter (letter c : Char) : Bool :=
  if letter.isLower then
    c == letter || c == letter.toUpper ||
      (match letter with
        | 'i' => c == 'İ' || c == 'ı'
        | 'k' => c == '\u212A'
        | 's' => c == 'ſ'
        | _ => false)
  else c == letter

end CardRules.Text
