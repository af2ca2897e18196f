import CardRules.Text.Printable

/-!
# Quoted texts

The form in which messages show a text: in single quotes, or in double quotes when it holds
a single quote and no double one. The quote, the backslash and unprintable characters are
escaped.
-/

namespace CardRules.Text

/-- `n` in hexadecimal, filled up with zeros to `width` digits. -/
def hexadecimal (width n : Nat) : List Char :=
  let digits := Nat.toDigits 16 n
  List.replicate (width - digits.length) '0' ++ digits

def quotedChar (quote c : Char) : List Char :=
  if c == quote || c == '\x5C' then ['\x5C', c]
  else if c == '\n' then ['\x5C', 'n']
  else if c == '\r' then ['\x5C', 'r']
  else if c == '\t' then ['\x5C', 't']
  else if isPrintable c then [c]
  else if c.toNat < 0x100 then '\x5C' :: 'x' :: hexadecimal 2 c.toNat
  else if c.toNat < 0x10000 then '\x5C' :: 'u' :: hexadecimal 4 c.toNat
  else '\x5C' :: 'U' :: hexadecimal 8 c.toNat

def quotedChars (s : List Char) : List Char :=
  let quote := if s.contains '\x27' && !s.contains '\x22' then '\x22' else '\x27'
  quote :: s.flatMap (quotedChar quote) ++ [quote]

def quoted (s : String) : String := String.ofList (quotedChars s.toList)

end CardRules.Text
