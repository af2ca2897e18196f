import CardRules.Json.Shortest
import CardRules.Text.Quoted

/-!
# Writing JSON values

`Json.write` is the compact JSON text. `Json.shown` is the form of a value inside messages,
where texts are quoted as in `CardRules.Text.quoted`.
-/

namespace CardRules.Json

def writtenChar (c : Char) : List Char :=
  if c == '\x22' || c == '\x5C' then ['\x5C', c]
  else if c.toNat < 0x20 then '\x5C' :: 'u' :: Text.hexadecimal 4 c.toNat
  else [c]

def writtenString (s : String) : String :=
  String.ofList ('\x22' :: s.toList.flatMap writtenChar ++ ['\x22'])

mutual
def write : Json → String
  | null => "null"
  | bool b => if b then "true" else "false"
  | int n => toString n
  | real literal => literal
  | str s | brokenStr s => writtenString s
  | arr items => "[" ++ ",".intercalate (writeItems items) ++ "]"
  | obj fields => "\x7b" ++ ",".intercalate (writeFields fields) ++ "\x7d"

def writeItems : List Json → List String
  | [] => []
  | v :: rest => v.write :: writeItems rest

def writeFields : List (String × Json) → List String
  | [] => []
  | (k, v) :: rest => (writtenString k ++ ":" ++ v.write) :: writeFields rest
end

mutual
/-- The form of a value inside a message. -/
def shown : Json → String
  | null => "None"
  | bool b => if b then "True" else "False"
  | int n => toString n
  | real literal => realText literal
  | str s | brokenStr s => Text.quoted s
  | arr items => "[" ++ ", ".intercalate (shownItems items) ++ "]"
  | obj fields => "\x7b" ++ ", ".intercalate (shownFields fields) ++ "\x7d"

def shownItems : List Json → List String
  | [] => []
  | v :: rest => v.shown :: shownItems rest

def shownFields : List (String × Json) → List String
  | [] => []
  | (k, v) :: rest => (Text.quoted k ++ ": " ++ v.shown) :: shownFields rest
end

end CardRules.Json
