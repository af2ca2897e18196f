/-!
# Texts inside texts
-/

namespace CardRules.Text

/-- Whether `word` occurs in the text, letter for letter. -/
def contains (word : List Char) : List Char → Bool
  | [] => word.isEmpty
  | c :: rest => word.isPrefixOf (c :: rest) || contains word rest

theorem contains_iff_isInfix {word s : List Char} : contains word s ↔ word <:+: s := by
  induction s with
  | nil => simp [contains]
  | cons c rest ih =>
    simp [contains, ih, List.infix_cons_iff]

end CardRules.Text
