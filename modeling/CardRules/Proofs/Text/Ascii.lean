import CardRules.CardText.Clause
import CardRules.Proofs.Text.Number

/-!
# ASCII texts

In an ASCII text a letter has one form in each case, so what reads as a word is that word in some
letter case (`map_toLower_of_takes`). Beyond ASCII there are letters that read as another one
without being a form of it, such as the long s.
-/

namespace CardRules.Text

variable {s ls : List Char} {t : Pattern.Taken}

/-- The text has no character outside ASCII. -/
def Ascii (s : List Char) : Prop := ∀ c ∈ s, c.toNat < 128

theorem Ascii.subset {s' : List Char} (hs : Ascii s) (h : s' ⊆ s) : Ascii s' :=
  fun c hc => hs c (h hc)

theorem ascii_of_all (h : s.all fun c => decide (c.toNat < 128)) : Ascii s :=
  fun c hc => of_decide_eq_true (List.all_eq_true.1 h c hc)

theorem lowerChars_eq_map (hs : Ascii s) : lowerChars s = s.map Char.toLower := by
  have hfrom : ∀ inWord, lowerFrom inWord s = s.map Char.toLower := by
    induction s with
    | nil => exact fun _ => rfl
    | cons c cs ih =>
      intro inWord
      have hc := hs c List.mem_cons_self
      have hsigma : (c == 'Σ') = false := by
        rw [beq_eq_false_iff_ne]
        rintro rfl
        exact absurd hc (by decide)
      rw [lowerFrom, hsigma]
      simp [lowerChar, hc, ih (hs.subset (List.subset_cons_self c cs))]
  exact hfrom false

/-- Whether in ASCII nothing but the two forms of a letter reads as a letter of the word. -/
def unambiguous (ls : List Char) : Bool :=
  ls.all fun l => (readings l).all fun c => c.toLower == l || decide (128 ≤ c.toNat)

theorem map_toLower_of_takeWord (hw : unambiguous ls) (h : Pattern.takeWord ls s = some t)
    (ha : Ascii t.text) : t.text.map Char.toLower = ls := by
  induction ls generalizing s t with
  | nil =>
    cases h
    rfl
  | cons l ls ih =>
    cases s with
    | nil => cases h
    | cons c cs =>
      simp only [Pattern.takeWord] at h
      split at h
      · rename_i hl
        obtain ⟨u, hu, rfl⟩ := Option.map_eq_some_iff.1 h
        rw [unambiguous, List.all_cons, Bool.and_eq_true] at hw
        have hread := List.all_eq_true.1 hw.1 c (sameLetter_iff.1 hl)
        have hc : c.toLower = l := by
          have hascii := ha c List.mem_cons_self
          simpa [Nat.not_le.2 hascii] using hread
        have hrest := ih hw.2 hu (ha.subset (List.subset_cons_self c u.text))
        rw [List.map_cons, hc, hrest]
      · cases h

theorem map_toLower_of_takes {g : List Char} (hw : unambiguous ls) (h : (Pattern.word ls).Takes g)
    (ha : Ascii g) : g.map Char.toLower = ls := by
  obtain ⟨before, s, t, ht, rfl⟩ := h
  exact map_toLower_of_takeWord hw ht ha

end CardRules.Text
