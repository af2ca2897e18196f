import CardRules.CardText.Requirement
import CardRules.Proofs.Text.Pattern

/-!
# Lifting clauses

Clauses are lifted off a text one after the other, and what one of them takes is no longer there for
the next. A clause begins with `opening`, and nothing that a clause takes has another opening in it;
so two clauses that do not begin at the same place do not overlap, and lifting one leaves the other
(`isSome_find?_lifted`).
-/

namespace CardRules.Text

theorem dropWhile_append_cons {within : Char → Bool} {c : Char} (hc : within c = false)
    (u z : List Char) : ∃ u', (u ++ c :: z).dropWhile within = u' ++ c :: z := by
  induction u with
  | nil => exact ⟨[], by simp [hc]⟩
  | cons d u ih =>
    by_cases hd : within d
    · obtain ⟨u', hu⟩ := ih
      exact ⟨u', by simp [hd, hu]⟩
    · exact ⟨d :: u, by simp [hd]⟩

/-- Trimming leaves what has ink at both ends. -/
theorem trim_append {u w z : List Char} (hb : ∃ c v, w = c :: v ∧ !isBlank c)
    (he : ∃ v c, w = v ++ [c] ∧ !isBlank c) : ∃ u' z', trim (u ++ (w ++ z)) = u' ++ (w ++ z') := by
  obtain ⟨c, v, hw, hc⟩ := hb
  obtain ⟨v', d, hw', hd⟩ := he
  rw [Bool.not_eq_true'] at hc hd
  obtain ⟨u', hleft⟩ := dropWhile_append_cons hc u (v ++ z)
  obtain ⟨z', hright⟩ := dropWhile_append_cons hd z.reverse (v'.reverse ++ u'.reverse)
  refine ⟨u', z'.reverse, ?_⟩
  have hfront : (u ++ (w ++ z)).dropWhile isBlank = u' ++ (w ++ z) := by
    simpa [hw] using hleft
  have hback : (u' ++ (w ++ z)).reverse.dropWhile isBlank = z' ++ (w.reverse ++ u'.reverse) := by
    simpa [hw', List.append_assoc] using hright
  rw [trim, dropEnds, dropEnd, hfront, hback]
  simp [List.append_assoc]

end CardRules.Text

namespace CardRules.CardText

open Text

/-- The word that every clause begins with. -/
def opening : List Char := "if ".toList

/-- A pattern for a clause: it does not look back, and it begins with the opening. -/
structure Clausal (p : Pattern) : Prop where
  plain : p.plain
  opens : p.Opens opening

/-- The part of a clause that makes it out. It takes the same text whatever follows, with ink at
both ends, and no opening stands further inside. -/
structure Core (p : Pattern) : Prop extends Clausal p where
  quiet : p.QuietTail opening
  firm : p.Firm
  begins : p.Begins fun c => !isBlank c
  ends : p.Ends fun c => !isBlank c

/-- A clause fits where its core does, and takes more. -/
structure Built (p core : Pattern) : Prop where
  plain : p.plain
  isCore : Core core
  fits : ∀ b s, (p.take? b s).isSome = (core.take? b s).isSome

variable {p q c core : Pattern} {s : List Char} {f : Pattern.Found}
variable {t t' : Pattern.Taken} {b b' : Option Char}

/-! ## Clauses and their cores -/

theorem Core.built (h : Core core) : Built core core := ⟨h.plain, h, fun _ _ => rfl⟩

theorem Built.maybe (h : Built p core) (hq : q.plain) : Built (p ++ .maybe q) core where
  plain := by
    change (p.plain && q.plain) = true
    rw [h.plain, hq]
    rfl
  isCore := h.isCore
  fits b s := Pattern.isSome_maybe.trans (h.fits b s)

theorem Built.run (h : Built p core) {within : Char → Bool} : Built (p ++ .run within) core where
  plain := by
    change (p.plain && true) = true
    rw [h.plain]
    rfl
  isCore := h.isCore
  fits b s := Pattern.isSome_run.trans (h.fits b s)

theorem Built.taken (h : Built p core) (ht : p.take? b s = some t) :
    ∃ t', core.take? b s = some t' :=
  Option.isSome_iff_exists.1 (by rw [← h.fits, ht]; rfl)

theorem Built.clausal (h : Built p core) : Clausal p where
  plain := h.plain
  opens _ _ _ ht := by
    obtain ⟨t', ht'⟩ := h.taken ht
    exact h.isCore.opens ht'

theorem Built.disjoint {core' : Pattern} (hp : Built p core) (hq : Built q core')
    (h : Pattern.Disjoint core core') : Pattern.Disjoint p q := by
  intro before s t u ht hu
  obtain ⟨t', ht'⟩ := hp.taken ht
  obtain ⟨u', hu'⟩ := hq.taken hu
  exact h ht' hu'

theorem Built.isSome_find? (h : Built p core) :
    (p.find? b s).isSome = (core.find? b s).isSome :=
  Pattern.find?_isSome_congr h.fits

/-! ## What is left when a clause is lifted -/

/-- No clause begins further inside what a pattern without further openings takes. -/
theorem not_begins_inside {x y z : List Char} (hp : p.QuietTail opening) (hc : Clausal c)
    (ht : p.take? b s = some t) (hxy : t.text = x ++ y) (hx : x ≠ []) (hy : y ≠ [])
    (ht' : c.take? b' (y ++ z) = some t') : False := by
  have htail : y <:+ t.text.tail := by
    cases x with
    | nil => exact absurd rfl hx
    | cons a x => exact ⟨x, by rw [hxy]; rfl⟩
  have hopens := agrees_of_append (hc.opens ht')
  rw [hp ht y htail hy] at hopens
  cases hopens

/-- Of two clauses that do not begin at one place, the second is left in one piece when the first
is cut out, unless it begins inside that. -/
theorem left_of_cut {before u : List Char} (hp : Clausal p) (hc : Core c)
    (hd : Pattern.Disjoint p c) (ht : p.take? b (t.text ++ t.rest) = some t)
    (ht' : c.take? b' (t'.text ++ t'.rest) = some t')
    (hs : before ++ (t.text ++ t.rest) = u ++ (t'.text ++ t'.rest)) :
    (∃ u' z, before ++ t.rest = u' ++ (t'.text ++ z)) ∨
      ∃ x y, t.text = x ++ y ∧ x ≠ [] ∧ y ≠ [] ∧ c.take? b' (y ++ t.rest) = some t' := by
  have hsame : t.text ++ t.rest ≠ t'.text ++ t'.rest := by
    intro heq
    rw [Pattern.take?_of_plain hc.plain b' b, ← heq] at ht'
    exact hd ht ht'
  obtain ⟨x, rfl, hx⟩ | ⟨x, rfl, hx⟩ := List.append_eq_append_iff.1 hs
  · -- The second clause begins no sooner than the first.
    obtain ⟨y, hxy, hy⟩ | ⟨y, rfl, hy⟩ := List.append_eq_append_iff.1 hx.symm
    · by_cases hynil : y = []
      · subst hynil
        exact .inl ⟨before, t'.rest, by rw [hy, List.nil_append]⟩
      · have hxnil : x ≠ [] := by
          rintro rfl
          exact hsame hx
        exact .inr ⟨x, y, hxy, hxnil, hynil, hy ▸ ht'⟩
    · exact .inl ⟨before ++ y, t'.rest, by rw [hy, List.append_assoc]⟩
  · -- It begins sooner, and so it ends before the first begins.
    refine .inl ?_
    obtain ⟨y, rfl, hy⟩ | ⟨y, hxy, hy⟩ := List.append_eq_append_iff.1 hx
    · exact ⟨u, y ++ t.rest, by simp only [List.append_assoc]⟩
    · by_cases hynil : y = []
      · rw [hynil, List.append_nil] at hxy
        exact ⟨u, t.rest, by rw [hxy, List.append_assoc]⟩
      · have hxnil : x ≠ [] := by
          rintro rfl
          exact hsame hx.symm
        rw [hy] at ht
        exact (not_begins_inside hc.quiet hp ht' hxy hxnil hynil ht).elim

theorem isSome_find?_trim {u z : List Char} (h : Built c core)
    (ht : core.take? b (t.text ++ t.rest) = some t) :
    (c.find? none (trim (u ++ (t.text ++ z)))).isSome := by
  obtain ⟨u', z', htrim⟩ := trim_append (u := u) (z := z) (h.isCore.begins ht) (h.isCore.ends ht)
  rw [h.isSome_find?, htrim]
  refine (Pattern.find?_isSome_iff h.isCore.plain).2 ⟨u', t.text ++ z', rfl, ?_⟩
  rw [h.isCore.firm ht none z' (by simp)]
  rfl

/-- The second clause begins inside what the first takes where it is first found. -/
def Covers (p c : Pattern) (s : List Char) : Prop :=
  ∃ f x y, p.find? none s = some f ∧ f.taken.text = x ++ y ∧ x ≠ [] ∧ y ≠ [] ∧
    (c.take? none (y ++ f.taken.rest)).isSome

/-- When a clause is lifted off a text, another one that stands there and is not covered by it is
still there. -/
theorem isSome_find?_lifted (hp : Clausal p) (hc : Built c core) (hd : Pattern.Disjoint p c)
    (hf : p.find? none s = some f) (h : (c.find? none s).isSome) :
    (c.find? none (trim (f.before ++ f.taken.rest))).isSome ∨ Covers p c s := by
  have hcores : Pattern.Disjoint p core := by
    intro before s t u ht hu
    obtain ⟨u', hu'⟩ := Option.isSome_iff_exists.1 ((hc.fits before s).trans (by rw [hu]; rfl))
    exact hd ht hu'
  rw [hc.isSome_find?] at h
  obtain ⟨u, v, rfl, hv⟩ := (Pattern.find?_isSome_iff hc.isCore.plain).1 h
  obtain ⟨t, ht⟩ := Option.isSome_iff_exists.1 hv
  obtain ⟨b, hcut⟩ := Pattern.take?_of_find? hf
  have hplaces := Pattern.find?_append hf
  rw [List.append_assoc, ← Pattern.take?_append ht] at hplaces
  rw [← Pattern.take?_append ht] at ht
  obtain ⟨u', z, hleft⟩ | ⟨x, y, hxy, hx, hy, hinside⟩ :=
    left_of_cut hp hc.isCore hcores hcut ht hplaces
  · rw [hleft]
    exact .inl (isSome_find?_trim hc ht)
  · refine .inr ⟨f, x, y, hf, hxy, hx, hy, ?_⟩
    rw [hc.fits, hinside]
    rfl

/-- A clause without further openings covers no other one. -/
theorem not_covers (hp : p.QuietTail opening) (hc : Clausal c) : ¬Covers p c s := by
  rintro ⟨f, x, y, hf, hxy, hx, hy, h⟩
  obtain ⟨b, hcut⟩ := Pattern.take?_of_find? hf
  obtain ⟨t, ht⟩ := Option.isSome_iff_exists.1 h
  exact not_begins_inside hp hc hcut hxy hx hy ht

end CardRules.CardText
