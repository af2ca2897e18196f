import CardRules.Text.Pattern

/-!
# Where patterns fit

What a pattern does at one place of a text, as far as it can be read off the pattern: whether it
looks back (`plain`), whether what follows matters to it (`Exact`, `Firm`), how the text it takes
begins and ends (`Begins`, `Ends`), whether a word may begin inside that text (`Quiet`), and whether
two patterns may fit at the same place (`Disjoint`). There is one lemma for each way to build a
pattern, and words are decided by their letters (`clash`).
-/

namespace CardRules.Text

/-! ## Letters -/

/-- The characters that read as a letter. -/
def readings (letter : Char) : List Char :=
  if letter.isLower then
    letter :: letter.toUpper ::
      (match letter with
        | 'i' => ['İ', 'ı']
        | 'k' => ['\u212A']
        | 's' => ['ſ']
        | _ => [])
  else [letter]

theorem sameLetter_iff {letter c : Char} : sameLetter letter c ↔ c ∈ readings letter := by
  unfold sameLetter readings
  split
  · split <;> simp [or_assoc]
  · simp

/-- Whether a text reads as a word, as far as both go. -/
def agrees : List Char → List Char → Bool
  | l :: ls, c :: cs => sameLetter l c && agrees ls cs
  | _, _ => true

/-- Whether two words differ at some place, so that no text begins with both. -/
def clash : List Char → List Char → Bool
  | l :: ls, m :: ms => !(readings l).any (sameLetter m ·) || clash ls ms
  | _, _ => false

/-- Whether a word clashes with another one from each place of that on. -/
def clashWithin (lead : List Char) : List Char → Bool
  | [] => true
  | m :: ms => clash lead (m :: ms) && clashWithin lead ms

/-- The word begins nowhere in the text, however the text goes on. -/
def Quiet (lead w : List Char) : Prop := ∀ v, v <:+ w → v ≠ [] → agrees lead v = false

variable {lead letters u v w s z : List Char}

theorem agrees_of_append (h : agrees lead (w ++ z)) : agrees lead w := by
  induction lead generalizing w with
  | nil => rfl
  | cons l ls ih =>
    cases w with
    | nil => rfl
    | cons c cs =>
      simp only [List.cons_append, agrees, Bool.and_eq_true] at h ⊢
      exact ⟨h.1, ih h.2⟩

theorem Quiet.of_suffix (hw : Quiet lead w) (hv : v <:+ w) : Quiet lead v :=
  fun u hu => hw u (hu.trans hv)

theorem quiet_nil : Quiet lead [] := fun _ hv hne => absurd (List.suffix_nil.1 hv) hne

theorem Quiet.append (hv : Quiet lead v) (hw : Quiet lead w) : Quiet lead (v ++ w) := by
  rintro u ⟨x, hx⟩ hne
  obtain ⟨y, hy, rfl⟩ | ⟨y, -, hy⟩ := List.append_eq_append_iff.1 hx
  · cases y with
    | nil => exact hw _ (List.suffix_refl w) hne
    | cons c cs =>
      have hc := hv (c :: cs) ⟨x, hy.symm⟩ (by simp)
      exact Bool.eq_false_iff.2 fun h => by simp [agrees_of_append h] at hc
  · exact hw u ⟨y, hy.symm⟩ hne

theorem takeWord_append_letters {ls ms : List Char} {t : Pattern.Taken}
    (h : Pattern.takeWord (ls ++ ms) s = some t) : agrees ls s := by
  induction ls generalizing s t with
  | nil => rfl
  | cons l ls ih =>
    cases s with
    | nil => rfl
    | cons c cs =>
      simp only [List.cons_append, Pattern.takeWord] at h
      split at h
      · rename_i hl
        obtain ⟨u, hu, -⟩ := Option.map_eq_some_iff.1 h
        simp only [agrees, hl, ih hu, Bool.and_self]
      · cases h

/-- A text that begins with one word does not begin with another that clashes with it. -/
theorem agrees_eq_false {t : Pattern.Taken} (hc : clash lead letters)
    (h : Pattern.takeWord letters s = some t) : agrees lead t.text = false := by
  induction lead generalizing letters s t with
  | nil => simp [clash] at hc
  | cons l ls ih =>
    cases letters with
    | nil => simp [clash] at hc
    | cons m ms =>
      cases s with
      | nil => cases h
      | cons c cs =>
        simp only [Pattern.takeWord] at h
        split at h
        · rename_i hm
          obtain ⟨u, hu, rfl⟩ := Option.map_eq_some_iff.1 h
          simp only [clash, Bool.or_eq_true, Bool.not_eq_true'] at hc
          simp only [agrees, Bool.and_eq_false_iff]
          rcases hc with hc | hc
          · refine .inl (Bool.eq_false_iff.2 fun hl => ?_)
            have hany : (readings l).any (sameLetter m ·) = true :=
              List.any_eq_true.2 ⟨c, sameLetter_iff.1 hl, hm⟩
            rw [hany] at hc
            cases hc
          · exact .inr (ih hc hu)
        · cases h

theorem quiet_takeWord {t : Pattern.Taken} (hc : clashWithin lead letters)
    (h : Pattern.takeWord letters s = some t) : Quiet lead t.text := by
  induction letters generalizing s t with
  | nil =>
    cases h
    exact quiet_nil
  | cons m ms ih =>
    cases s with
    | nil => cases h
    | cons c cs =>
      have hwhole := h
      simp only [Pattern.takeWord] at h
      split at h
      · obtain ⟨u, hu, rfl⟩ := Option.map_eq_some_iff.1 h
        simp only [clashWithin, Bool.and_eq_true] at hc
        intro v hv hne
        rcases List.suffix_cons_iff.1 hv with rfl | hv
        · exact agrees_eq_false hc.1 hwhole
        · exact ih hc.2 hu v hv hne
      · cases h

namespace Pattern

variable {p q r : Pattern} {before : Option Char} {t : Taken} {f : Found}

/-! ## Taking and finding -/

theorem take?_both : (p ++ q).take? before s = some t ↔ ∃ u v, p.take? before s = some u ∧
    q.take? (u.text.getLast?.or before) u.rest = some v ∧
    t = ⟨u.text ++ v.text, u.groups ++ v.groups, v.rest⟩ := by
  change (both p q).take? before s = some t ↔ _
  simp only [take?]
  constructor
  · intro h
    split at h
    · cases h
    · rename_i u hu
      split at h
      · cases h
      · rename_i v hv
        exact ⟨u, v, hu, hv, (Option.some.inj h).symm⟩
  · rintro ⟨u, v, hu, hv, rfl⟩
    simp only [hu, hv]

/-- Whether the pattern does not look at what stands before it. -/
def plain : Pattern → Bool
  | edge => false
  | both p q | either p q => p.plain && q.plain
  | maybe p | group p => p.plain
  | word _ | one _ | run _ => true

theorem take?_of_plain (hp : p.plain) (b b' : Option Char) : p.take? b s = p.take? b' s := by
  induction p generalizing b b' s with
  | word | one | run => rfl
  | edge => cases hp
  | both p q ihp ihq =>
    simp only [plain, Bool.and_eq_true] at hp
    simp only [take?, ihp hp.1 b b']
    cases p.take? b' s with
    | none => rfl
    | some t => simp only [ihq hp.2 (t.text.getLast?.or b) (t.text.getLast?.or b')]
  | either p q ihp ihq =>
    simp only [plain, Bool.and_eq_true] at hp
    simp only [take?, ihp hp.1 b b', ihq hp.2 b b']
  | maybe p ih => simp only [take?, ih hp b b']
  | group p ih => simp only [take?, ih hp b b']

theorem find?_isSome_iff (hp : p.plain) :
    (p.find? before s).isSome ↔ ∃ u v, s = u ++ v ∧ (p.take? none v).isSome := by
  induction s generalizing before with
  | nil =>
    rw [find?, Option.isSome_map, take?_of_plain hp before none]
    constructor
    · exact fun h => ⟨[], [], rfl, h⟩
    · rintro ⟨u, v, huv, h⟩
      obtain ⟨-, rfl⟩ := List.append_eq_nil_iff.1 huv.symm
      exact h
  | cons c cs ih =>
    rw [find?, take?_of_plain hp before none]
    split
    · rename_i t ht
      exact ⟨fun _ => ⟨[], c :: cs, rfl, by rw [ht]; rfl⟩, fun _ => rfl⟩
    · rename_i hnone
      rw [Option.isSome_map, ih]
      constructor
      · rintro ⟨u, v, rfl, h⟩
        exact ⟨c :: u, v, rfl, h⟩
      · rintro ⟨u, v, huv, h⟩
        cases u with
        | nil =>
          obtain rfl : c :: cs = v := huv
          rw [hnone] at h
          cases h
        | cons d u =>
          obtain ⟨-, rfl⟩ := List.cons_eq_cons.1 huv
          exact ⟨u, v, rfl, h⟩

theorem take?_of_find? (h : p.find? before s = some f) :
    ∃ b, p.take? b (f.taken.text ++ f.taken.rest) = some f.taken := by
  induction s generalizing before f with
  | nil =>
    obtain ⟨t, ht, rfl⟩ := Option.map_eq_some_iff.1 h
    exact ⟨before, by rw [take?_append ht, ht]⟩
  | cons c cs ih =>
    rw [find?] at h
    split at h
    · rename_i t ht
      cases h
      exact ⟨before, by rw [take?_append ht, ht]⟩
    · obtain ⟨g, hg, rfl⟩ := Option.map_eq_some_iff.1 h
      have hfound := ih hg
      exact hfound

/-- A pattern fits nowhere before the place where it is found. -/
theorem take?_before_find? {b : Option Char} {x y : List Char} (hp : p.plain)
    (h : p.find? before s = some f) (hx : f.before = x ++ y) (hy : y ≠ []) :
    p.take? b (y ++ f.taken.text ++ f.taken.rest) = none := by
  induction s generalizing before b f x with
  | nil =>
    obtain ⟨t, -, rfl⟩ := Option.map_eq_some_iff.1 h
    exact absurd (List.append_eq_nil_iff.1 hx.symm).2 hy
  | cons c cs ih =>
    have hsplit := find?_append h
    rw [find?] at h
    split at h
    · cases h
      exact absurd (List.append_eq_nil_iff.1 hx.symm).2 hy
    · rename_i hnone
      obtain ⟨g, hg, rfl⟩ := Option.map_eq_some_iff.1 h
      cases x with
      | nil =>
        obtain rfl : c :: g.before = y := hx
        rw [take?_of_plain hp b before, hsplit, hnone]
      | cons d x =>
        obtain ⟨-, hx⟩ := List.cons_eq_cons.1 hx
        have hlater := ih (b := b) hg hx
        exact hlater

theorem find?_isSome_congr (h : ∀ b v, (p.take? b v).isSome = (q.take? b v).isSome) :
    (p.find? before s).isSome = (q.find? before s).isSome := by
  induction s generalizing before with
  | nil => simp only [find?, Option.isSome_map, h]
  | cons c cs ih =>
    have hhere := h before (c :: cs)
    have hthere : (p.find? (some c) cs).isSome = (q.find? (some c) cs).isSome := ih
    simp only [find?]
    cases hp : p.take? before (c :: cs) <;> cases hq : q.take? before (c :: cs) <;>
      simp_all

/-! ## What follows -/

/-- The pattern takes the same text whatever follows, as long as that does not begin with a
character of `stop`. -/
def Exact (stop : Char → Bool) (p : Pattern) : Prop :=
  ∀ ⦃before s t⦄, p.take? before s = some t → ∀ b z, (∀ c ∈ z.head?, stop c = false) →
    p.take? b (t.text ++ z) = some ⟨t.text, t.groups, z⟩

/-- The pattern takes the same text whatever follows. -/
def Firm (p : Pattern) : Prop := p.Exact fun _ => false

/-- The text that the pattern takes begins with a character of a class. -/
def Begins (good : Char → Bool) (p : Pattern) : Prop :=
  ∀ ⦃before s t⦄, p.take? before s = some t → ∃ c w, t.text = c :: w ∧ good c

/-- The text that the pattern takes ends with a character of a class. -/
def Ends (good : Char → Bool) (p : Pattern) : Prop :=
  ∀ ⦃before s t⦄, p.take? before s = some t → ∃ w c, t.text = w ++ [c] ∧ good c

/-- The two patterns never fit at the same place. -/
def Disjoint (p q : Pattern) : Prop :=
  ∀ ⦃before s t u⦄, p.take? before s = some t → q.take? before s = some u → False

variable {stop good : Char → Bool} {ls ms : List Char}

/-! ### Words -/

theorem firm_word (ls : List Char) : (word ls).Firm := by
  intro before s t h b z _
  simp only [take?] at h ⊢
  induction ls generalizing s t with
  | nil =>
    cases h
    rfl
  | cons l ls ih =>
    cases s with
    | nil => cases h
    | cons c cs =>
      simp only [takeWord] at h
      split at h
      · rename_i hl
        obtain ⟨u, hu, rfl⟩ := Option.map_eq_some_iff.1 h
        simp [takeWord, hl, ih hu]
      · cases h

theorem begins_word (hg : ls.head?.any fun l => (readings l).all good) :
    (word ls).Begins good := by
  intro before s t h
  cases ls with
  | nil => cases hg
  | cons l ls =>
    cases s with
    | nil => cases h
    | cons c cs =>
      simp only [take?, takeWord] at h
      split at h
      · rename_i hl
        obtain ⟨u, -, rfl⟩ := Option.map_eq_some_iff.1 h
        exact ⟨c, u.text, rfl, List.all_eq_true.1 hg c (sameLetter_iff.1 hl)⟩
      · cases h

theorem ends_word (hg : ls.getLast?.any fun l => (readings l).all good) :
    (word ls).Ends good := by
  intro before s t h
  simp only [take?] at h
  induction ls generalizing s t with
  | nil => cases hg
  | cons l ls ih =>
    cases s with
    | nil => cases h
    | cons c cs =>
      simp only [takeWord] at h
      split at h
      · rename_i hl
        obtain ⟨u, hu, rfl⟩ := Option.map_eq_some_iff.1 h
        cases ls with
        | nil =>
          cases hu
          exact ⟨[], c, rfl, List.all_eq_true.1 hg c (sameLetter_iff.1 hl)⟩
        | cons m ms =>
          rw [List.getLast?_cons_cons] at hg
          obtain ⟨w, d, hw, hd⟩ := ih hg hu
          exact ⟨c :: w, d, by rw [hw]; rfl, hd⟩
      · cases h

theorem disjoint_word (hc : clash ls ms) : Disjoint (word ls) (word ms) := by
  intro before s t u ht hu
  have hwhole : takeWord (ls ++ []) s = some t := by rwa [List.append_nil]
  have hagrees : agrees ls s := takeWord_append_letters hwhole
  rw [← take?_append hu] at hagrees
  have hnot := agrees_eq_false hc hu
  rw [agrees_of_append hagrees] at hnot
  cases hnot

/-- A word is its first part and then the rest of it. -/
theorem take?_word_append (h : (word (ls ++ ms)).take? before s = some t) :
    ∃ u v, (word ls).take? before s = some u ∧ (word ms).take? (u.text.getLast?.or before) u.rest =
      some v ∧ t.text = u.text ++ v.text := by
  simp only [take?] at h ⊢
  induction ls generalizing s t with
  | nil => exact ⟨⟨[], [], s⟩, t, rfl, h, rfl⟩
  | cons l ls ih =>
    cases s with
    | nil => cases h
    | cons c cs =>
      simp only [List.cons_append, takeWord] at h
      split at h
      · rename_i hl
        obtain ⟨t', ht, rfl⟩ := Option.map_eq_some_iff.1 h
        obtain ⟨u, v, hu, hv, htext⟩ := ih ht
        refine ⟨{ u with text := c :: u.text }, v, by simp [takeWord, hl, hu], hv, ?_⟩
        simp [htext]
      · cases h

/-! ### Sequences -/

/-- What the second pattern takes keeps the first one from reading on. -/
theorem Exact.both {first : Char → Bool} (hp : p.Exact first) (hq : q.Exact stop)
    (hb : q.Begins fun c => !first c) : (p ++ q).Exact stop := by
  intro before s t h b z hz
  obtain ⟨u, v, hu, hv, rfl⟩ := take?_both.1 h
  obtain ⟨c, w, hw, hc⟩ := hb hv
  have hnext := hp hu b (v.text ++ z) (by simpa [hw] using hc)
  rw [take?_both]
  exact ⟨_, _, by simpa [List.append_assoc] using hnext, hq hv _ z hz, rfl⟩

theorem Firm.both (hp : p.Firm) (hq : q.Exact stop) : (p ++ q).Exact stop := by
  intro before s t h b z hz
  obtain ⟨u, v, hu, hv, rfl⟩ := take?_both.1 h
  have hnext := hp hu b (v.text ++ z) (by simp)
  rw [take?_both]
  exact ⟨_, _, by simpa [List.append_assoc] using hnext, hq hv _ z hz, rfl⟩

theorem Begins.both (hp : p.Begins good) : (p ++ q).Begins good := by
  intro before s t h
  obtain ⟨u, v, hu, -, rfl⟩ := take?_both.1 h
  obtain ⟨c, w, hw, hc⟩ := hp hu
  exact ⟨c, w ++ v.text, by simp [hw], hc⟩

theorem Ends.both (hq : q.Ends good) : (p ++ q).Ends good := by
  intro before s t h
  obtain ⟨u, v, -, hv, rfl⟩ := take?_both.1 h
  obtain ⟨w, c, hw, hc⟩ := hq hv
  exact ⟨u.text ++ w, c, by simp [hw], hc⟩

theorem Disjoint.symm (h : Disjoint p q) : Disjoint q p := fun _ _ _ _ hq hp => h hp hq

theorem Disjoint.both (h : Disjoint p q) : Disjoint (p ++ r) q := by
  intro before s t u ht hu
  obtain ⟨v, -, hv, -, -⟩ := take?_both.1 ht
  exact h hv hu

/-- Patterns that begin alike are disjoint if their rests are. -/
theorem Disjoint.after (h : Disjoint q r) : Disjoint (p ++ q) (p ++ r) := by
  intro before s t u ht hu
  obtain ⟨v, w, hv, hw, -⟩ := take?_both.1 ht
  obtain ⟨v', w', hv', hw', -⟩ := take?_both.1 hu
  obtain rfl := Option.some.inj (hv.symm.trans hv')
  exact h hw hw'

theorem Disjoint.after_word (h : Disjoint q (word ms)) :
    Disjoint (p ++ word ls ++ q) (p ++ word (ls ++ ms)) := by
  intro before s t u ht hu
  obtain ⟨v, w, hv, hw, -⟩ := take?_both.1 ht
  obtain ⟨a, b, ha, hb, rfl⟩ := take?_both.1 hv
  obtain ⟨a', c, ha', hc, -⟩ := take?_both.1 hu
  obtain rfl := Option.some.inj (ha.symm.trans ha')
  obtain ⟨b', d, hb', hd, -⟩ := take?_word_append hc
  obtain rfl := Option.some.inj (hb.symm.trans hb')
  have hbefore : (a.text ++ b.text).getLast?.or before =
      b.text.getLast?.or (a.text.getLast?.or before) := by
    rw [List.getLast?_append, Option.or_assoc]
  rw [hbefore] at hw
  exact h hw hd

/-! ### Alternatives and options -/

theorem Firm.either (hp : p.Firm) (hq : q.Firm) (hd : Disjoint q p) : (either p q).Firm := by
  intro before s t h b z hz
  simp only [take?] at h ⊢
  split at h
  · rename_i u hu
    cases h
    rw [hp hu b z hz]
  · have hq' := hq h b z hz
    cases hp' : p.take? b (t.text ++ z) with
    | none => exact hq'
    | some u => exact (hd hq' hp').elim

theorem Disjoint.either (hp : Disjoint p r) (hq : Disjoint q r) : Disjoint (either p q) r := by
  intro before s t u ht hu
  simp only [take?] at ht
  split at ht
  · rename_i v hv
    exact hp hv hu
  · exact hq ht hu

/-- Nothing but the letter itself makes an optional letter take more. -/
theorem exact_maybe_letter (l : Char) : (maybe (word [l])).Exact (sameLetter l) := by
  intro before s t h b z hz
  have hnone : (word [l]).take? b z = none := by
    cases z with
    | nil => rfl
    | cons c cs => simp [take?, takeWord, hz c rfl]
  simp only [take?] at h hnone ⊢
  split at h
  · rename_i u hu
    cases h
    have htaken : (word [l]).take? before s = some t := hu
    have hagain := firm_word [l] htaken b z (by simp)
    simp only [take?] at hagain
    rw [hagain]
  · cases h
    simp [hnone]

/-- What a pattern may take besides does not matter to whether it fits. -/
theorem isSome_maybe : ((p ++ maybe q).take? before s).isSome = (p.take? before s).isSome := by
  change ((both p (maybe q)).take? before s).isSome = _
  simp only [take?]
  cases p.take? before s with
  | none => rfl
  | some t => cases hq : q.take? (t.text.getLast?.or before) t.rest <;> simp [hq]

theorem isSome_run {within : Char → Bool} :
    ((p ++ run within).take? before s).isSome = (p.take? before s).isSome := by
  change ((both p (run within)).take? before s).isSome = _
  simp only [take?]
  cases p.take? before s <;> rfl

/-! ### Classes -/

theorem firm_one (within : Char → Bool) : (one within).Firm := by
  intro before s t h b z _
  cases s with
  | nil => cases h
  | cons c cs =>
    simp only [take?] at h
    split at h
    · rename_i hc
      cases h
      simp [take?, hc]
    · cases h

theorem exact_run (within : Char → Bool) : (run within).Exact within := by
  intro before s t h b z hz
  cases h
  have hall : ∀ c ∈ s.takeWhile within, within c := fun c hc =>
    List.all_eq_true.1 List.all_takeWhile c hc
  have hstop : z.takeWhile within = [] ∧ z.dropWhile within = z := by
    cases z with
    | nil => exact ⟨rfl, rfl⟩
    | cons c cs => simp [hz c rfl]
  simp [take?, List.takeWhile_append_of_pos hall, List.dropWhile_append_of_pos hall, hstop]

theorem Exact.group (hp : p.Exact stop) : (group p).Exact stop := by
  intro before s t h b z hz
  obtain ⟨u, hu, rfl⟩ := Option.map_eq_some_iff.1 h
  simp [take?, hp hu b z hz]

/-- A run of digits ends at anything else. -/
theorem exact_number : number.Exact isDigit :=
  Exact.group (Firm.both (firm_one isDigit) (exact_run isDigit))

/-! ## Where a word may begin -/

/-- Wherever the pattern fits, the text reads as a word, as far as both go. -/
def Opens (lead : List Char) (p : Pattern) : Prop :=
  ∀ ⦃before s t⦄, p.take? before s = some t → agrees lead s

/-- No word begins in the text that the pattern takes. -/
def Quiet (lead : List Char) (p : Pattern) : Prop :=
  ∀ ⦃before s t⦄, p.take? before s = some t → Text.Quiet lead t.text

/-- No word begins in the text that the pattern takes, but for its first character. -/
def QuietTail (lead : List Char) (p : Pattern) : Prop :=
  ∀ ⦃before s t⦄, p.take? before s = some t → Text.Quiet lead t.text.tail

variable {lead : List Char}

theorem opens_word : (word (lead ++ ls)).Opens lead := fun _ _ _ h => takeWord_append_letters h

theorem Opens.both (hp : p.Opens lead) : (p ++ q).Opens lead := by
  intro before s t h
  obtain ⟨u, v, hu, -, -⟩ := take?_both.1 h
  exact hp hu

theorem quiet_word (hc : clashWithin lead ls) : (word ls).Quiet lead :=
  fun _ _ _ h => quiet_takeWord hc h

theorem quietTail_word (hc : clashWithin lead ls.tail) : (word ls).QuietTail lead := by
  intro before s t h
  cases ls with
  | nil =>
    cases h
    exact quiet_nil
  | cons l ls =>
    cases s with
    | nil => cases h
    | cons c cs =>
      simp only [take?, takeWord] at h
      split at h
      · obtain ⟨u, hu, rfl⟩ := Option.map_eq_some_iff.1 h
        exact quiet_takeWord hc hu
      · cases h

theorem Quiet.both (hp : p.Quiet lead) (hq : q.Quiet lead) : (p ++ q).Quiet lead := by
  intro before s t h
  obtain ⟨u, v, hu, hv, rfl⟩ := take?_both.1 h
  exact (hp hu).append (hq hv)

theorem QuietTail.both (hp : p.QuietTail lead) (hq : q.Quiet lead) : (p ++ q).QuietTail lead := by
  intro before s t h
  obtain ⟨u, v, hu, hv, rfl⟩ := take?_both.1 h
  cases hw : u.text with
  | nil => simpa [hw] using (hq hv).of_suffix (List.tail_suffix v.text)
  | cons c w =>
    have htail := hp hu
    rw [hw] at htail
    exact htail.append (hq hv)

theorem Quiet.either (hp : p.Quiet lead) (hq : q.Quiet lead) : (either p q).Quiet lead := by
  intro before s t h
  simp only [take?] at h
  split at h
  · rename_i u hu
    cases h
    exact hp hu
  · exact hq h

theorem Quiet.maybe (hp : p.Quiet lead) : (maybe p).Quiet lead := by
  intro before s t h
  simp only [take?] at h
  split at h
  · rename_i u hu
    cases h
    exact hp hu
  · cases h
    exact quiet_nil

theorem Quiet.group (hp : p.Quiet lead) : (group p).Quiet lead := by
  intro before s t h
  obtain ⟨u, hu, rfl⟩ := Option.map_eq_some_iff.1 h
  have hquiet := hp hu
  exact hquiet

/-- A text is quiet when none of its characters is a reading of the first letter of the word. -/
theorem quiet_of_forall {l : Char} {w : List Char} (hw : ∀ c ∈ w, sameLetter l c = false) :
    Text.Quiet (l :: lead) w := by
  intro v hv hne
  cases v with
  | nil => exact absurd rfl hne
  | cons c cs => simp [agrees, hw c (hv.subset List.mem_cons_self)]

/-- Characters of a class are no readings of a letter that has none in the class. -/
theorem sameLetter_eq_false {l c : Char} {within : Char → Bool}
    (hw : (readings l).all fun c => !within c) (hc : within c) : sameLetter l c = false := by
  refine Bool.eq_false_iff.2 fun hl => ?_
  have hnot := List.all_eq_true.1 hw c (sameLetter_iff.1 hl)
  simp [hc] at hnot

theorem quiet_one {l : Char} {within : Char → Bool} (hw : (readings l).all fun c => !within c) :
    (one within).Quiet (l :: lead) := by
  intro before s t h
  cases s with
  | nil => cases h
  | cons c cs =>
    simp only [take?] at h
    split at h
    · rename_i hc
      cases h
      refine quiet_of_forall fun d hd => ?_
      obtain rfl := List.mem_singleton.1 hd
      exact sameLetter_eq_false hw hc
    · cases h

theorem quiet_run {l : Char} {within : Char → Bool} (hw : (readings l).all fun c => !within c) :
    (run within).Quiet (l :: lead) := by
  intro before s t h
  cases h
  refine quiet_of_forall fun d hd => ?_
  exact sameLetter_eq_false hw (List.all_eq_true.1 List.all_takeWhile d hd)

theorem quiet_number {l : Char} (hw : (readings l).all fun c => !isDigit c) :
    number.Quiet (l :: lead) :=
  Quiet.group (Quiet.both (quiet_one hw) (quiet_run hw))

/-- A pattern that opens with a word does not fit inside the text that it takes, if the word does
not begin there. -/
theorem take?_inside {b : Option Char} {x y : List Char} (ho : p.Opens lead)
    (hq : p.QuietTail lead) (ht : p.take? before s = some t) (htext : t.text = x ++ y)
    (hx : x ≠ []) (hy : y ≠ []) : p.take? b (y ++ z) = none := by
  rw [Option.eq_none_iff_forall_ne_some]
  intro u hu
  have hopens := agrees_of_append (ho hu)
  have hsuffix : y <:+ t.text.tail := by
    cases x with
    | nil => exact absurd rfl hx
    | cons c x =>
      rw [htext]
      exact List.suffix_append x y
  rw [hq ht y hsuffix hy] at hopens
  cases hopens

end Pattern

end CardRules.Text
