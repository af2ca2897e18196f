import CardRules.CardText.Requirement
import CardRules.Proofs.Text.Pattern
import CardRules.Text.Integer
import Mathlib.Data.List.TakeWhile

/-!
# Numbers in texts

Whatever a pattern reports stands in the text, and one of its groups takes it (`mem_groups`). So a
pattern whose only group is a number reports a run of digits, and digits are read unless there are
too many of them (`readInteger_digits`). In a text without overlong runs of digits (`Short`) every
number is read (`isOk_number?`), and no number is negative (`number?_nonneg`).
-/

namespace CardRules

namespace Text

namespace Pattern

variable {p : Pattern} {before : Option Char} {s g : List Char} {t : Taken} {f : Found}

/-! ## What is reported -/

/-- The patterns whose text is reported. -/
def reported : Pattern → List Pattern
  | both p q | either p q => p.reported ++ q.reported
  | maybe p => p.reported
  | group p => [p]
  | word _ | one _ | run _ | edge => []

/-- Whether something is reported wherever the pattern fits. -/
def alwaysReports : Pattern → Bool
  | both p q => p.alwaysReports || q.alwaysReports
  | either p q => p.alwaysReports && q.alwaysReports
  | group _ => true
  | word _ | one _ | run _ | edge | maybe _ => false

/-- The pattern takes this text somewhere. -/
def Takes (p : Pattern) (g : List Char) : Prop :=
  ∃ before s t, p.take? before s = some t ∧ t.text = g

theorem groups_takeWord {ls : List Char} (h : takeWord ls s = some t) : t.groups = [] := by
  induction ls generalizing s t with
  | nil =>
    cases h
    rfl
  | cons l ls ih =>
    cases s with
    | nil => cases h
    | cons c cs =>
      simp only [takeWord] at h
      split at h
      · obtain ⟨u, hu, rfl⟩ := Option.map_eq_some_iff.1 h
        have hrest := ih hu
        exact hrest
      · cases h

theorem takes_of_mem_groups (h : p.take? before s = some t) (hg : g ∈ t.groups) :
    g <:+: s ∧ ∃ q ∈ p.reported, q.Takes g := by
  induction p generalizing before s t with
  | word ls =>
    rw [groups_takeWord h] at hg
    cases hg
  | one within =>
    cases s with
    | nil => cases h
    | cons c cs =>
      simp only [take?] at h
      split at h
      · cases h
        cases hg
      · cases h
  | run within =>
    cases h
    cases hg
  | edge =>
    simp only [take?] at h
    split at h
    · cases h
      cases hg
    · cases h
  | both p q ihp ihq =>
    obtain ⟨u, v, hu, hv, rfl⟩ := take?_both.1 h
    rcases List.mem_append.1 hg with hg | hg
    · obtain ⟨hin, r, hr, htakes⟩ := ihp hu hg
      exact ⟨hin, r, List.mem_append_left _ hr, htakes⟩
    · obtain ⟨hin, r, hr, htakes⟩ := ihq hv hg
      have hrest : u.rest <:+ s := ⟨u.text, take?_append hu⟩
      exact ⟨hin.trans hrest.isInfix, r, List.mem_append_right _ hr, htakes⟩
  | either p q ihp ihq =>
    simp only [take?] at h
    split at h
    · rename_i u hu
      cases h
      obtain ⟨hin, r, hr, htakes⟩ := ihp hu hg
      exact ⟨hin, r, List.mem_append_left _ hr, htakes⟩
    · obtain ⟨hin, r, hr, htakes⟩ := ihq h hg
      exact ⟨hin, r, List.mem_append_right _ hr, htakes⟩
  | maybe p ih =>
    simp only [take?] at h
    split at h
    · rename_i u hu
      cases h
      exact ih hu hg
    · cases h
      cases hg
  | group p ih =>
    obtain ⟨u, hu, rfl⟩ := Option.map_eq_some_iff.1 h
    obtain rfl := List.mem_singleton.1 hg
    have hin : u.text <+: s := ⟨u.rest, take?_append hu⟩
    exact ⟨hin.isInfix, p, List.mem_singleton_self p, before, s, u, hu, rfl⟩

theorem groups_ne_nil (hp : p.alwaysReports) (h : p.take? before s = some t) : t.groups ≠ [] := by
  induction p generalizing before s t with
  | word | one | run | edge | maybe => cases hp
  | both p q ihp ihq =>
    obtain ⟨u, v, hu, hv, rfl⟩ := take?_both.1 h
    rw [alwaysReports, Bool.or_eq_true] at hp
    rcases hp with hp | hq
    · exact List.append_ne_nil_of_left_ne_nil (ihp hp hu) _
    · exact List.append_ne_nil_of_right_ne_nil _ (ihq hq hv)
  | either p q ihp ihq =>
    rw [alwaysReports, Bool.and_eq_true] at hp
    simp only [take?] at h
    split at h
    · rename_i u hu
      cases h
      exact ihp hp.1 hu
    · exact ihq hp.2 h
  | group p ih =>
    obtain ⟨u, hu, rfl⟩ := Option.map_eq_some_iff.1 h
    exact List.cons_ne_nil u.text []

theorem takes_of_mem_found (h : p.find? before s = some f) (hg : g ∈ f.taken.groups) :
    g <:+: s ∧ ∃ q ∈ p.reported, q.Takes g := by
  obtain ⟨b, hb⟩ := take?_of_find? h
  obtain ⟨hin, htakes⟩ := takes_of_mem_groups hb hg
  have hsuffix : f.taken.text ++ f.taken.rest <:+ s :=
    ⟨f.before, by rw [← List.append_assoc, find?_append h]⟩
  exact ⟨hin.trans hsuffix.isInfix, htakes⟩

theorem takes_of_firstGroup? (h : p.firstGroup? s = some g) :
    g <:+: s ∧ ∃ q ∈ p.reported, q.Takes g := by
  obtain ⟨f, hf, hg⟩ := Option.bind_eq_some_iff.1 h
  exact takes_of_mem_found hf (List.mem_of_head? hg)

theorem takes_of_mem_findAll (hg : g ∈ p.findAll before s) :
    g <:+: s ∧ ∃ q ∈ p.reported, q.Takes g := by
  fun_induction findAll p before s with
  | case1 => cases hg
  | case2 before s f hf groups hshorter ih =>
    rcases List.mem_append.1 hg with hg | hg
    · exact takes_of_mem_found hf hg
    · obtain ⟨hin, htakes⟩ := ih hg
      have hrest : f.taken.rest <:+ s := ⟨_, find?_append hf⟩
      exact ⟨hin.trans hrest.isInfix, htakes⟩
  | case3 before s f hf groups => exact takes_of_mem_found hf hg

theorem takes_both {q : Pattern} (h : (p ++ q).Takes g) :
    ∃ x y, g = x ++ y ∧ p.Takes x ∧ q.Takes y := by
  obtain ⟨before, s, t, ht, rfl⟩ := h
  obtain ⟨u, v, hu, hv, rfl⟩ := take?_both.1 ht
  exact ⟨u.text, v.text, rfl, ⟨_, _, u, hu, rfl⟩, ⟨_, _, v, hv, rfl⟩⟩

theorem takes_anyOf {ps : List Pattern} (h : (anyOf ps).Takes g) : ∃ p ∈ ps, p.Takes g := by
  obtain ⟨before, s, t, ht, rfl⟩ := h
  induction ps with
  | nil =>
    cases s with
    | nil => cases ht
    | cons c cs => simp [anyOf, take?] at ht
  | cons p ps ih =>
    cases ps with
    | nil => exact ⟨p, List.mem_singleton_self p, before, s, t, ht, rfl⟩
    | cons q ps =>
      simp only [anyOf, take?] at ht
      split at ht
      · rename_i u hu
        cases ht
        exact ⟨p, List.mem_cons_self, before, s, _, hu, rfl⟩
      · obtain ⟨r, hr, htakes⟩ := ih ht
        exact ⟨r, List.mem_cons_of_mem p hr, htakes⟩

theorem Quiet.anyOf {lead : List Char} {ps : List Pattern} (h : ∀ p ∈ ps, p.Quiet lead) :
    (anyOf ps).Quiet lead := by
  intro before s t ht
  obtain ⟨p, hp, before', s', t', ht', htext⟩ := takes_anyOf ⟨before, s, t, ht, rfl⟩
  rw [← htext]
  exact h p hp ht'

theorem Begins.of_takes {good : Char → Bool} (hp : p.Begins good) (h : p.Takes g) :
    ∃ c w, g = c :: w ∧ good c := by
  obtain ⟨before, s, t, ht, rfl⟩ := h
  exact hp ht

theorem Ends.of_takes {good : Char → Bool} (hp : p.Ends good) (h : p.Takes g) :
    ∃ w c, g = w ++ [c] ∧ good c := by
  obtain ⟨before, s, t, ht, rfl⟩ := h
  exact hp ht

theorem one_of_takes {within : Char → Bool} (h : (one within).Takes g) :
    ∃ c, g = [c] ∧ within c := by
  obtain ⟨before, s, t, ht, rfl⟩ := h
  cases s with
  | nil => cases ht
  | cons c cs =>
    simp only [take?] at ht
    split at ht
    · rename_i hc
      cases ht
      exact ⟨c, rfl, hc⟩
    · cases ht

theorem all_of_takes_run {within : Char → Bool} (h : (run within).Takes g) :
    ∀ c ∈ g, within c := by
  obtain ⟨before, s, t, ht, rfl⟩ := h
  cases ht
  exact fun c hc => List.all_eq_true.1 List.all_takeWhile c hc

/-- A run of digits, at least one. -/
theorem digits_of_takes (h : (run1 isDigit).Takes g) : g ≠ [] ∧ ∀ c ∈ g, isDigit c := by
  obtain ⟨x, y, rfl, hx, hy⟩ := takes_both h
  obtain ⟨c, rfl, hc⟩ := one_of_takes hx
  exact ⟨nofun, List.forall_mem_cons.2 ⟨hc, all_of_takes_run hy⟩⟩

end Pattern

/-! ## Reading digits -/

variable {s g : List Char}

/-- Every digit is one of ten behind a zero. -/
theorem exists_zero {c : Char} (h : isDigit c) :
    ∃ z ∈ digitZeros, ∃ k < 10, c.toNat = z + k := by
  unfold isDigit digit? at h
  split at h
  · split at h
    · rename_i hc
      have hlo : 48 ≤ c.toNat := hc.1
      have hhi : c.toNat ≤ 57 := hc.2
      exact ⟨0x30, by decide, c.toNat - 48, by omega, by omega⟩
    · cases h
  · rw [Option.isSome_map, Option.isSome_iff_exists] at h
    obtain ⟨z, hz⟩ := h
    have hin : z ≤ c.toNat ∧ c.toNat < z + 10 := by simpa using List.find?_some hz
    exact ⟨z, List.mem_of_find?_eq_some hz, c.toNat - z, by omega, by omega⟩

theorem not_isBlank_of_isDigit {c : Char} (h : isDigit c) : isBlank c = false := by
  have hall : ∀ z ∈ digitZeros, ∀ k < 10, blankRanges.has (z + k) = false := by decide +kernel
  obtain ⟨z, hz, k, hk, hc⟩ := exists_zero h
  rw [isBlank, hc, hall z hz k hk]

theorem ne_of_isDigit {c d : Char} (h : isDigit c) (hd : isDigit d = false) : c ≠ d := by
  rintro rfl
  rw [h] at hd
  cases hd

theorem wellSpaced_digits (hs : ∀ c ∈ s, isDigit c) : wellSpaced s := by
  induction s with
  | nil => rfl
  | cons c cs ih =>
    have hc : c ≠ '_' := ne_of_isDigit (hs c List.mem_cons_self) rfl
    rw [wellSpaced]
    · exact ih fun d hd => hs d (List.mem_cons_of_mem c hd)
    · exact fun h => absurd h hc
    · exact fun _ h => absurd h hc

/-- Digits and nothing else are read unless there are too many. -/
theorem readDigits_digits (hne : s ≠ []) (hs : ∀ c ∈ s, isDigit c) : readDigits s =
    if digitLimit < s.length then .error (.tooManyDigits s.length)
    else .ok (digitsValue s, []) := by
  have hrun : ∀ c ∈ s, (isDigit c || c == '_') = true := fun c hc => by simp [hs c hc]
  have hhead : s.head? ≠ some '_' := by
    cases s with
    | nil => exact absurd rfl hne
    | cons c cs => simpa using ne_of_isDigit (d := '_') (hs c List.mem_cons_self) rfl
  have hcount : s.countP isDigit = s.length := List.countP_eq_length.2 hs
  have hpos : s.length ≠ 0 := fun h => hne (List.length_eq_zero_iff.1 h)
  unfold readDigits
  rw [List.takeWhile_eq_self_iff.2 hrun, List.dropWhile_eq_nil_iff.2 hrun]
  simp [hhead, wellSpaced_digits hs, hcount, hpos]

theorem readInteger_digits (hne : s ≠ []) (hs : ∀ c ∈ s, isDigit c) : readInteger s =
    if digitLimit < s.length then .error (.tooManyDigits s.length) else .ok (digitsValue s) := by
  cases s with
  | nil => exact absurd rfl hne
  | cons c cs =>
    have hc := hs c List.mem_cons_self
    have hplus : c ≠ '+' := ne_of_isDigit hc rfl
    have hminus : c ≠ '-' := ne_of_isDigit hc rfl
    have hdrop : (c :: cs).dropWhile isMargin = c :: cs := by
      simp [isMargin, not_isBlank_of_isDigit hc]
    unfold readInteger
    rw [hdrop]
    simp only [hplus, hminus, List.cons.injEq, false_and, imp_self, implies_true,
      readDigits_digits hne hs]
    by_cases hlong : digitLimit < (c :: cs).length
    · rw [if_pos hlong, if_pos hlong]
    · rw [if_neg hlong, if_neg hlong]
      rfl

/-- No run of digits is longer than what an integer may be written with. -/
def Short (s : List Char) : Prop :=
  ∀ w, w <:+: s → (∀ c ∈ w, isDigit c) → w.length ≤ digitLimit

theorem Short.infix (hs : Short s) (hg : g <:+: s) : Short g := fun w hw => hs w (hw.trans hg)

end Text

namespace CardText

open Text

variable {p : Pattern} {s g : List Char} {n : Int}

theorem integer_digits (hg : (Pattern.run1 isDigit).Takes g) : integer g =
    if digitLimit < g.length then .error (.ofInteger g (.tooManyDigits g.length))
    else .ok (digitsValue g) := by
  obtain ⟨hne, hdigits⟩ := Pattern.digits_of_takes hg
  rw [integer, readInteger_digits hne hdigits]
  by_cases hlong : digitLimit < g.length
  · rw [if_pos hlong, if_pos hlong]
  · rw [if_neg hlong, if_neg hlong]

theorem isOk_integer (hg : (Pattern.run1 isDigit).Takes g) (hs : Short s) (hin : g <:+: s) :
    (integer g).isOk := by
  have hlength := hs g hin (Pattern.digits_of_takes hg).2
  rw [integer_digits hg, if_neg (Nat.not_lt.2 hlength)]
  rfl

theorem integer_nonneg (hg : (Pattern.run1 isDigit).Takes g) (h : integer g = .ok n) : 0 ≤ n := by
  rw [integer_digits hg] at h
  split at h
  · cases h
  · cases h
    exact Int.natCast_nonneg _

/-- The pattern reports nothing but numbers. -/
def ReportsNumbers (p : Pattern) : Prop := p.reported = [Pattern.run1 isDigit]

theorem ReportsNumbers.takes (hp : ReportsNumbers p) (h : p.firstGroup? s = some g) :
    g <:+: s ∧ (Pattern.run1 isDigit).Takes g := by
  obtain ⟨hin, q, hq, htakes⟩ := Pattern.takes_of_firstGroup? h
  rw [hp] at hq
  exact ⟨hin, List.mem_singleton.1 hq ▸ htakes⟩

/-- In a text without overlong runs of digits every number is read. -/
theorem isOk_number? (hp : ReportsNumbers p) (hs : Short s) : (number? p s).isOk := by
  unfold number?
  split
  · rfl
  · rename_i digits hdigits
    obtain ⟨hin, htakes⟩ := hp.takes hdigits
    have hok := isOk_integer htakes hs hin
    cases hn : integer digits with
    | error f =>
      rw [hn] at hok
      cases hok
    | ok n => rfl

theorem number?_nonneg (hp : ReportsNumbers p) (h : number? p s = .ok (some n)) : 0 ≤ n := by
  unfold number? at h
  split at h
  · cases h
  · rename_i digits hdigits
    obtain ⟨m, hm, hn⟩ := ok_of_map h
    cases hn
    exact integer_nonneg (hp.takes hdigits).2 hm

theorem costClauses_report : ∀ clause ∈ costClauses, ReportsNumbers clause.1 := by
  simp only [costClauses, List.forall_mem_cons, List.not_mem_nil, false_implies, implies_true,
    and_true]
  exact ⟨rfl, rfl, rfl⟩

end CardText

end CardRules
