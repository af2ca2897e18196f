import CardRules.Proofs.Text.Number

/-!
# Patterns and letter case

`asciiLower` puts the letters of ASCII in lower case and leaves everything else. A pattern whose
words are in lower case and whose classes do not tell the letters of one case from those of the
other (`Pattern.caseBlind`) fits the text in lower case where it fits the text, and takes and
reports the same there, in lower case (`take?_asciiLower`). So do finding, finding all and erasing.
-/

namespace CardRules.Text

variable {p : Char → Bool} {c : Char} {s : List Char}

/-! ## Classes of characters -/

/-- The capital letters of ASCII. -/
def capitals : List Char := (List.range 26).map fun k => Char.ofNat (65 + k)

theorem mem_capitals (h : c.toLower ≠ c) : c ∈ capitals := by
  unfold Char.toLower at h
  split at h
  · rename_i hc
    have hlo : 65 ≤ c.toNat := hc.1
    have hhi : c.toNat ≤ 90 := hc.2
    refine List.mem_map.2 ⟨c.toNat - 65, List.mem_range.2 (by omega), ?_⟩
    rw [Nat.add_sub_cancel' hlo, Char.ofNat_toNat]
  · exact absurd rfl h

/-- Whether a function of characters makes no difference between the forms of an ASCII letter. -/
def caseBlind {α : Type} [DecidableEq α] (f : Char → α) : Bool :=
  capitals.all fun c => f c.toLower == f c

theorem apply_toLower {α : Type} [DecidableEq α] {f : Char → α} (hf : caseBlind f) (c : Char) :
    f c.toLower = f c := by
  by_cases hc : c.toLower = c
  · rw [hc]
  · exact eq_of_beq (List.all_eq_true.1 hf c (mem_capitals hc))

theorem comp_toLower {α : Type} [DecidableEq α] {f : Char → α} (hf : caseBlind f) :
    f ∘ Char.toLower = f :=
  funext (apply_toLower hf)

theorem any_toLower (hp : caseBlind p) (o : Option Char) :
    (o.map Char.toLower).any p = o.any p := by
  cases o with
  | none => rfl
  | some c => exact apply_toLower hp c

theorem caseBlind_isBlank : caseBlind isBlank := by decide

theorem caseBlind_isWord : caseBlind isWord := by decide

/-- A letter of a word reads both forms alike. -/
theorem caseBlind_sameLetter {letter : Char} (h : letter.isUpper = false) :
    caseBlind (sameLetter letter) := by
  by_cases hl : letter.isLower
  · have hsmall : ∀ k < 26, caseBlind (sameLetter (Char.ofNat (97 + k))) := by decide +kernel
    obtain ⟨hlo, hhi⟩ := Bool.and_eq_true_iff.1 hl
    have hlo : 97 ≤ letter.toNat := of_decide_eq_true hlo
    have hhi : letter.toNat ≤ 122 := of_decide_eq_true hhi
    have hletter := hsmall (letter.toNat - 97) (by omega)
    rwa [Nat.add_sub_cancel' hlo, Char.ofNat_toNat] at hletter
  · refine List.all_eq_true.2 fun c hc => ?_
    have hforms : capitals.all fun c => c.isUpper && c.toLower.isLower := by decide
    have hform := List.all_eq_true.1 hforms c hc
    rw [Bool.and_eq_true] at hform
    have hupper : c ≠ letter := by
      rintro rfl
      exact absurd hform.1 (by simp [h])
    have hlower : c.toLower ≠ letter := by
      rintro rfl
      exact hl hform.2
    simp [sameLetter, hl, hupper, hlower]

/-! ## Texts -/

/-- The text with the letters of ASCII in lower case. -/
def asciiLower (s : List Char) : List Char := s.map Char.toLower

@[simp] theorem asciiLower_nil : asciiLower [] = [] := rfl

@[simp] theorem asciiLower_cons : asciiLower (c :: s) = c.toLower :: asciiLower s := rfl

@[simp] theorem asciiLower_append (s t : List Char) :
    asciiLower (s ++ t) = asciiLower s ++ asciiLower t := List.map_append

@[simp] theorem length_asciiLower (s : List Char) : (asciiLower s).length = s.length :=
  List.length_map _

@[simp] theorem isEmpty_asciiLower (s : List Char) : (asciiLower s).isEmpty = s.isEmpty :=
  List.isEmpty_map

theorem head?_asciiLower (s : List Char) : (asciiLower s).head? = s.head?.map Char.toLower :=
  List.head?_map

theorem getLast?_asciiLower (s : List Char) :
    (asciiLower s).getLast? = s.getLast?.map Char.toLower := List.getLast?_map

theorem takeWhile_asciiLower (hp : caseBlind p) :
    (asciiLower s).takeWhile p = asciiLower (s.takeWhile p) := by
  rw [asciiLower, List.takeWhile_map, comp_toLower hp, asciiLower]

theorem dropWhile_asciiLower (hp : caseBlind p) :
    (asciiLower s).dropWhile p = asciiLower (s.dropWhile p) := by
  rw [asciiLower, List.dropWhile_map, comp_toLower hp, asciiLower]

theorem dropEnd_asciiLower (hp : caseBlind p) :
    dropEnd p (asciiLower s) = asciiLower (dropEnd p s) := by
  have hreverse : (asciiLower s).reverse = asciiLower s.reverse := List.map_reverse.symm
  rw [dropEnd, hreverse, dropWhile_asciiLower hp]
  exact List.map_reverse.symm

theorem dropEnds_asciiLower (hp : caseBlind p) :
    dropEnds p (asciiLower s) = asciiLower (dropEnds p s) := by
  rw [dropEnds, dropWhile_asciiLower hp, dropEnd_asciiLower hp, dropEnds]

@[simp] theorem trim_asciiLower (s : List Char) : trim (asciiLower s) = asciiLower (trim s) :=
  dropEnds_asciiLower caseBlind_isBlank

/-- The characters are no capitals. -/
theorem asciiLower_eq_self (h : ∀ c ∈ s, c ∉ capitals) : asciiLower s = s := by
  refine (List.map_congr_left fun c hc => ?_).trans (List.map_id s)
  by_contra hne
  exact h c hc (mem_capitals hne)

/-- Lower case is the same from any case of the ASCII letters. -/
@[simp] theorem lowerChars_asciiLower (s : List Char) :
    lowerChars (asciiLower s) = lowerChars s := by
  have hfrom : ∀ inWord, lowerFrom inWord (asciiLower s) = lowerFrom inWord s := by
    induction s with
    | nil => exact fun _ => rfl
    | cons c cs ih =>
      intro inWord
      have hsigma : (c.toLower == 'Σ') = (c == 'Σ') := apply_toLower (f := (· == 'Σ')) (by decide) c
      have hcased : caseBlind isCased := by decide
      have hignorable : caseBlind isCaseIgnorable := by decide
      have hform : lowerChar c.toLower = lowerChar c := apply_toLower (by decide) c
      rw [asciiLower_cons, lowerFrom, lowerFrom, hsigma, hform, apply_toLower hcased,
        apply_toLower hignorable, dropWhile_asciiLower hignorable, head?_asciiLower,
        any_toLower hcased, ih]
  exact hfrom false

namespace Pattern

/-! ## Patterns -/

/-- Whether a pattern reads both forms of the ASCII letters alike. -/
def caseBlind : Pattern → Bool
  | word letters => letters.all (!·.isUpper)
  | one p | run p => Text.caseBlind p
  | edge => true
  | both p q | either p q => p.caseBlind && q.caseBlind
  | maybe p | group p => p.caseBlind

/-- What was taken, in lower case. -/
def Taken.lower (t : Taken) : Taken :=
  ⟨asciiLower t.text, t.groups.map asciiLower, asciiLower t.rest⟩

/-- What was found, in lower case. -/
def Found.lower (f : Found) : Found := ⟨asciiLower f.before, f.taken.lower⟩

variable {p : Pattern} {before : Option Char} {letters : List Char}

theorem takeWord_asciiLower (h : letters.all (!·.isUpper)) :
    takeWord letters (asciiLower s) = (takeWord letters s).map Taken.lower := by
  induction letters generalizing s with
  | nil => rfl
  | cons l ls ih =>
    cases s with
    | nil => rfl
    | cons c cs =>
      rw [List.all_cons, Bool.and_eq_true, Bool.not_eq_true'] at h
      rw [asciiLower_cons, takeWord, takeWord, apply_toLower (caseBlind_sameLetter h.1)]
      split
      · rw [ih h.2, Option.map_map, Option.map_map]
        rfl
      · rfl

theorem isEdge_toLower (before after : Option Char) :
    isEdge (before.map Char.toLower) (after.map Char.toLower) = isEdge before after := by
  rw [isEdge, isEdge, any_toLower caseBlind_isWord, any_toLower caseBlind_isWord]

/-- A pattern takes from the text in lower case what it takes from the text, in lower case. -/
theorem take?_asciiLower (hp : p.caseBlind) (before : Option Char) (s : List Char) :
    p.take? (before.map Char.toLower) (asciiLower s) = (p.take? before s).map Taken.lower := by
  induction p generalizing before s with
  | word letters => exact takeWord_asciiLower hp
  | one within =>
    cases s with
    | nil => rfl
    | cons c cs =>
      simp only [asciiLower_cons, take?, apply_toLower hp]
      split
      · rfl
      · rfl
  | run within =>
    simp only [take?, takeWhile_asciiLower hp, dropWhile_asciiLower hp]
    rfl
  | edge =>
    simp only [take?, head?_asciiLower, isEdge_toLower]
    split
    · rfl
    · rfl
  | both p q ihp ihq =>
    rw [caseBlind, Bool.and_eq_true] at hp
    simp only [take?, ihp hp.1]
    cases ht : p.take? before s with
    | none => rfl
    | some t =>
      have hbefore : (t.lower.text.getLast?.or (before.map Char.toLower)) =
          (t.text.getLast?.or before).map Char.toLower := by
        rw [Taken.lower, getLast?_asciiLower, Option.map_or]
      have hrest : t.lower.rest = asciiLower t.rest := rfl
      simp only [Option.map_some, hbefore, hrest, ihq hp.2]
      cases hu : q.take? (t.text.getLast?.or before) t.rest with
      | none => rfl
      | some u => simp [Taken.lower]
  | either p q ihp ihq =>
    rw [caseBlind, Bool.and_eq_true] at hp
    simp only [take?, ihp hp.1, ihq hp.2]
    cases p.take? before s with
    | none => rfl
    | some t => rfl
  | maybe p ih =>
    simp only [take?, ih hp]
    cases p.take? before s with
    | none => rfl
    | some t => rfl
  | group p ih =>
    simp only [take?, ih hp, Option.map_map]
    rfl

theorem find?_asciiLower (hp : p.caseBlind) (before : Option Char) (s : List Char) :
    p.find? (before.map Char.toLower) (asciiLower s) = (p.find? before s).map Found.lower := by
  induction s generalizing before with
  | nil =>
    have htake := take?_asciiLower hp before []
    simp only [asciiLower_nil] at htake
    simp only [asciiLower_nil, find?, htake, Option.map_map]
    rfl
  | cons c cs ih =>
    have htake := take?_asciiLower hp before (c :: cs)
    have hrest := ih (some c)
    simp only [asciiLower_cons, Option.map_some] at htake hrest
    simp only [asciiLower_cons, find?, htake, hrest]
    cases p.take? before (c :: cs) with
    | some t => rfl
    | none =>
      simp only [Option.map_none, Option.map_map]
      rfl

/-- What stands last before what was left, in lower case. -/
theorem getLast?_found (f : Found) (before : Option Char) :
    (f.lower.before ++ f.lower.taken.text).getLast?.or (before.map Char.toLower) =
      ((f.before ++ f.taken.text).getLast?.or before).map Char.toLower := by
  have happend : f.lower.before ++ f.lower.taken.text = asciiLower (f.before ++ f.taken.text) :=
    (asciiLower_append _ _).symm
  rw [happend, getLast?_asciiLower, Option.map_or]

theorem findAll_asciiLower (hp : p.caseBlind) (before : Option Char) (s : List Char) :
    p.findAll (before.map Char.toLower) (asciiLower s) = (p.findAll before s).map asciiLower := by
  fun_induction findAll p before s with
  | case1 before s hnone =>
    rw [findAll, find?_asciiLower hp, hnone]
    rfl
  | case2 before s f hf groups hshorter ih =>
    have hrest : f.lower.taken.rest = asciiLower f.taken.rest := rfl
    rw [findAll, find?_asciiLower hp, hf]
    simp only [Option.map_some, getLast?_found, hrest, length_asciiLower, hshorter, if_true, ih,
      List.map_append]
    rfl
  | case3 before s f hf groups hlonger =>
    have hrest : f.lower.taken.rest = asciiLower f.taken.rest := rfl
    rw [findAll, find?_asciiLower hp, hf]
    simp only [Option.map_some, hrest, length_asciiLower, hlonger, if_false]
    rfl

theorem erase_asciiLower (hp : p.caseBlind) (before : Option Char) (s : List Char) :
    p.erase (before.map Char.toLower) (asciiLower s) = asciiLower (p.erase before s) := by
  fun_induction erase p before s with
  | case1 before s hnone =>
    rw [erase, find?_asciiLower hp, hnone]
    rfl
  | case2 before s f hf hshorter ih =>
    have hrest : f.lower.taken.rest = asciiLower f.taken.rest := rfl
    rw [erase, find?_asciiLower hp, hf]
    simp only [Option.map_some, getLast?_found, hrest, length_asciiLower, hshorter, if_true, ih,
      asciiLower_append]
    rfl
  | case3 before s f hf hlonger =>
    have hrest : f.lower.taken.rest = asciiLower f.taken.rest := rfl
    rw [erase, find?_asciiLower hp, hf]
    simp only [Option.map_some, hrest, length_asciiLower, hlonger, if_false]

/-! ## Reports without letters -/

/-- Whether a pattern takes no capital letters. -/
def neutral : Pattern → Bool
  | word letters => letters.all fun l => capitals.all (!sameLetter l ·)
  | one p | run p => capitals.all (!p ·)
  | edge => true
  | both p q | either p q => p.neutral && q.neutral
  | maybe p | group p => p.neutral

theorem not_capital_of_takeWord {t : Taken} (hw : (word letters).neutral)
    (h : takeWord letters s = some t) : ∀ c ∈ t.text, c ∉ capitals := by
  induction letters generalizing s t with
  | nil =>
    cases h
    exact List.forall_mem_nil _
  | cons l ls ih =>
    cases s with
    | nil => cases h
    | cons c cs =>
      rw [neutral, List.all_cons, Bool.and_eq_true] at hw
      simp only [takeWord] at h
      split at h
      · rename_i hl
        obtain ⟨u, hu, rfl⟩ := Option.map_eq_some_iff.1 h
        refine List.forall_mem_cons.2 ⟨fun hc => ?_, ih hw.2 hu⟩
        have hnot := List.all_eq_true.1 hw.1 c hc
        rw [hl] at hnot
        cases hnot
      · cases h

theorem not_capital_of_take? {t : Taken} (hp : p.neutral) (h : p.take? before s = some t) :
    ∀ c ∈ t.text, c ∉ capitals := by
  induction p generalizing before s t with
  | word letters => exact not_capital_of_takeWord hp h
  | one within =>
    obtain ⟨c, hc, hwithin⟩ := one_of_takes ⟨before, s, t, h, rfl⟩
    rw [hc]
    intro d hd hcapital
    obtain rfl := List.mem_singleton.1 hd
    have hnot := List.all_eq_true.1 hp d hcapital
    simp [hwithin] at hnot
  | run within =>
    have hall := all_of_takes_run ⟨before, s, t, h, rfl⟩
    intro d hd hcapital
    have hnot := List.all_eq_true.1 hp d hcapital
    simp [hall d hd] at hnot
  | edge =>
    simp only [take?] at h
    split at h
    · cases h
      exact List.forall_mem_nil _
    · cases h
  | both p q ihp ihq =>
    rw [neutral, Bool.and_eq_true] at hp
    obtain ⟨u, v, hu, hv, rfl⟩ := take?_both.1 h
    exact List.forall_mem_append.2 ⟨ihp hp.1 hu, ihq hp.2 hv⟩
  | either p q ihp ihq =>
    rw [neutral, Bool.and_eq_true] at hp
    simp only [take?] at h
    split at h
    · rename_i u hu
      cases h
      exact ihp hp.1 hu
    · exact ihq hp.2 h
  | maybe p ih =>
    simp only [take?] at h
    split at h
    · rename_i u hu
      cases h
      exact ih hp hu
    · cases h
      exact List.forall_mem_nil _
  | group p ih =>
    obtain ⟨u, hu, rfl⟩ := Option.map_eq_some_iff.1 h
    have htext := ih hp hu
    exact htext

/-- Whether a pattern reads both forms of the ASCII letters alike and reports no capitals, so that
letter case makes no difference to what it reports. -/
def steady (p : Pattern) : Bool := p.caseBlind && p.reported.all neutral

theorem caseBlind_of_steady (hp : p.steady) : p.caseBlind := (Bool.and_eq_true _ _ ▸ hp).1

theorem asciiLower_of_mem_groups {t : Taken} {g : List Char} (hp : p.steady)
    (h : p.take? before s = some t) (hg : g ∈ t.groups) : asciiLower g = g := by
  rw [steady, Bool.and_eq_true] at hp
  obtain ⟨-, q, hq, before', s', u, hu, rfl⟩ := takes_of_mem_groups h hg
  exact asciiLower_eq_self (not_capital_of_take? (List.all_eq_true.1 hp.2 q hq) hu)

theorem groups_lower {t : Taken} (hp : p.steady) (h : p.take? before s = some t) :
    t.lower.groups = t.groups :=
  (List.map_congr_left fun _ hg => asciiLower_of_mem_groups hp h hg).trans (List.map_id _)

theorem groups_found_lower {f : Found} (hp : p.steady) (h : p.find? before s = some f) :
    f.lower.taken.groups = f.taken.groups := by
  obtain ⟨b, hb⟩ := take?_of_find? h
  exact groups_lower hp hb

theorem firstGroup?_of_steady (hp : p.steady) :
    p.firstGroup? (asciiLower s) = p.firstGroup? s := by
  have hfind : p.find? none (asciiLower s) = (p.find? none s).map Found.lower :=
    find?_asciiLower (caseBlind_of_steady hp) none s
  rw [firstGroup?, firstGroup?, hfind]
  cases hf : p.find? none s with
  | none => rfl
  | some f => exact congrArg List.head? (groups_found_lower hp hf)

theorem whole?_of_steady (hp : p.steady) : p.whole? (asciiLower s) = p.whole? s := by
  have htake : p.take? none (asciiLower s) = (p.take? none s).map Taken.lower :=
    take?_asciiLower (caseBlind_of_steady hp) none s
  rw [whole?, whole?, htake]
  cases ht : p.take? none s with
  | none => rfl
  | some t =>
    have hgroups := groups_lower hp ht
    obtain ⟨text, groups, rest⟩ := t
    cases rest with
    | nil => exact congrArg some hgroups
    | cons c cs => rfl

end Pattern

end CardRules.Text
