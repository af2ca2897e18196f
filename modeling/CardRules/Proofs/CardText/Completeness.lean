import CardRules.Proofs.CardText.Carrying
import CardRules.Proofs.CardText.Segments

/-!
# Completeness of reading

In an ASCII text without overlong runs of digits hardly anything can go wrong where a segment is
read: every label tells how it comes into play, every zone is known by its word, and every number is
read (`isOk_build`, `isOk_splitCost`, `liftConditions_eq`). What remains is a change of power with a
blank other than a space behind its sign (`Misspaced`), and digits that come together when what
stands between them is taken out of the text (`Segment.Apart`). All other segments that tell of an
effect give an ability, each under its number (`telling_segments_read`).
-/

namespace CardRules

theorem Except.isOk_bind {ε α β : Type} {x : Except ε α} {f : α → Except ε β} (hx : x.isOk)
    (hf : ∀ a, (f a).isOk) : (x >>= f).isOk := by
  cases x with
  | error e => cases hx
  | ok a => exact hf a

theorem Except.isOk_map {ε α β : Type} {x : Except ε α} {f : α → β} : (x.map f).isOk = x.isOk := by
  cases x <;> rfl

theorem Except.exists_of_isOk {ε α : Type} {x : Except ε α} (hx : x.isOk) : ∃ a, x = .ok a := by
  cases x with
  | error e => cases hx
  | ok a => exact ⟨a, rfl⟩

theorem Except.isOk_mapM {ε α β : Type} {f : α → Except ε β} {xs : List α}
    (hf : ∀ x ∈ xs, (f x).isOk) : (xs.mapM f).isOk := by
  induction xs with
  | nil => rfl
  | cons x xs ih =>
    rw [List.mapM_cons]
    refine isOk_bind (hf x List.mem_cons_self) fun y => ?_
    exact isOk_bind (ih fun z hz => hf z (List.mem_cons_of_mem x hz)) fun ys => rfl

namespace CardText

open Text

variable {rules : List Rule} {cardId cardId' text : String} {index : Int}
  {pending : Option Int} {t : Segment} {a : Ability} {segments : List Segment}
  {conds : List Condition} {s body rest : List Char}

/-! ## Rules -/

theorem isOk_maxCost (hs : Short s) : (maxCost s).isOk := isOk_number? rfl hs

theorem isOk_maxPower (hs : Short s) : (maxPower s).isOk := isOk_number? rfl hs

/-- In ASCII the zones of a text are known by their words. -/
theorem isOk_sourceZones (ha : Ascii s) : (sourceZones s).isOk := by
  unfold sourceZones
  rw [Except.isOk_map]
  refine Except.isOk_mapM fun word hword => ?_
  obtain ⟨hin, q, hq, htakes⟩ := Pattern.takes_of_mem_findAll hword
  obtain rfl := List.mem_singleton.1 hq
  have hascii : Ascii word := ha.subset hin.subset
  obtain ⟨p, hp, hword⟩ := Pattern.takes_anyOf htakes
  simp only [List.mem_cons, List.not_mem_nil, or_false] at hp
  unfold zoneOfWord
  rw [lowerChars_eq_map hascii]
  rcases hp with rfl | rfl | rfl <;>
  · rw [map_toLower_of_takes (by decide) hword hascii]
    rfl

theorem isOk_bounds (hs : Short s) : (Targeting.bounds s).isOk := by
  refine Except.isOk_bind (isOk_number? rfl hs) fun upTo => ?_
  cases upTo with
  | some n => rfl
  | none =>
    refine Except.isOk_bind (isOk_number? rfl hs) fun exact => ?_
    cases exact <;> rfl

theorem isOk_targets (hs : Short s) (ha : Ascii s) : (targets s).isOk := by
  unfold targets
  rw [Except.isOk_map]
  refine Except.isOk_bind (isOk_bounds hs) fun bounds => ?_
  refine Except.isOk_bind (isOk_sourceZones ha) fun zones => ?_
  refine Except.isOk_bind (isOk_maxCost hs) fun cost => ?_
  exact Except.isOk_bind (isOk_maxPower hs) fun power => rfl

theorem isOk_searchDepth (hs : Short s) : (searchDepth s).isOk := by
  refine Except.isOk_bind (isOk_number? rfl hs) fun top => ?_
  split
  · rfl
  · exact Except.isOk_bind (isOk_number? rfl hs) fun cards => rfl

theorem isOk_searchCriteria (hs : Short s) : (searchCriteria s).isOk := by
  refine Except.isOk_bind (isOk_maxCost hs) fun cost => ?_
  exact Except.isOk_bind (isOk_maxPower hs) fun power => rfl

/-! ### Changes of power -/

/-- The first change of power in the text has a blank behind its sign that is not a space. Spaces
are taken out before the number is read, other blanks are not. -/
def Misspaced (s : List Char) : Prop :=
  ∃ g, signedPower.firstGroup? s = some g ∧ ∃ c ∈ g, isBlank c ∧ c ≠ ' '

theorem isOk_integer_signed {sign : Char} {z : List Char} (hsign : sign = '+' ∨ sign = '-') :
    (integer (sign :: z)).isOk = match readDigits z with
      | .error _ => false
      | .ok (_, rest) => rest.all isMargin := by
  have hread : (integer (sign :: z)).isOk = (readInteger (sign :: z)).isOk := by
    unfold integer
    cases readInteger (sign :: z) <;> rfl
  rw [hread]
  rcases hsign with rfl | rfl <;>
  · unfold readInteger
    change Except.isOk (match readDigits z with
      | .error e => .error e
      | .ok (n, rest) => if rest.all isMargin then _ else _) = _
    cases readDigits z with
    | error e => rfl
    | ok found =>
      dsimp only
      cases found.2.all isMargin <;> rfl

theorem readDigits_blank {c : Char} {z : List Char} (hc : isBlank c) :
    readDigits (c :: z) = .error .malformed := by
  have hdigit : isDigit c = false := by
    rw [Bool.eq_false_iff]
    intro h
    rw [not_isBlank_of_isDigit h] at hc
    cases hc
  have hline : c ≠ '_' := by
    rintro rfl
    cases hc
  have hrun : (c :: z).takeWhile (fun c => isDigit c || c == '_') = [] := by simp [hdigit, hline]
  unfold readDigits
  rw [hrun]
  rfl

/-- A sign as it is read: the minus sign proper stands for a hyphen. -/
def asciiSign (c : Char) : Char := if c == '−' then '-' else c

theorem powerChange_eq : powerChange s = match signedPower.firstGroup? s with
    | none => .ok none
    | some g => (integer ((g.map asciiSign).filter (· != ' '))).map some := rfl

/-- A change of power as it is written. -/
structure Signed (sign : Char) (blanks digits : List Char) : Prop where
  sign_eq : sign = '+' ∨ sign = '-' ∨ sign = '−'
  blank : ∀ c ∈ blanks, isBlank c
  digit : ∀ c ∈ digits, isDigit c
  digits_ne : digits ≠ []

theorem signed_of_firstGroup? {g : List Char} (h : signedPower.firstGroup? s = some g) :
    g <:+: s ∧ ∃ sign blanks digits, g = sign :: (blanks ++ digits) ∧
      Signed sign blanks digits := by
  obtain ⟨hin, q, hq, htakes⟩ := Pattern.takes_of_firstGroup? h
  obtain rfl := List.mem_singleton.1 hq
  obtain ⟨y, digits, rfl, hy, htakes⟩ := Pattern.takes_both htakes
  obtain ⟨hwritten, hdigits⟩ := Pattern.digits_of_takes htakes
  obtain ⟨x, blanks, rfl, hx, hrun⟩ := Pattern.takes_both hy
  obtain ⟨sign, rfl, hsign⟩ := Pattern.one_of_takes hx
  have hsign : sign = '+' ∨ sign = '-' ∨ sign = '−' := by
    simpa [Bool.or_eq_true, or_assoc] using hsign
  exact ⟨hin, sign, blanks, digits, by simp,
    hsign, Pattern.all_of_takes_run hrun, hdigits, hwritten⟩

namespace Signed

variable {sign : Char} {blanks digits : List Char}

theorem asciiSign_eq (h : Signed sign blanks digits) :
    asciiSign sign = '+' ∨ asciiSign sign = '-' := by
  rcases h.sign_eq with rfl | rfl | rfl <;> decide

/-- What is read of it: its sign, the blanks that are no spaces, and the digits. -/
theorem clean (h : Signed sign blanks digits) :
    ((sign :: (blanks ++ digits)).map asciiSign).filter (· != ' ') =
      asciiSign sign :: (blanks.filter (· != ' ') ++ digits) := by
  have hkeep : ∀ c ∈ blanks ++ digits, asciiSign c = c := by
    intro c hc
    have hne : c ≠ '−' := by
      rintro rfl
      rcases List.mem_append.1 hc with hc | hc
      · exact absurd (h.blank _ hc) (by decide)
      · exact absurd (h.digit _ hc) (by decide)
    simp [asciiSign, hne]
  have hspace : ∀ c ∈ digits, (c != ' ') = true := fun c hc => by
    simpa using ne_of_isDigit (d := ' ') (h.digit c hc) rfl
  have hfirst : (asciiSign sign != ' ') = true := by
    rcases h.asciiSign_eq with hsign | hsign <;> rw [hsign] <;> decide
  rw [List.map_cons, List.map_congr_left hkeep, List.map_id',
    List.filter_cons_of_pos (p := (· != ' ')) hfirst, List.filter_append,
    List.filter_eq_self.2 hspace]

/-- Blanks stand between its sign and its digits and nowhere else. -/
theorem exists_blank_iff (h : Signed sign blanks digits) :
    (∃ c ∈ sign :: (blanks ++ digits), isBlank c ∧ c ≠ ' ') ↔
      blanks.filter (· != ' ') ≠ [] := by
  have hsign : isBlank sign = false := by rcases h.sign_eq with rfl | rfl | rfl <;> decide
  rw [Ne, List.filter_eq_nil_iff]
  constructor
  · rintro ⟨c, hc, hblank, hspace⟩ hall
    rcases List.mem_cons.1 hc with rfl | hc
    · rw [hsign] at hblank
      cases hblank
    · rcases List.mem_append.1 hc with hc | hc
      · exact hall c hc (by simpa using hspace)
      · rw [not_isBlank_of_isDigit (h.digit c hc)] at hblank
        cases hblank
  · intro hall
    by_contra hnone
    refine hall fun c hc hspace => hnone ?_
    exact ⟨c, by simp [hc], h.blank c hc, by simpa using hspace⟩

end Signed

theorem isOk_powerChange (hs : Short s) : (powerChange s).isOk ↔ ¬Misspaced s := by
  rw [powerChange_eq, Misspaced]
  cases hg : signedPower.firstGroup? s with
  | none => simp [Except.isOk, Except.toBool]
  | some g =>
    obtain ⟨hin, sign, blanks, digits, rfl, h⟩ := signed_of_firstGroup? hg
    simp only [Option.some.injEq, exists_eq_left', h.exists_blank_iff, not_not]
    rw [Except.isOk_map, h.clean, isOk_integer_signed h.asciiSign_eq]
    cases hother : blanks.filter (· != ' ') with
    | nil =>
      have hsuffix : digits <:+ sign :: (blanks ++ digits) :=
        List.suffix_append (sign :: blanks) digits
      have hlength := hs digits (hsuffix.isInfix.trans hin) h.digit
      rw [List.nil_append, readDigits_digits h.digits_ne h.digit, if_neg (Nat.not_lt.2 hlength)]
      exact iff_of_true rfl rfl
    | cons c z =>
      have hc : c ∈ blanks := List.mem_of_mem_filter (hother ▸ List.mem_cons_self)
      rw [List.cons_append, readDigits_blank (h.blank c hc)]
      exact iff_of_false Bool.false_ne_true (List.cons_ne_nil c z)

/-- All rules but the one for changes of power read every such text. -/
theorem isOk_build {r : Rule} (hr : r ∈ Rule.standard) (hname : r.name ≠ "power_modification")
    (hs : Short s) (ha : Ascii s) : (r.build s).isOk := by
  have htargets := isOk_targets hs ha
  have hcost := isOk_maxCost hs
  have hpower := isOk_maxPower hs
  simp only [Rule.standard, List.mem_cons, List.not_mem_nil, or_false] at hr
  rcases hr with rfl | rfl | rfl | rfl | rfl | rfl | rfl | rfl | rfl | rfl | rfl | rfl | rfl
  · exact absurd rfl hname
  · exact Except.isOk_bind hpower fun _ => Except.isOk_bind hcost fun _ =>
      Except.isOk_bind htargets fun _ => rfl
  · exact Except.isOk_bind hcost fun _ => Except.isOk_bind htargets fun _ => rfl
  · exact Except.isOk_bind hcost fun _ => Except.isOk_bind hpower fun _ =>
      Except.isOk_bind htargets fun _ => rfl
  · exact Except.isOk_bind (isOk_searchDepth hs) fun _ =>
      Except.isOk_bind (isOk_number? rfl hs) fun _ =>
        Except.isOk_bind (isOk_searchCriteria hs) fun _ => rfl
  · exact Except.isOk_bind (isOk_number? rfl hs) fun _ => rfl
  · exact Except.isOk_bind (isOk_number? rfl hs) fun _ => rfl
  · exact Except.isOk_bind (isOk_number? rfl hs) fun _ => Except.isOk_bind htargets fun _ => rfl
  · exact Except.isOk_bind htargets fun _ => rfl
  · exact Except.isOk_bind htargets fun _ => rfl
  · exact Except.isOk_bind (isOk_number? rfl hs) fun _ => Except.isOk_bind htargets fun _ => rfl
  · exact Except.isOk_bind (isOk_number? rfl hs) fun _ => rfl
  · exact Except.isOk_bind htargets fun _ => rfl

/-- The rule for changes of power is the one that applies to a text. -/
def ChangesPower (s : List Char) : Prop :=
  ∃ r, Rule.standard.find? (·.applies (lowerChars s)) = some r ∧ r.name = "power_modification"

theorem isOk_readPowerModification (hs : Short s) (ha : Ascii s) :
    (readPowerModification s).isOk ↔ ¬Misspaced s := by
  rw [← isOk_powerChange hs]
  unfold readPowerModification
  cases powerChange s with
  | error f => exact Iff.rfl
  | ok change =>
    refine iff_of_true (Except.isOk_bind (x := .ok change) rfl fun _ => ?_) rfl
    exact Except.isOk_bind (isOk_targets hs ha) fun _ => rfl

theorem isOk_classify (hs : Short s) (ha : Ascii s) :
    (classify Rule.standard s).isOk ↔ ¬(ChangesPower s ∧ Misspaced s) := by
  unfold classify ChangesPower
  dsimp only
  cases hr : Rule.standard.find? (·.applies (lowerChars s)) with
  | none => simp [Except.isOk, Except.toBool]
  | some r =>
    dsimp only
    rw [Except.isOk_map]
    have hmem := List.mem_of_find?_eq_some hr
    by_cases hname : r.name = "power_modification"
    · have hpower : r.build = readPowerModification := by
        simp only [Rule.standard, List.mem_cons, List.not_mem_nil, or_false] at hmem
        rcases hmem with rfl | rfl | rfl | rfl | rfl | rfl | rfl | rfl | rfl | rfl | rfl | rfl | rfl
        case inl => rfl
        all_goals exact absurd hname (by decide)
      rw [hpower, isOk_readPowerModification hs ha]
      exact not_congr ⟨fun h => ⟨⟨r, rfl, hname⟩, h⟩, fun h => h.2⟩
    · refine iff_of_true (isOk_build hmem hname hs ha) ?_
      rintro ⟨⟨r', hr', hname'⟩, -⟩
      cases hr'
      exact hname hname'

/-! ## Costs and conditions -/

theorem isOk_splitCost (hs : Short s) : (splitCost s).isOk := by
  unfold splitCost
  dsimp only
  split
  · rfl
  · split
    · rfl
    · rw [Except.isOk_map]
      have hhead : Short (s.takeWhile (· != ':')) :=
        hs.infix (List.takeWhile_prefix _).isInfix
      have hnamed : ∀ clauses : List (Pattern × CostKind),
          (∀ clause ∈ clauses, ReportsNumbers clause.1) →
          (namedCosts (s.takeWhile (· != ':')) clauses).isOk := by
        intro clauses hclauses
        induction clauses with
        | nil => rfl
        | cons clause clauses ih =>
          have hfirst := hclauses clause List.mem_cons_self
          refine Except.isOk_bind (isOk_number? hfirst hhead) fun _ => ?_
          exact Except.isOk_bind (ih fun c hc => hclauses c (List.mem_cons_of_mem clause hc))
            fun _ => rfl
      refine Except.isOk_bind (hnamed costClauses costClauses_report) fun named => ?_
      dsimp only
      split <;> rfl

/-- A text without the clauses of a list, lifted off one after the other. -/
def lifted (clauses : List ConditionClause) (s : List Char) : List Char :=
  clauses.foldl (fun s c => c.lift s) s

/-- If no runs of digits are joined to an overlong one, all clauses are lifted off. -/
theorem liftConditions_eq {clauses : List ConditionClause}
    (hc : ∀ c ∈ clauses, ReportsNumbers c.pattern ∧ c.pattern.alwaysReports)
    (hs : ∀ k, Short (lifted (clauses.take k) s)) :
    ∃ conds, liftConditions clauses s = .ok (conds, lifted clauses s) := by
  induction clauses generalizing s with
  | nil => exact ⟨[], rfl⟩
  | cons c clauses ih =>
    obtain ⟨hnumbers, halways⟩ := hc c List.mem_cons_self
    obtain ⟨more, hmore⟩ := ih (s := c.lift s) (fun d hd => hc d (List.mem_cons_of_mem c hd))
      fun k => hs (k + 1)
    rw [liftConditions]
    unfold ConditionClause.lift at hmore
    cases hf : c.pattern.find? none s with
    | none =>
      rw [hf] at hmore
      refine ⟨more, hmore.trans ?_⟩
      simp [lifted, ConditionClause.lift, hf]
    | some f =>
      rw [hf] at hmore
      obtain ⟨b, hb⟩ := Pattern.take?_of_find? hf
      have hgroups := Pattern.groups_ne_nil halways hb
      have hmem : f.taken.groups.headD [] ∈ f.taken.groups := by
        cases hg : f.taken.groups with
        | nil => exact absurd hg hgroups
        | cons g gs => exact List.mem_cons_self
      obtain ⟨hin, q, hq, htakes⟩ := Pattern.takes_of_mem_found hf hmem
      rw [hnumbers] at hq
      obtain rfl := List.mem_singleton.1 hq
      obtain ⟨n, hn⟩ := Except.exists_of_isOk (isOk_integer htakes (hs 0) hin)
      refine ⟨.compare (.text c.quantity) c.comparison (.int n) :: more, ?_⟩
      dsimp only at hmore ⊢
      rw [hn]
      change (liftConditions clauses (trim (f.before ++ f.taken.rest)) >>= fun x => _) = _
      rw [hmore]
      simp [lifted, ConditionClause.lift, hf]

theorem conditionClauses_report :
    ∀ c ∈ conditionClauses, ReportsNumbers c.pattern ∧ c.pattern.alwaysReports := by
  simp only [conditionClauses, List.forall_mem_cons, List.not_mem_nil, false_implies, implies_true,
    and_true]
  exact ⟨⟨rfl, rfl⟩, ⟨rfl, rfl⟩, ⟨rfl, rfl⟩, ⟨rfl, rfl⟩, rfl, rfl⟩

/-! ## Segments -/

namespace Segment

/-- Whether the segment tells of an effect: its label is no keyword, and there is text behind it. -/
def telling (t : Segment) : Bool := !Label.isKeyword t.label && !t.unlimited.isEmpty

/-- The text behind the cost. -/
def costless (t : Segment) : List Char :=
  match splitCost t.unlimited with
  | .ok (_, body) => body
  | .error _ => t.unlimited

/-- What is left of the text when its cost and its conditions are taken off. -/
def deed (t : Segment) : List Char := lifted conditionClauses t.costless

/-- Taking out the limits on the number of uses and lifting clauses off brings no runs of digits
together to one that is too long. -/
structure Apart (t : Segment) : Prop where
  unlimited : Short t.unlimited
  lifted : ∀ k, Short (lifted (conditionClauses.take k) t.costless)

/-- What the text does is a change of power whose number is not written in one piece. -/
def Garbled (t : Segment) : Prop := ChangesPower t.deed ∧ Misspaced t.deed

end Segment

theorem loneDon?_of_telling (ht : t.telling) : loneDon? t = none := by
  simp only [Segment.telling, Bool.and_eq_true, Bool.not_eq_true'] at ht
  rw [loneDon?, ht.2]
  rfl

/-- Reading a telling segment comes to its kind and parameters in the end. -/
theorem isOk_readSegment_eq (ht : t.telling) (htiming : (Label.timing t.label).isOk)
    (hdon : ∀ digits, t.donDigits? = some digits → (integer digits).isOk) {cost : Option Cost}
    (hcost : splitCost t.unlimited = .ok (cost, body))
    (hconds : splitConditions body = .ok (conds, rest)) :
    (readSegment rules cardId index pending t).isOk = (classify rules rest).isOk := by
  simp only [Segment.telling, Bool.and_eq_true, Bool.not_eq_true'] at ht
  obtain ⟨timing, htiming⟩ := Except.exists_of_isOk htiming
  unfold readSegment
  rw [ht.1, ht.2, htiming, hcost]
  simp only [Bool.false_eq_true, ↓reduceIte]
  cases hdigits : t.donDigits? with
  | none =>
    change (splitConditions body >>= fun _ => _).isOk = _
    rw [hconds]
    change (classify rules rest >>= fun _ => pure _).isOk = _
    cases classify rules rest <;> rfl
  | some digits =>
    obtain ⟨n, hn⟩ := Except.exists_of_isOk (hdon digits hdigits)
    change ((integer digits).map some >>= fun _ => _).isOk = _
    rw [hn]
    change (splitConditions body >>= fun _ => _).isOk = _
    rw [hconds]
    change (classify rules rest >>= fun _ => pure _).isOk = _
    cases classify rules rest <;> rfl

/-! ### What is left of a text -/

theorem erase_sublist {p : Pattern} {before : Option Char} :
    (p.erase before s).Sublist s := by
  fun_induction Pattern.erase p before s with
  | case1 before s hnone => exact List.Sublist.refl s
  | case2 before s f hf hshorter ih =>
    have hkept : f.before.Sublist (f.before ++ f.taken.text) := List.sublist_append_left _ _
    have hall := hkept.append ih
    rwa [Pattern.find?_append hf] at hall
  | case3 before s f hf hlong => exact List.Sublist.refl s

theorem lift_sublist (c : ConditionClause) (s : List Char) : (c.lift s).Sublist s := by
  unfold ConditionClause.lift
  split
  · exact List.Sublist.refl s
  · rename_i f hf
    have hkept : f.before.Sublist (f.before ++ f.taken.text) := List.sublist_append_left _ _
    refine (trim_sublist _).trans ?_
    rw [← Pattern.find?_append hf]
    exact hkept.append (List.Sublist.refl _)

theorem lifted_sublist (clauses : List ConditionClause) (s : List Char) :
    (lifted clauses s).Sublist s := by
  induction clauses generalizing s with
  | nil => exact List.Sublist.refl s
  | cons c clauses ih => exact (ih (c.lift s)).trans (lift_sublist c s)

theorem costless_sublist (t : Segment) : t.costless.Sublist t.unlimited := by
  unfold Segment.costless
  split
  · rename_i cost body hcost
    obtain ⟨-, rfl⟩ | ⟨-, -, rest, hcolon, rfl⟩ := splitCost_cases hcost
    · exact List.Sublist.refl _
    · have hdropped := List.dropWhile_sublist (l := t.unlimited) (· != ':')
      rw [hcolon] at hdropped
      exact (trim_sublist rest).trans ((List.sublist_cons_self ':' rest).trans hdropped)
  · exact List.Sublist.refl _

theorem deed_sublist (t : Segment) : t.deed.Sublist t.body :=
  ((lifted_sublist _ _).trans (costless_sublist t)).trans ((trim_sublist _).trans erase_sublist)

theorem takes_of_donDigits? {digits : List Char} (h : t.donDigits? = some digits) :
    digits <:+: t.label ∧ (Pattern.run1 isDigit).Takes digits := by
  obtain ⟨groups, hgroups, hhead⟩ := Option.bind_eq_some_iff.1 h
  unfold Pattern.whole? at hgroups
  split at hgroups
  · rename_i taken groups' htake
    cases hgroups
    obtain ⟨hin, q, hq, htakes⟩ := Pattern.takes_of_mem_groups htake (List.mem_of_head? hhead)
    obtain rfl := List.mem_singleton.1 hq
    exact ⟨hin, htakes⟩
  · cases hgroups

/-- A telling segment of an ASCII text is left out only if it is garbled, unless taking clauses out
brings digits together. -/
theorem skipped_iff_garbled (h : t ∈ Segment.ofText s) (ha : Ascii s) (hs : Short s)
    (ht : t.telling) (hapart : t.Apart) : t.skipped Rule.standard ↔ t.Garbled := by
  obtain ⟨hlabel, hin, hbody⟩ := of_mem_ofText h
  have htiming := isOk_timing hlabel (ha.subset hin.subset)
  have hdon : ∀ digits, t.donDigits? = some digits → (integer digits).isOk := by
    intro digits hdigits
    obtain ⟨hdigits, htakes⟩ := takes_of_donDigits? hdigits
    exact isOk_integer htakes hs (hdigits.trans hin)
  have hspaced : Ascii (' ' :: s) := List.forall_mem_cons.2 ⟨by decide, ha⟩
  have hascii : Ascii t.deed := hspaced.subset fun c hc => hbody ((deed_sublist t).subset hc)
  obtain ⟨⟨cost, body⟩, hcost⟩ := Except.exists_of_isOk (isOk_splitCost hapart.unlimited)
  have hcostless : t.costless = body := by rw [Segment.costless, hcost]
  obtain ⟨conds, hconds⟩ := liftConditions_eq conditionClauses_report hapart.lifted
  rw [hcostless] at hconds
  have hdeed : t.deed = lifted conditionClauses body := by rw [Segment.deed, hcostless]
  have hshort : Short t.deed := hapart.lifted conditionClauses.length
  have hread : (readSegment Rule.standard "" 0 none t).isOk =
      (classify Rule.standard t.deed).isOk :=
    hdeed ▸ isOk_readSegment_eq ht htiming hdon hcost hconds
  rw [Segment.skipped, loneDon?_of_telling ht]
  dsimp only
  rw [hread, Bool.not_eq_true', ← Bool.not_eq_true, isOk_classify hshort hascii, not_not]
  rfl

/-! ## The numbers of the abilities -/

theorem telling_of_readSegment (h : readSegment rules cardId index pending t = .ok (some a)) :
    t.telling := by
  unfold readSegment at h
  split at h
  · cases h
  · rename_i hlabel
    split at h
    · cases h
    · rename_i hunlimited
      simp [Segment.telling, hlabel, hunlimited]

theorem exists_of_isOk_readSegment (ht : t.telling)
    (h : (readSegment rules cardId index pending t).isOk) :
    ∃ a, readSegment rules cardId index pending t = .ok (some a) := by
  simp only [Segment.telling, Bool.and_eq_true, Bool.not_eq_true'] at ht
  obtain ⟨found, hfound⟩ := Except.exists_of_isOk h
  cases found with
  | some a => exact ⟨a, hfound⟩
  | none =>
    unfold readSegment at hfound
    rw [ht.1, ht.2] at hfound
    simp only [Bool.false_eq_true, ↓reduceIte] at hfound
    obtain ⟨timing, -, hfound⟩ := ok_of_bind hfound
    split at hfound <;>
    · obtain ⟨required, -, hfound⟩ := ok_of_bind hfound
      obtain ⟨cost, -, hfound⟩ := ok_of_bind hfound
      obtain ⟨conditions, -, hfound⟩ := ok_of_bind hfound
      obtain ⟨reading, -, hfound⟩ := ok_of_bind hfound
      cases hfound

theorem skipped_of_telling (cardId : String) (index : Int) (pending : Option Int)
    (ht : t.telling) :
    t.skipped rules = !(readSegment rules cardId index pending t).isOk := by
  rw [Segment.skipped, loneDon?_of_telling ht]
  exact congrArg (!·) isOk_readSegment

theorem map_id_readOne : (readOne rules cardId index pending t).toList.map (·.id) =
    if t.telling && !t.skipped rules then [cardId ++ "-effect-" ++ toString index] else [] := by
  cases hone : readOne rules cardId index pending t with
  | some a =>
    obtain ⟨-, hread⟩ := readOne_eq_some_iff.1 hone
    have ht := telling_of_readSegment hread
    have hskipped : t.skipped rules = false := by
      rw [skipped_of_telling cardId index pending ht, hread]
      rfl
    rw [ht, hskipped]
    obtain ⟨timing, trigger, required, cost, body, conds, rest, name, kind, parameters, -, -, -, -,
      rfl⟩ := readSegment_eq hread
    rfl
  | none =>
    rw [if_neg]
    · rfl
    · rw [Bool.and_eq_true, Bool.not_eq_true']
      rintro ⟨ht, hskipped⟩
      rw [skipped_of_telling cardId index pending ht, Bool.not_eq_false'] at hskipped
      obtain ⟨a, hread⟩ := exists_of_isOk_readSegment ht hskipped
      rw [readOne_eq_some_iff.2 ⟨loneDon?_of_telling ht, hread⟩] at hone
      cases hone

theorem map_id_readSegments {index : Nat} :
    (readSegments rules cardId index pending segments).map (·.id) =
      ((segments.zipIdx index).filter fun (t, _) => t.telling && !t.skipped rules).map
        fun (_, i) => cardId ++ "-effect-" ++ toString i := by
  induction segments generalizing index pending with
  | nil => rfl
  | cons t rest ih =>
    rw [readSegments_cons, List.map_append, map_id_readOne, ih, List.zipIdx_cons, List.filter_cons]
    by_cases h : (t.telling && !t.skipped rules) = true
    · rw [if_pos h, if_pos h]
      rfl
    · rw [if_neg h, if_neg h]
      rfl

theorem length_readSegments {index : Nat} :
    (readSegments rules cardId index pending segments).length =
      (segments.filter fun t => t.telling && !t.skipped rules).length := by
  have hids : ((readSegments rules cardId index pending segments).map (·.id)).length = _ :=
    congrArg List.length map_id_readSegments
  rw [List.length_map, List.length_map] at hids
  have hfirst := List.filter_map (p := fun t : Segment => t.telling && !t.skipped rules)
    (f := Prod.fst) (l := segments.zipIdx index)
  rw [List.zipIdx_map_fst] at hfirst
  rw [hids, hfirst, List.length_map]
  rfl

/-- The telling segments of an ASCII text without overlong runs of digits are read one after the
other, each under its number, but for those that are left out. Where no digits are brought
together, left out are those whose change of power is not written in one piece, and no others; if
there are none of these either, each telling segment gives one ability. -/
theorem telling_segments_read (cardId text : String) (ha : Ascii text.toList)
    (hs : Short text.toList) :
    (abilities Rule.standard cardId text).map (·.id) =
      ((Segment.ofText text.toList).zipIdx.filter fun (t, _) =>
        t.telling && !t.skipped Rule.standard).map
          (fun (_, i) => cardId ++ "-effect-" ++ toString i) ∧
    (∀ t ∈ Segment.ofText text.toList, t.telling → t.Apart →
      (t.skipped Rule.standard ↔ t.Garbled)) ∧
    ((∀ t ∈ Segment.ofText text.toList, t.telling → t.Apart ∧ ¬t.Garbled) →
      (abilities Rule.standard cardId text).length =
        ((Segment.ofText text.toList).filter (·.telling)).length) := by
  have hexact : ∀ t ∈ Segment.ofText text.toList, t.telling → t.Apart →
      (t.skipped Rule.standard ↔ t.Garbled) := fun t h => skipped_iff_garbled h ha hs
  refine ⟨map_id_readSegments, hexact, fun hfine => ?_⟩
  rw [abilities, length_readSegments]
  refine congrArg List.length (List.filter_congr fun t h => ?_)
  cases ht : t.telling with
  | false => rfl
  | true =>
    obtain ⟨hapart, hgarbled⟩ := hfine t h ht
    have hskipped : t.skipped Rule.standard = false :=
      Bool.eq_false_iff.2 fun h' => hgarbled ((hexact t h ht hapart).1 h')
    rw [hskipped]
    rfl

theorem short_of_length {s : List Char} (h : s.length ≤ digitLimit) : Short s :=
  fun _ hw _ => hw.length_le.trans h

/-- A keyword, and a segment that tells of an effect. -/
def rush : Segment := { label := "[Rush]".toList, body := [] }

def onPlay : Segment := { label := "[On Play]".toList, body := "Give +1000 power.".toList }

/-- The same with a tab in the number. -/
def tabbed : Segment := { label := "[On Play]".toList, body := "Give +\t1000 power.".toList }

theorem telling_segments_read_onPlay :
    (abilities Rule.standard "X" "[Rush] [On Play] Give +1000 power.").length = 1 := by
  have hsegments : Segment.ofText "[Rush] [On Play] Give +1000 power.".toList = [rush, onPlay] := by
    cbv
  have hrush : rush.telling = false := by cbv
  have hwhole : onPlay.unlimited = onPlay.body := by cbv
  have htelling : onPlay.telling = true := by
    rw [Segment.telling, hwhole]
    rfl
  have hcostless : onPlay.costless = onPlay.body := by
    rw [Segment.costless, hwhole]
    rfl
  have happart : onPlay.Apart := by
    refine ⟨short_of_length (by rw [hwhole]; decide), fun k => ?_⟩
    refine short_of_length ((lifted_sublist _ _).length_le.trans ?_)
    rw [hcostless]
    decide
  have hclean : ¬onPlay.Garbled := by
    rintro ⟨-, g, hg, c, hc, hblank, -⟩
    have hdeed : onPlay.deed = onPlay.body := by
      rw [Segment.deed, hcostless]
      rfl
    have hsigned : signedPower.firstGroup? onPlay.body = some "+1000".toList := rfl
    rw [hdeed, hsigned] at hg
    cases hg
    have hink : "+1000".toList.all (fun c => !isBlank c) := rfl
    have hnot := List.all_eq_true.1 hink c hc
    rw [hblank] at hnot
    cases hnot
  have hfine : ∀ t ∈ Segment.ofText "[Rush] [On Play] Give +1000 power.".toList, t.telling →
      t.Apart ∧ ¬t.Garbled := by
    rw [hsegments]
    intro t ht htold
    simp only [List.mem_cons, List.not_mem_nil, or_false] at ht
    rcases ht with rfl | rfl
    · rw [hrush] at htold
      cases htold
    · exact ⟨happart, hclean⟩
  have hcount := (telling_segments_read "X" "[Rush] [On Play] Give +1000 power."
    (ascii_of_all (by decide)) (short_of_length (by decide))).2.2 hfine
  rw [hcount, hsegments, List.filter_cons_of_neg (by simp [hrush]),
    List.filter_cons_of_pos (by simp [htelling])]
  rfl

/-- The number of a change of power is not read where a tab parts it from its sign. -/
theorem telling_segment_lost : ¬∀ (cardId text : String), Ascii text.toList → Short text.toList →
    (abilities Rule.standard cardId text).length =
      ((Segment.ofText text.toList).filter (·.telling)).length := by
  intro hclaim
  have hsegments : Segment.ofText "[On Play] Give +\t1000 power.".toList = [tabbed] := by cbv
  have hwhole : tabbed.unlimited = tabbed.body := by cbv
  have htelling : tabbed.telling = true := by
    rw [Segment.telling, hwhole]
    rfl
  have hskipped : tabbed.skipped Rule.standard = true := by
    rw [Segment.skipped, loneDon?_of_telling htelling]
    dsimp only
    rw [readSegment, hwhole]
    rfl
  have hcount := hclaim "X" "[On Play] Give +\t1000 power." (ascii_of_all (by decide))
    (short_of_length (by decide))
  rw [abilities, length_readSegments, hsegments] at hcount
  simp [htelling, hskipped] at hcount

end CardText

end CardRules
