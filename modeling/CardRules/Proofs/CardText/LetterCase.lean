import CardRules.CardText.Abilities
import CardRules.Proofs.Text.Ascii
import CardRules.Proofs.Text.LetterCase
import Mathlib.Data.List.Basic

/-!
# Card texts in any letter case

Reading a card text makes no difference between capital and small letters of ASCII: the text in
lower case has the same segments, in lower case (`ofText_asciiLower`), and each says the same. Only
the labels, and the types that a search asks for, are shown as they are written; `Ability.lower`
puts these in lower case.
-/

namespace CardRules

/-- Criteria with their types in lower case. -/
def SearchCriteria.lower (c : SearchCriteria) : SearchCriteria :=
  { c with typeTags := c.typeTags.map Text.lower }

/-- Parameters with the types that they look for in lower case. -/
def Parameters.lower (ps : Parameters) : Parameters :=
  { ps with searchCriteria := ps.searchCriteria.map SearchCriteria.lower }

/-- An ability with its label and the types that it looks for in lower case. -/
def Ability.lower (a : Ability) : Ability :=
  { a with label := Text.lower a.label, parameters := a.parameters.lower }

namespace CardText

open Text

variable {s body : List Char} {p : Pattern} {rules : List Rule} {t : Segment}

theorem lower_ofList_asciiLower (s : List Char) :
    lower (String.ofList (asciiLower s)) = lower (String.ofList s) := by
  simp [lower]

/-! ## Clauses -/

theorem number?_asciiLower (hp : p.steady) : number? p (asciiLower s) = number? p s := by
  rw [number?, number?, Pattern.firstGroup?_of_steady hp]

theorem findAll_asciiLower (hp : p.caseBlind) :
    p.findAll none (asciiLower s) = (p.findAll none s).map asciiLower :=
  Pattern.findAll_asciiLower hp none s

@[simp] theorem maxCost_asciiLower (s : List Char) : maxCost (asciiLower s) = maxCost s :=
  number?_asciiLower (by decide)

@[simp] theorem maxPower_asciiLower (s : List Char) : maxPower (asciiLower s) = maxPower s :=
  number?_asciiLower (by decide)

@[simp] theorem duration_asciiLower (s : List Char) : duration (asciiLower s) = duration s := by
  simp only [duration, lowerChars_asciiLower]

@[simp] theorem colors_asciiLower (s : List Char) : colors (asciiLower s) = colors s := by
  have hword : colorOfWord? ∘ asciiLower = colorOfWord? := by
    funext word
    simp only [Function.comp_apply, colorOfWord?, lowerChars_asciiLower]
  rw [colors, findAll_asciiLower (by decide), List.filterMap_map, hword, colors]

@[simp] theorem sourceZones_asciiLower (s : List Char) :
    sourceZones (asciiLower s) = sourceZones s := by
  have hword : zoneOfWord ∘ asciiLower = zoneOfWord := by
    funext word
    simp only [Function.comp_apply, zoneOfWord, lowerChars_asciiLower]
  rw [sourceZones, findAll_asciiLower (by decide), List.mapM_map, hword, sourceZones]

@[simp] theorem bounds_asciiLower (s : List Char) :
    Targeting.bounds (asciiLower s) = Targeting.bounds s := by
  simp only [Targeting.bounds]
  rw [number?_asciiLower (by decide), number?_asciiLower (by decide)]

@[simp] theorem targets_asciiLower (s : List Char) : targets (asciiLower s) = targets s := by
  simp only [targets, Targeting.ofText, bounds_asciiLower, sourceZones_asciiLower,
    maxCost_asciiLower, maxPower_asciiLower, colors_asciiLower, lowerChars_asciiLower]

/-- The types of a search are those of the text, in lower case. -/
theorem searchCriteria_asciiLower (s : List Char) :
    (searchCriteria (asciiLower s)).map SearchCriteria.lower =
      (searchCriteria s).map SearchCriteria.lower := by
  have htags : (((typeTag.findAll none (asciiLower s)).map fun t => String.ofList (trim t)).map
      lower) = ((typeTag.findAll none s).map fun t => String.ofList (trim t)).map lower := by
    rw [findAll_asciiLower (by decide), List.map_map, List.map_map, List.map_map]
    refine List.map_congr_left fun t _ => ?_
    simp only [Function.comp_apply, trim_asciiLower, lower_ofList_asciiLower]
  simp only [searchCriteria, maxCost_asciiLower, maxPower_asciiLower, colors_asciiLower,
    lowerChars_asciiLower]
  cases maxCost s with
  | error e => rfl
  | ok cost =>
    cases maxPower s with
    | error e => rfl
    | ok power =>
      exact congrArg (fun tags => Except.ok (SearchCriteria.mk _ _ _ _ tags _ _ _)) htags

/-! ## Rules -/

@[simp] theorem powerChange_asciiLower (s : List Char) :
    powerChange (asciiLower s) = powerChange s := by
  rw [powerChange, powerChange, Pattern.firstGroup?_of_steady (by decide)]

@[simp] theorem searchDepth_asciiLower (s : List Char) :
    searchDepth (asciiLower s) = searchDepth s := by
  simp only [searchDepth]
  rw [number?_asciiLower (by decide), number?_asciiLower (by decide)]

/-- A reading with the types that it looks for in lower case. -/
def Reading.lower (reading : Reading) : Reading := (reading.1, reading.2.lower)

/-- The rule reads the same from any case of the ASCII letters, but for the types in a search. -/
def Rule.ReadsAlike (r : Rule) : Prop := ∀ body,
  (r.build (asciiLower body)).map Reading.lower = (r.build body).map Reading.lower

theorem readSearch_asciiLower (body : List Char) :
    (readSearch (asciiLower body)).map Reading.lower = (readSearch body).map Reading.lower := by
  have hcriteria := searchCriteria_asciiLower body
  simp only [readSearch, searchDepth_asciiLower]
  rw [number?_asciiLower (by decide)]
  generalize searchCriteria (asciiLower body) = found at hcriteria ⊢
  cases searchDepth body with
  | error e => rfl
  | ok depth =>
    generalize number? _ body = pick
    cases pick with
    | error e => rfl
    | ok pick =>
      -- what is found goes into the parameters as it is
      have hread : ∀ found : Except Fault SearchCriteria,
          (found >>= fun criteria => pure (AbilityKind.searchDeck,
            ({ cardCount := some depth, searchCriteria := some criteria, minTargets := some 0,
               maxTargets := some (pick.getD 1) } : Parameters))).map Reading.lower =
            (found.map SearchCriteria.lower).map fun criteria => (AbilityKind.searchDeck,
              ({ cardCount := some depth, searchCriteria := some criteria, minTargets := some 0,
                 maxTargets := some (pick.getD 1) } : Parameters)) := by
        intro found
        cases found <;> rfl
      exact (hread found).trans ((congrArg _ hcriteria).trans (hread _).symm)

/-- Each rule of the table reads letters of either case alike. -/
theorem readsAlike_of_mem {r : Rule} (hr : r ∈ Rule.standard) : r.ReadsAlike := by
  intro body
  simp only [Rule.standard, List.mem_cons, List.not_mem_nil, or_false] at hr
  rcases hr with rfl | rfl | rfl | rfl | rfl | rfl | rfl | rfl | rfl | rfl | rfl | rfl | rfl
  · simp only [readPowerModification, powerChange_asciiLower, targets_asciiLower,
      duration_asciiLower]
  · simp only [readKo, maxPower_asciiLower, maxCost_asciiLower, targets_asciiLower]
  · simp only [readBounce, maxCost_asciiLower, targets_asciiLower]
  · simp only [readBanish, maxPower_asciiLower, maxCost_asciiLower, targets_asciiLower]
  · exact readSearch_asciiLower body
  · simp only [readDraw]
    rw [number?_asciiLower (by decide)]
  · simp only [readDiscard]
    rw [number?_asciiLower (by decide)]
  · simp only [readTrash, targets_asciiLower]
    rw [number?_asciiLower (by decide)]
  · simp only [readRest, targets_asciiLower]
  · simp only [readActivate, targets_asciiLower]
  · simp only [readAttachDon, targets_asciiLower]
    rw [number?_asciiLower (by decide)]
  · simp only [readDamage]
    rw [number?_asciiLower (by decide)]
  · simp only [readKeywordGrant, targets_asciiLower, duration_asciiLower, lowerChars_asciiLower]

theorem classify_asciiLower (hr : ∀ r ∈ rules, r.ReadsAlike) (body : List Char) :
    (classify rules (asciiLower body)).map (Prod.map id Reading.lower) =
      (classify rules body).map (Prod.map id Reading.lower) := by
  simp only [classify, lowerChars_asciiLower]
  cases hfind : rules.find? (·.applies (lowerChars body)) with
  | none => rfl
  | some r =>
    have hread := hr r (List.mem_of_find?_eq_some hfind) body
    have hnamed : ∀ x : Except Fault Reading,
        (x.map fun reading => (some r.name, reading)).map (Prod.map id Reading.lower) =
          (x.map Reading.lower).map fun reading => (some r.name, reading) := by
      intro x
      cases x <;> rfl
    exact (hnamed _).trans ((congrArg _ hread).trans (hnamed _).symm)

/-! ## Costs and conditions -/

theorem circledSum_asciiLower (s : List Char) : circledSum (asciiLower s) = circledSum s := by
  have hblind : ∀ digit ∈ circledDigits, caseBlind (digit.1 == ·) := by decide
  refine List.foldr_ext _ _ _ fun ⟨c, n⟩ hdigit sum => ?_
  have hcontains : (asciiLower s).contains c = s.contains c := by
    rw [List.contains_eq_any_beq, List.contains_eq_any_beq, asciiLower, List.any_map,
      comp_toLower (hblind (c, n) hdigit)]
  simp only [hcontains]

theorem namedCosts_asciiLower {clauses : List (Pattern × CostKind)}
    (hc : ∀ clause ∈ clauses, clause.1.steady) :
    namedCosts (asciiLower s) clauses = namedCosts s clauses := by
  induction clauses with
  | nil => rfl
  | cons clause rest ih =>
    obtain ⟨hfirst, hrest⟩ := List.forall_mem_cons.1 hc
    rw [namedCosts, namedCosts, number?_asciiLower hfirst, ih hrest]

theorem cost_asciiLower (s : List Char) : cost (asciiLower s) = cost s := by
  have hnamed : namedCosts (asciiLower s) costClauses = namedCosts s costClauses :=
    namedCosts_asciiLower (by decide)
  rw [cost, cost, hnamed, circledSum_asciiLower]

theorem splitCost_asciiLower (body : List Char) :
    splitCost (asciiLower body) = (splitCost body).map (Prod.map id asciiLower) := by
  have hcolon : caseBlind (· != ':') := by decide
  unfold splitCost
  rw [takeWhile_asciiLower hcolon, dropWhile_asciiLower hcolon]
  cases body.dropWhile (· != ':') with
  | nil => rfl
  | cons c rest =>
    simp only [asciiLower_cons, length_asciiLower, cost_asciiLower, trim_asciiLower]
    split
    · rfl
    · cases cost (body.takeWhile (· != ':')) with
      | error e => rfl
      | ok found =>
        cases found with
        | none => rfl
        | some c => rfl

theorem liftConditions_asciiLower {clauses : List ConditionClause}
    (hc : ∀ clause ∈ clauses, clause.pattern.steady) (body : List Char) :
    liftConditions clauses (asciiLower body) =
      (liftConditions clauses body).map (Prod.map id asciiLower) := by
  induction clauses generalizing body with
  | nil => rfl
  | cons clause rest ih =>
    obtain ⟨hfirst, hrest⟩ := List.forall_mem_cons.1 hc
    have hfind : clause.pattern.find? none (asciiLower body) =
        (clause.pattern.find? none body).map Pattern.Found.lower :=
      Pattern.find?_asciiLower (Pattern.caseBlind_of_steady hfirst) none body
    rw [liftConditions, liftConditions, hfind]
    cases hf : clause.pattern.find? none body with
    | none => exact ih hrest body
    | some f =>
      have hgroups := Pattern.groups_found_lower hfirst hf
      have hlifted : trim (f.lower.before ++ f.lower.taken.rest) =
          asciiLower (trim (f.before ++ f.taken.rest)) := by
        rw [← trim_asciiLower, asciiLower_append]
        rfl
      simp only [Option.map_some, hgroups, hlifted, ih hrest]
      cases integer (f.taken.groups.headD []) with
      | error e => rfl
      | ok n => cases liftConditions rest (trim (f.before ++ f.taken.rest)) <;> rfl

theorem splitConditions_asciiLower (body : List Char) :
    splitConditions (asciiLower body) =
      (splitConditions body).map (Prod.map id asciiLower) :=
  liftConditions_asciiLower (by decide) body

/-! ## Segments -/

/-- A segment in lower case. -/
def Segment.lower (t : Segment) : Segment := ⟨asciiLower t.label, asciiLower t.body⟩

@[simp] theorem words_asciiLower (label : List Char) :
    Label.words (asciiLower label) = Label.words label := by
  have hbracket : caseBlind fun c => c == '[' || c == ']' := by decide
  rw [Label.words, dropEnds_asciiLower hbracket, trim_asciiLower, lowerChars_asciiLower,
    Label.words]

@[simp] theorem isKeyword_asciiLower (label : List Char) :
    Label.isKeyword (asciiLower label) = Label.isKeyword label := by
  rw [Label.isKeyword, Label.isKeyword, words_asciiLower]

/-- A label means the same, or it is unknown either way. -/
theorem timing_asciiLower (label : List Char) :
    (Label.timing (asciiLower label)).toOption = (Label.timing label).toOption := by
  simp only [Label.timing, words_asciiLower]
  split
  · rfl
  · split
    · rfl
    · split
      · rfl
      · rfl

theorem lastInk?_asciiLower (s : List Char) :
    Segment.lastInk? (asciiLower s) = (Segment.lastInk? s).map Char.toLower := by
  rw [Segment.lastInk?, dropEnd_asciiLower caseBlind_isBlank, getLast?_asciiLower,
    Segment.lastInk?]

theorem cutsAfter_asciiLower (last : Option Char) (label : List Char) :
    Segment.cutsAfter (last.map Char.toLower) (asciiLower label) =
      Segment.cutsAfter last label := by
  have hmark : caseBlind fun c => c == '.' || c == ']' || c == ')' := by decide
  cases last with
  | none => simp [Segment.cutsAfter]
  | some c => simp only [Segment.cutsAfter, isKeyword_asciiLower, Option.map_some, Option.all_some,
      apply_toLower hmark]

theorem cut_asciiLower (last : Option Char) (s : List Char) :
    Segment.cut (last.map Char.toLower) (asciiLower s) =
      (asciiLower (Segment.cut last s).1, (Segment.cut last s).2.map Segment.lower) := by
  have hlabel : anyLabel.caseBlind := by decide
  have hfind (s : List Char) : anyLabel.find? none (asciiLower s) =
      (anyLabel.find? none s).map Pattern.Found.lower := Pattern.find?_asciiLower hlabel none s
  fun_induction Segment.cut last s with
  | case1 last s hnone =>
    rw [Segment.cut, hfind, hnone]
    rfl
  | case2 last s f hf text hshorter body more hrest hcuts ih =>
    have htext : f.taken.text = text := rfl
    rw [hrest] at ih
    rw [Segment.cut, hfind, hf]
    simp only [Option.map_some, Pattern.Found.lower, Pattern.Taken.lower, length_asciiLower,
      hshorter, if_true, lastInk?_asciiLower, htext, ih, ← Option.map_or, cutsAfter_asciiLower,
      hcuts]
    rfl
  | case3 last s f hf text hshorter body more hrest hcuts ih =>
    have htext : f.taken.text = text := rfl
    rw [hrest] at ih
    rw [Segment.cut, hfind, hf]
    simp only [Option.map_some, Pattern.Found.lower, Pattern.Taken.lower, length_asciiLower,
      hshorter, if_true, lastInk?_asciiLower, htext, ih, ← Option.map_or, cutsAfter_asciiLower,
      hcuts, asciiLower_append, Bool.false_eq_true, if_false]
  | case4 last s f hf hlonger =>
    rw [Segment.cut, hfind, hf]
    simp only [Option.map_some, Pattern.Found.lower, Pattern.Taken.lower, length_asciiLower,
      hlonger, if_false]
    rfl

theorem ofText_asciiLower (s : List Char) :
    Segment.ofText (asciiLower s) = (Segment.ofText s).map Segment.lower := by
  have hcut := cut_asciiLower none s
  rw [Option.map_none] at hcut
  unfold Segment.ofText
  rw [hcut]
  obtain ⟨lead, segments⟩ := Segment.cut none s
  cases segments with
  | nil => rfl
  | cons first rest =>
    have hrest : (rest.map Segment.lower).map (fun t => { t with body := trim t.body }) =
        (rest.map fun t => { t with body := trim t.body }).map Segment.lower := by
      rw [List.map_map, List.map_map]
      refine List.map_congr_left fun t _ => ?_
      simp only [Function.comp_apply, Segment.lower, trim_asciiLower]
    have hjoined (u v : List Char) : trim (asciiLower u ++ ' ' :: asciiLower v) =
        asciiLower (trim (u ++ ' ' :: v)) := by
      rw [← trim_asciiLower, asciiLower_append]
      rfl
    simp only [List.map_cons, hrest, Segment.lower, trim_asciiLower, isEmpty_asciiLower, hjoined]
    split
    · rfl
    · rfl

theorem donDigits?_lower (t : Segment) : t.lower.donDigits? = t.donDigits? := by
  have hwhole : donLabel.whole? t.lower.label = donLabel.whole? t.label :=
    Pattern.whole?_of_steady (by decide)
  rw [Segment.donDigits?, hwhole, Segment.donDigits?]

theorem unlimited_lower (t : Segment) : t.lower.unlimited = asciiLower t.unlimited := by
  have herase : oncePerTurn.erase none (asciiLower t.body) =
      asciiLower (oncePerTurn.erase none t.body) :=
    Pattern.erase_asciiLower (by decide) none t.body
  rw [Segment.unlimited, Segment.unlimited, ← trim_asciiLower, ← herase]
  rfl

theorem isOncePerTurn_lower (t : Segment) : t.lower.isOncePerTurn = t.isOncePerTurn := by
  have hfind : oncePerTurn.find? none (asciiLower t.body) =
      (oncePerTurn.find? none t.body).map Pattern.Found.lower :=
    Pattern.find?_asciiLower (by decide) none t.body
  have hbody : t.lower.body = asciiLower t.body := rfl
  rw [Segment.isOncePerTurn, hbody, hfind, Option.isSome_map, Segment.isOncePerTurn]

theorem loneDon?_lower (t : Segment) : loneDon? t.lower = loneDon? t := by
  rw [loneDon?, unlimited_lower, isEmpty_asciiLower, donDigits?_lower, loneDon?]

/-! ## Abilities -/

section

variable {α β γ δ : Type} {x y : Except Fault α} {f g : α → Except Fault β} {shown : β → γ}

theorem toOption_map (seen : α → δ) : (x.map seen).toOption = x.toOption.map seen := by
  cases x <;> rfl

/-- Values that look the same go on to what looks the same. -/
theorem toOption_bind_congr (seen : α → δ) (hxy : x.toOption.map seen = y.toOption.map seen)
    (hfg : ∀ a b, seen a = seen b → (f a).toOption.map shown = (g b).toOption.map shown) :
    (x >>= f).toOption.map shown = (y >>= g).toOption.map shown := by
  cases x with
  | error e =>
    cases y with
    | error e' => rfl
    | ok b => cases hxy
  | ok a =>
    cases y with
    | error e' => cases hxy
    | ok b => exact hfg a b (Option.some.inj hxy)

/-- The same values go on to what looks the same. -/
theorem toOption_bind_same (hxy : x.toOption = y.toOption)
    (hfg : ∀ a, (f a).toOption.map shown = (g a).toOption.map shown) :
    (x >>= f).toOption.map shown = (y >>= g).toOption.map shown := by
  refine toOption_bind_congr id (congrArg (Option.map id) hxy) fun a b hab => ?_
  obtain rfl : a = b := hab
  exact hfg a

theorem toOption_map_bind {k : α → α}
    (hfg : ∀ a, (f (k a)).toOption.map shown = (g a).toOption.map shown) :
    (x.map k >>= f).toOption.map shown = (x >>= g).toOption.map shown := by
  cases x with
  | error e => rfl
  | ok a => exact hfg a

end

/-- What one segment says is the same but for the letter case of what is shown as it is written, or
it cannot be read either way. -/
theorem readSegment_lower (hr : ∀ r ∈ rules, r.ReadsAlike) (cardId : String) (index : Int)
    (pending : Option Int) (t : Segment) :
    (readSegment rules cardId index pending t.lower).toOption.map (·.map Ability.lower) =
      (readSegment rules cardId index pending t).toOption.map (·.map Ability.lower) := by
  have hlabel : t.lower.label = asciiLower t.label := rfl
  unfold readSegment
  rw [unlimited_lower, hlabel, isKeyword_asciiLower, isEmpty_asciiLower, donDigits?_lower,
    splitCost_asciiLower, isOncePerTurn_lower]
  split
  · rfl
  split
  · rfl
  refine toOption_bind_same (timing_asciiLower t.label) fun ⟨timing, trigger⟩ => ?_
  dsimp only
  split <;>
  · refine toOption_bind_same rfl fun required => ?_
    refine toOption_map_bind fun ⟨cost, body⟩ => ?_
    simp only [Prod.map_apply, id_eq, splitConditions_asciiLower]
    refine toOption_map_bind fun ⟨conds, rest⟩ => ?_
    have hreading := congrArg Except.toOption (classify_asciiLower hr rest)
    rw [toOption_map, toOption_map] at hreading
    refine toOption_bind_congr _ hreading fun ⟨_, kind, ps⟩ ⟨_, kind', ps'⟩ hsame => ?_
    obtain ⟨-, hsame⟩ := Prod.mk.inj hsame
    obtain ⟨rfl, hps⟩ := Prod.mk.inj hsame
    have hps : ps.lower = ps'.lower := hps
    simp only [pure, Except.pure, Except.toOption, Option.map_some, Ability.lower, Prod.map_apply,
      id_eq, lower_ofList_asciiLower, hps]

theorem readSegments_lower (hr : ∀ r ∈ rules, r.ReadsAlike) (cardId : String) (index : Nat)
    (pending : Option Int) (segments : List Segment) :
    (readSegments rules cardId index pending (segments.map Segment.lower)).map Ability.lower =
      (readSegments rules cardId index pending segments).map Ability.lower := by
  induction segments generalizing index pending with
  | nil => rfl
  | cons t rest ih =>
    have hread := readSegment_lower hr cardId index pending t
    rw [List.map_cons, readSegments, readSegments, loneDon?_lower]
    cases loneDon? t with
    | some digits =>
      dsimp only
      cases integer digits with
      | ok n => exact ih (index + 1) (some n)
      | error e => exact ih (index + 1) pending
    | none =>
      dsimp only
      cases hlower : readSegment rules cardId index pending t.lower with
      | error e =>
        rw [hlower] at hread
        cases hsegment : readSegment rules cardId index pending t with
        | error e' => exact ih (index + 1) pending
        | ok found =>
          rw [hsegment] at hread
          cases hread
      | ok found =>
        rw [hlower] at hread
        cases hsegment : readSegment rules cardId index pending t with
        | error e' =>
          rw [hsegment] at hread
          cases hread
        | ok found' =>
          rw [hsegment] at hread
          have hfound : found.map Ability.lower = found'.map Ability.lower :=
            Option.some.inj hread
          have hlist : found.toList.map Ability.lower = found'.toList.map Ability.lower := by
            rw [← Option.toList_map, ← Option.toList_map, hfound]
          dsimp only
          rw [List.map_append, List.map_append, hlist, ih (index + 1) none]

/-- The text with the letters of ASCII in lower case has the same abilities, apart from the letter
case of what they show. -/
theorem abilities_asciiLower (hr : ∀ r ∈ rules, r.ReadsAlike) (cardId : String) (s : List Char) :
    (abilities rules cardId (String.ofList (asciiLower s))).map Ability.lower =
      (abilities rules cardId (String.ofList s)).map Ability.lower := by
  rw [abilities, abilities, String.toList_ofList, String.toList_ofList, ofText_asciiLower]
  exact readSegments_lower hr cardId 0 none _

/-- Reading ignores letter case: two ASCII texts that are the same in lower case have as many
abilities, and these are the same one by one, but that the labels and the types that a search asks
for are in the letter case of the text. -/
theorem abilities_ignore_case (cardId : String) {s t : String} (hs : Ascii s.toList)
    (ht : Ascii t.toList) (h : lower s = lower t) :
    (abilities Rule.standard cardId s).map Ability.lower =
      (abilities Rule.standard cardId t).map Ability.lower := by
  have hlower : asciiLower s.toList = asciiLower t.toList := by
    have hchars := String.ofList_inj.1 h
    rwa [lowerChars_eq_map hs, lowerChars_eq_map ht] at hchars
  have hboth (u : String) : (abilities Rule.standard cardId u).map Ability.lower =
      (abilities Rule.standard cardId (String.ofList (asciiLower u.toList))).map Ability.lower := by
    rw [abilities_asciiLower (fun _ => readsAlike_of_mem), String.ofList_toList]
  rw [hboth s, hboth t, hlower]

/-- A text with a label and a type. -/
def whispered : String := "[On Play] Look at the top 5 cards of your deck for a \x7bNavy\x7d card."

/-- The same text in capitals. -/
def shouted : String := "[ON PLAY] LOOK AT THE TOP 5 CARDS OF YOUR DECK FOR A \x7bNAVY\x7d CARD."

theorem abilities_ignore_case_shouted :
    Ascii whispered.toList ∧ Ascii shouted.toList ∧ lower whispered = lower shouted ∧
      whispered ≠ shouted ∧ (abilities Rule.standard "X" whispered).map Ability.lower =
        (abilities Rule.standard "X" shouted).map Ability.lower := by
  have hwhispered : Ascii whispered.toList := ascii_of_all (by decide)
  have hshouted : Ascii shouted.toList := ascii_of_all (by decide)
  have hlower : lower whispered = lower shouted := by decide +kernel
  exact ⟨hwhispered, hshouted, hlower, by decide,
    abilities_ignore_case "X" hwhispered hshouted hlower⟩

end CardText

end CardRules
