import CardRules.CardData.Lenience
import CardRules.Proofs.CardData.Written
import CardRules.Proofs.CardText.Carrying
import CardRules.Proofs.Text.Number

/-!
# Printed abilities as card data

An ability that is read off a card text could as well be given as a record of card data: it keeps
to the rules for such records, and reading the record that writes it out gives it back
(`printed_abilities_recordable`). Numbers in texts have no sign, so no count is negative; the
conditions of a text are comparisons, put together at most once; a cost of several parts is made
only of parts that there are.
-/

namespace CardRules

namespace CardText

open Text

variable {s body : List Char} {p : Pattern} {ps qs : Parameters} {cost : Cost}
  {kind : AbilityKind} {cardId text : String} {a : Ability}

/-! ## Labels -/

/-- Automatic abilities have a trigger, and no others. -/
theorem isSome_trigger_iff {timing : Timing} {trigger : Option Trigger}
    (h : Label.timing s = .ok (timing, trigger)) : trigger.isSome ↔ timing = .auto := by
  unfold Label.timing at h
  dsimp only at h
  split at h
  · cases h
    decide
  · split at h
    · cases h
      decide
    · split at h
      · cases h
        simp
      · cases h

/-! ## Conditions -/

theorem recordable_compare {quantity : String} {op : Comparison} {n : Int} {room : Nat} :
    (Condition.compare (.text quantity) op (.int n)).Recordable (room + 1) := by
  refine ⟨⟨⟨rfl, rfl, rfl⟩, ?_, ?_, ⟨none, rfl⟩, rfl⟩, nofun⟩
  · rintro o ⟨⟩
    trivial
  · rintro o ⟨⟩
    trivial

/-- A comparison of a quantity of the game with a number. -/
def Counts (c : Condition) : Prop :=
  ∃ quantity op n, c = .compare (.text quantity) op (.int n)

theorem recordable_combined {room : Nat} (hroom : 2 ≤ room) {conds : List Condition}
    (h : ∀ c ∈ conds, Counts c) : ∀ c ∈ combined conds, c.Recordable room := by
  obtain ⟨room, rfl⟩ := Nat.exists_eq_add_of_le' hroom
  have heach : ∀ {room}, ∀ c ∈ conds, c.Recordable (room + 1) := by
    intro room c hc
    obtain ⟨quantity, op, n, rfl⟩ := h c hc
    exact recordable_compare
  intro c hc
  match conds, hc with
  | [d], rfl => exact heach d (List.mem_singleton_self d)
  | d :: e :: more, rfl =>
    exact ⟨⟨nofun, nofun, nofun, ⟨none, rfl⟩, rfl⟩, heach⟩

/-! ## Costs -/

/-- A cost of one part. -/
structure Single (c : Cost) : Prop where
  amount : 0 ≤ c.amount
  kind : c.kind ≠ .composite
  parts : c.parts = []

theorem Single.recordable (h : Single cost) {room : Nat} : cost.Recordable (room + 1) := by
  refine ⟨h.amount, fun hk => absurd hk h.kind, fun d hd => ?_⟩
  rw [h.parts] at hd
  cases hd

theorem single_of_namedCosts {clauses : List (Pattern × CostKind)} {costs : List Cost}
    (hn : ∀ clause ∈ clauses, ReportsNumbers clause.1)
    (hk : ∀ clause ∈ clauses, clause.2 ≠ .composite) (h : namedCosts s clauses = .ok costs) :
    ∀ c ∈ costs, Single c := by
  induction clauses generalizing costs with
  | nil =>
    cases h
    nofun
  | cons clause clauses ih =>
    obtain ⟨amount, hamount, h⟩ := ok_of_bind h
    obtain ⟨more, hmore, h⟩ := ok_of_bind h
    cases h
    obtain ⟨hnumber, hnumbers⟩ := List.forall_mem_cons.1 hn
    obtain ⟨hkind, hkinds⟩ := List.forall_mem_cons.1 hk
    intro c hc
    rcases List.mem_append.1 hc with hc | hc
    · obtain ⟨n, rfl, rfl⟩ := Option.map_eq_some_iff.1 (Option.mem_toList.1 hc)
      exact ⟨number?_nonneg hnumber hamount, hkind, rfl⟩
    · exact ih hnumbers hkinds hmore c hc

theorem recordable_cost {room : Nat} (hroom : 2 ≤ room) {found : Option Cost}
    (h : CardText.cost s = .ok found) : ∀ c ∈ found, c.Recordable room := by
  obtain ⟨room, rfl⟩ := Nat.exists_eq_add_of_le' hroom
  obtain ⟨named, hnamed, h⟩ := ok_of_bind h
  dsimp only at h
  have hsingle : ∀ c ∈ (if circledSum s = 0 then [] else [Cost.restDon (circledSum s)]) ++ named,
      Single c := by
    intro c hc
    rcases List.mem_append.1 hc with hc | hc
    · split at hc
      · cases hc
      · obtain rfl := List.mem_singleton.1 hc
        exact ⟨Int.natCast_nonneg _, nofun, rfl⟩
    · exact single_of_namedCosts costClauses_report (by decide) hnamed c hc
  revert h hsingle
  generalize (if circledSum s = 0 then [] else [Cost.restDon (circledSum s)]) ++ named = costs
  intro h hsingle c hc
  match costs, h with
  | [], h =>
    cases h
    cases hc
  | [d], h =>
    cases h
    cases hc
    exact (hsingle c (List.mem_singleton_self c)).recordable
  | d :: e :: more, h =>
    cases h
    cases hc
    exact ⟨Int.le_refl 0, nofun, fun d hd => (hsingle d hd).recordable⟩

theorem recordable_splitCost {room : Nat} (hroom : 2 ≤ room) {found : Option Cost}
    {rest : List Char} (h : splitCost body = .ok (found, rest)) :
    ∀ c ∈ found, c.Recordable room := by
  obtain ⟨rfl, -⟩ | ⟨-, hcost, -⟩ := splitCost_cases h
  · nofun
  · exact recordable_cost hroom hcost

/-! ## Parameters -/

/-- Parameters that card data can give, with the least number of targets below the greatest. -/
structure Sound (ps : Parameters) : Prop where
  recordable : ps.Recordable
  ordered : ∀ least ∈ ps.minTargets, ∀ most ∈ ps.maxTargets, least ≤ most

/-- The parameters that say what is aimed at. -/
def aim (ps : Parameters) : Option Int × Option Int × Option Int × Option TargetFilter :=
  (ps.targetCount, ps.minTargets, ps.maxTargets, ps.targetFilter)

theorem Sound.of_aim (h : Sound ps) (haim : aim qs = aim ps) (hn : ∀ n ∈ qs.cardCount, 0 ≤ n) :
    Sound qs := by
  obtain ⟨htargets, hleast, hmost, hfilter⟩ : qs.targetCount = ps.targetCount ∧
      qs.minTargets = ps.minTargets ∧ qs.maxTargets = ps.maxTargets ∧
      qs.targetFilter = ps.targetFilter := by simpa [aim] using haim
  refine ⟨⟨hn, ?_, ?_, ?_, ?_⟩, ?_⟩
  · exact htargets ▸ h.recordable.targetCount
  · exact hleast ▸ h.recordable.minTargets
  · exact hmost ▸ h.recordable.maxTargets
  · exact hfilter ▸ h.recordable.targetFilter
  · exact hleast ▸ hmost ▸ h.ordered

theorem sound_blank : Sound {} := by
  refine ⟨⟨nofun, nofun, nofun, nofun, ?_⟩, nofun⟩
  rintro f ⟨⟩

theorem getD_nonneg {n : Option Int} (hp : ReportsNumbers p) (h : number? p s = .ok n) :
    0 ≤ n.getD 1 := by
  cases n with
  | none => decide
  | some n => exact number?_nonneg hp h

theorem mem_sides_of_controller {w : String} (h : Targeting.controller s = some w) :
    w ∈ CardData.sides := by
  unfold Targeting.controller at h
  split at h
  · cases h
    decide
  · split at h
    · cases h
      decide
    · cases h

theorem bounds_ordered {count least most : Int}
    (h : Targeting.bounds body = .ok (count, least, most)) :
    0 ≤ count ∧ 0 ≤ least ∧ least ≤ most := by
  obtain ⟨upTo, hup, h⟩ := ok_of_bind h
  cases upTo with
  | some n =>
    cases h
    have hn := number?_nonneg (by rfl) hup
    exact ⟨hn, Int.le_refl 0, hn⟩
  | none =>
    obtain ⟨exactly, hexact, h⟩ := ok_of_bind h
    cases exactly with
    | some n =>
      cases h
      have hn := number?_nonneg (by rfl) hexact
      exact ⟨hn, hn, Int.le_refl _⟩
    | none =>
      cases h
      decide

theorem sound_targets (h : targets body = .ok ps) : Sound ps ∧ ps.cardCount = none := by
  obtain ⟨t, ht, rfl⟩ := ok_of_map h
  obtain ⟨⟨count, least, most⟩, hbounds, ht⟩ := ok_of_bind ht
  obtain ⟨zones, -, ht⟩ := ok_of_bind ht
  obtain ⟨cost, -, ht⟩ := ok_of_bind ht
  obtain ⟨power, -, ht⟩ := ok_of_bind ht
  cases ht
  obtain ⟨hcount, hleast, hmost⟩ := bounds_ordered hbounds
  refine ⟨⟨⟨nofun, ?_, ?_, ?_, ?_⟩, ?_⟩, rfl⟩
  · rintro n ⟨⟩
    exact hcount
  · rintro n ⟨⟩
    exact hleast
  · rintro n ⟨⟩
    exact hleast.trans hmost
  · rintro f ⟨⟩
    exact ⟨fun w hw => mem_sides_of_controller hw, rfl⟩
  · rintro n ⟨⟩ m ⟨⟩
    exact hmost

/-- Whatever else a text says, its targets are sound. -/
theorem sound_of_targets {k : AbilityKind} {more : Parameters → Parameters}
    (h : (targets body >>= fun qs => pure (k, more qs)) = .ok (kind, ps))
    (hmore : ∀ qs, aim (more qs) = aim qs ∧ (more qs).cardCount = qs.cardCount) : Sound ps := by
  obtain ⟨qs, hqs, h⟩ := ok_of_bind h
  cases h
  obtain ⟨hsound, hnone⟩ := sound_targets hqs
  refine hsound.of_aim (hmore qs).1 ?_
  rw [(hmore qs).2, hnone]
  rintro n ⟨⟩

theorem sound_counted {n : Int} (hn : 0 ≤ n) : Sound { cardCount := some n } := by
  refine sound_blank.of_aim rfl ?_
  rintro m ⟨⟩
  exact hn

theorem sound_readDraw (h : readDraw body = .ok (kind, ps)) : Sound ps := by
  obtain ⟨n, hn, h⟩ := ok_of_bind h
  cases h
  exact sound_counted (getD_nonneg (by rfl) hn)

theorem sound_readDiscard (h : readDiscard body = .ok (kind, ps)) : Sound ps := by
  obtain ⟨n, hn, h⟩ := ok_of_bind h
  cases h
  exact sound_counted (getD_nonneg (by rfl) hn)

theorem searchDepth_nonneg {n : Int} (h : searchDepth body = .ok n) : 0 ≤ n := by
  obtain ⟨top, htop, h⟩ := ok_of_bind h
  split at h
  · cases h
    exact getD_nonneg (by rfl) htop
  · obtain ⟨cards, hcards, h⟩ := ok_of_bind h
    cases h
    split
    · exact getD_nonneg (by rfl) hcards
    · decide

theorem sound_readSearch (h : readSearch body = .ok (kind, ps)) : Sound ps := by
  obtain ⟨depth, hdepth, h⟩ := ok_of_bind h
  obtain ⟨pick, hpick, h⟩ := ok_of_bind h
  obtain ⟨criteria, -, h⟩ := ok_of_bind h
  cases h
  have hpicked : 0 ≤ pick.getD 1 := getD_nonneg (by rfl) hpick
  refine ⟨⟨?_, nofun, ?_, ?_, ?_⟩, ?_⟩
  · rintro n ⟨⟩
    exact searchDepth_nonneg hdepth
  · rintro n ⟨⟩
    exact Int.le_refl 0
  · rintro n ⟨⟩
    exact hpicked
  · rintro f ⟨⟩
  · rintro n ⟨⟩ m ⟨⟩
    exact hpicked

theorem sound_readTrash (h : readTrash body = .ok (kind, ps)) : Sound ps := by
  obtain ⟨n, hn, h⟩ := ok_of_bind h
  obtain ⟨qs, hqs, h⟩ := ok_of_bind h
  cases h
  refine (sound_targets hqs).1.of_aim rfl ?_
  rintro m ⟨⟩
  exact getD_nonneg (by rfl) hn

/-- Every rule of the table gives sound parameters. -/
theorem sound_of_rule {r : Rule} (hr : r ∈ Rule.standard) (h : r.build body = .ok (kind, ps)) :
    Sound ps := by
  simp only [Rule.standard, List.mem_cons, List.not_mem_nil, or_false] at hr
  rcases hr with rfl | rfl | rfl | rfl | rfl | rfl | rfl | rfl | rfl | rfl | rfl | rfl | rfl
  · obtain ⟨change, -, h⟩ := ok_of_bind h
    exact sound_of_targets h fun _ => ⟨rfl, rfl⟩
  · obtain ⟨power, -, h⟩ := ok_of_bind h
    obtain ⟨cost, -, h⟩ := ok_of_bind h
    exact sound_of_targets h fun _ => ⟨rfl, rfl⟩
  · obtain ⟨cost, -, h⟩ := ok_of_bind h
    exact sound_of_targets h fun _ => ⟨rfl, rfl⟩
  · obtain ⟨cost, -, h⟩ := ok_of_bind h
    obtain ⟨power, -, h⟩ := ok_of_bind h
    exact sound_of_targets h fun _ => ⟨rfl, rfl⟩
  · exact sound_readSearch h
  · exact sound_readDraw h
  · exact sound_readDiscard h
  · exact sound_readTrash h
  · exact sound_of_targets h fun _ => ⟨rfl, rfl⟩
  · exact sound_of_targets h fun _ => ⟨rfl, rfl⟩
  · obtain ⟨n, -, h⟩ := ok_of_bind h
    exact sound_of_targets h fun _ => ⟨rfl, rfl⟩
  · obtain ⟨n, -, h⟩ := ok_of_bind h
    cases h
    refine sound_blank.of_aim rfl ?_
    rintro n ⟨⟩
  · exact sound_of_targets h fun _ => ⟨rfl, rfl⟩

theorem sound_classify {name : Option String}
    (h : classify Rule.standard body = .ok (name, kind, ps)) : Sound ps := by
  rcases rule_of_classify h with ⟨r, hr, hbuild⟩ | ⟨-, rfl⟩
  · exact sound_of_rule hr hbuild
  · exact sound_blank

/-! ## Abilities -/

/-- An ability of a card text keeps to the rules of card data, as soon as these allow trees of two
levels. -/
theorem recordable_of_mem {room : Nat} (hroom : 2 ≤ room)
    (h : a ∈ abilities Rule.standard cardId text) :
    a.Recordable room ∧ (a.trigger.isSome ↔ a.timing = .auto) ∧ Sound a.parameters ∧
      a.sourceId = cardId := by
  obtain ⟨index, pendingDon, t, -, hread⟩ := exists_segment h
  obtain ⟨timing, trigger, required, cost, body, conds, rest, name, kind, parameters, htiming,
    hcost, hconds, hreading, rfl⟩ := readSegment_eq hread
  have htrigger := isSome_trigger_iff htiming
  have hsound := sound_classify hreading
  have hcounts : ∀ c ∈ (required.map hasDon).toList ++ conds, Counts c := by
    intro c hc
    rcases List.mem_append.1 hc with hc | hc
    · obtain ⟨n, -, rfl⟩ := Option.map_eq_some_iff.1 (Option.mem_toList.1 hc)
      exact ⟨"source.don", .gte, n, rfl⟩
    · obtain ⟨clause, -, n, rfl⟩ := clause_of_mem_lifted hconds hc
      exact ⟨clause.quantity, clause.comparison, n, rfl⟩
  refine ⟨?_, htrigger, hsound, rfl⟩
  exact {
    id := by simp [String.append_eq_empty_iff]
    trigger := htrigger.1
    condition := recordable_combined hroom hcounts
    cost := recordable_splitCost hroom hcost
    parameters := hsound.recordable
    usedThisTurn := rfl
    mark := rfl }

/-- An ability that is read off a card text keeps to all rules for the abilities that card data
list; it has a trigger if it is automatic, and no more targets at the least than at the most; and
the record that writes it out is accepted and gives the same ability again. -/
theorem printed_abilities_recordable (lax : CardData.Lenience) (cardId text : String) {a : Ability}
    (h : a ∈ abilities Rule.standard cardId text) :
    a.Recordable lax.deepest ∧ (a.timing = .auto → a.trigger.isSome) ∧
      (∀ least ∈ a.parameters.minTargets, ∀ most ∈ a.parameters.maxTargets, least ≤ most) ∧
      (CardData.ability lax (CardData.written a)).map (CardData.ofCard cardId) = .valid a := by
  obtain ⟨hrecordable, htrigger, hsound, rfl⟩ := recordable_of_mem lax.two_le_deepest h
  exact ⟨hrecordable, htrigger.2, hsound.ordered, CardData.ability_written hrecordable⟩

/-- A segment with a cost and a condition. -/
def priced : Segment where
  label := "[On Play]".toList
  body := "Rest 1 DON!!: If you have 2 or less life cards, draw 2 cards.".toList

theorem printed_abilities_recordable_priced :
    ∃ a ∈ abilities Rule.standard "X"
        "[On Play] Rest 1 DON!!: If you have 2 or less life cards, draw 2 cards.",
      a.cost.isSome ∧ a.condition.isSome ∧ a.Recordable CardData.Lenience.standard.deepest ∧
        (CardData.ability .standard (CardData.written a)).map (CardData.ofCard "X") =
          .valid a := by
  have hsegments : Segment.ofText
      "[On Play] Rest 1 DON!!: If you have 2 or less life cards, draw 2 cards.".toList =
        [priced] := by
    cbv
  have hwhole : priced.unlimited = priced.body := by cbv
  have hspoken : loneDon? priced = none := by rw [loneDon?, hwhole]; rfl
  have hread : ∃ a, readSegment Rule.standard "X" 0 none priced = .ok (some a) ∧
      a.cost.isSome ∧ a.condition.isSome := by
    refine ⟨?ability, ?read, ?cost, ?condition⟩
    case read =>
      rw [readSegment, hwhole]
      rfl
    case cost => rfl
    case condition => rfl
  obtain ⟨a, hread, hcost, hcondition⟩ := hread
  have hmem : a ∈ abilities Rule.standard "X"
      "[On Play] Rest 1 DON!!: If you have 2 or less life cards, draw 2 cards." := by
    rw [abilities, hsegments]
    exact mem_readSegments_iff.2 ⟨[], priced, [], rfl, readOne_eq_some_iff.2 ⟨hspoken, hread⟩⟩
  obtain ⟨hrecordable, -, -, hback⟩ := printed_abilities_recordable .standard "X" _ hmem
  exact ⟨a, hmem, hcost, hcondition, hrecordable, hback⟩

end CardText

end CardRules
