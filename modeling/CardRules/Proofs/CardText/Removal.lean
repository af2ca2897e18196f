import CardRules.Proofs.CardText.Conditions

/-!
# Printed removals

Card text may tell to K.O., return or remove characters from the game, and which ones: those up
to a cost or a power. The limits are read twice, into the filter that targets are chosen by and
into the parameters of the ability (`Limits`). Only the text that returns characters loses one
of them: its power limit is in the filter alone.
-/

namespace CardRules

/-- The zone that a removal sends characters to. -/
def AbilityKind.removalZone? : AbilityKind → Option Zone
  | .koCharacter => some .trash
  | .bounceCharacter => some .hand
  | .banishCharacter => some .banished
  | _ => none

/-- The ability as it is printed, apart from what is kept of its use. -/
def Ability.printed (a : Ability) : Ability := { a with mark := none, usedThisTurn := false }

namespace CardText

/-- The limits of a removal, in its parameters and in their filter. -/
structure Limits (kind : AbilityKind) (ps : Parameters) (f : TargetFilter) : Prop where
  filter : ps.targetFilter = some f
  cost : f.costRange = ps.maxCost.map .atMost
  power : kind ≠ .bounceCharacter → f.powerRange = ps.maxPower.map .atMost
  unlimited : kind = .bounceCharacter → ps.maxPower = none

variable {rules : List Rule} {cardId text : String} {a : Ability} {body : List Char}
  {kind : AbilityKind} {ps : Parameters} {zone : Zone} {segments : List Segment} {index : Nat}
  {pendingDon : Option Int}

/-- Every ability is read off a segment. -/
theorem exists_segment (h : a ∈ readSegments rules cardId index pendingDon segments) :
    ∃ index pendingDon, ∃ t ∈ segments,
      readSegment rules cardId index pendingDon t = .ok (some a) := by
  induction segments generalizing index pendingDon with
  | nil => cases h
  | cons t rest ih =>
    have hrest : ∀ {index : Nat} {pendingDon : Option Int},
        a ∈ readSegments rules cardId index pendingDon rest → ∃ index pendingDon, ∃ u ∈ t :: rest,
          readSegment rules cardId index pendingDon u = .ok (some a) := by
      intro index pendingDon h
      obtain ⟨index, pendingDon, u, hu, hread⟩ := ih h
      exact ⟨index, pendingDon, u, List.mem_cons_of_mem t hu, hread⟩
    rw [readSegments] at h
    split at h
    · split at h
      · exact hrest h
      · exact hrest h
    · split at h
      · rename_i found hread
        rcases List.mem_append.1 h with h | h
        · rw [Option.mem_toList.1 h] at hread
          exact ⟨index, pendingDon, t, List.mem_cons_self, hread⟩
        · exact hrest h
      · exact hrest h

/-- Nothing is kept of the use of an ability when it is read. -/
theorem printed_of_mem (h : a ∈ abilities rules cardId text) : a.printed = a := by
  obtain ⟨index, pendingDon, t, -, hread⟩ := exists_segment h
  obtain ⟨timing, trigger, required, cost, body, conds, rest, name, kind, parameters, -, -, -, -,
    rfl⟩ := readSegment_eq hread
  rfl

theorem ofText_ranges {t : Targeting} (h : Targeting.ofText body = .ok t) :
    ∃ cost power, maxCost body = .ok cost ∧ maxPower body = .ok power ∧
      t.filter.costRange = cost.map .atMost ∧ t.filter.powerRange = power.map .atMost := by
  obtain ⟨⟨count, least, greatest⟩, -, h⟩ := ok_of_bind h
  obtain ⟨named, -, h⟩ := ok_of_bind h
  obtain ⟨cost, hcost, h⟩ := ok_of_bind h
  obtain ⟨power, hpower, h⟩ := ok_of_bind h
  cases h
  exact ⟨cost, power, hcost, hpower, rfl, rfl⟩

/-- Targets are read with no limit on their power but that of their filter. -/
theorem targets_ranges (h : targets body = .ok ps) :
    ∃ f cost power, ps.targetFilter = some f ∧ maxCost body = .ok cost ∧
      maxPower body = .ok power ∧ f.costRange = cost.map .atMost ∧
      f.powerRange = power.map .atMost ∧ ps.maxPower = none := by
  obtain ⟨t, ht, rfl⟩ := ok_of_map h
  obtain ⟨cost, power, hcost, hpower, hranges⟩ := ofText_ranges ht
  exact ⟨t.filter, cost, power, rfl, hcost, hpower, hranges.1, hranges.2, rfl⟩

/-- Limits that are read off a text are those of the filter that is read off it. -/
theorem limits_of_targets {cost power : Option Int} (hps : targets body = .ok ps)
    (hcost : maxCost body = .ok cost) (hpower : maxPower body = .ok power)
    (hk : kind ≠ .bounceCharacter) :
    ∃ f, Limits kind { ps with maxPower := power, maxCost := cost } f := by
  obtain ⟨f, cost', power', hf, hcost', hpower', hcosts, hpowers, -⟩ := targets_ranges hps
  cases hcost.symm.trans hcost'
  cases hpower.symm.trans hpower'
  exact ⟨f, hf, hcosts, fun _ => hpowers, fun h => absurd h hk⟩

/-- Three rules of the table read removals. -/
theorem read_of_rule {r : Rule} (hr : r ∈ Rule.standard) (h : r.build body = .ok (kind, ps))
    (hz : kind.removalZone? = some zone) :
    readKo body = .ok (kind, ps) ∨ readBounce body = .ok (kind, ps) ∨
      readBanish body = .ok (kind, ps) := by
  simp only [Rule.standard, List.mem_cons, List.not_mem_nil, or_false] at hr
  rcases hr with rfl | rfl | rfl | rfl | hr
  · obtain ⟨change, -, h⟩ := ok_of_bind h
    obtain ⟨targets, -, h⟩ := ok_of_bind h
    cases h
    cases hz
  · exact .inl h
  · exact .inr (.inl h)
  · exact .inr (.inr h)
  · rcases hr with rfl | rfl | rfl | rfl | rfl | rfl | rfl | rfl | rfl <;>
    · repeat obtain ⟨_, -, h⟩ := ok_of_bind h
      cases h
      cases hz

theorem limits_of_read (h : readKo body = .ok (kind, ps) ∨ readBounce body = .ok (kind, ps) ∨
    readBanish body = .ok (kind, ps)) : ∃ f, Limits kind ps f := by
  rcases h with h | h | h
  · obtain ⟨power, hpower, h⟩ := ok_of_bind h
    obtain ⟨cost, hcost, h⟩ := ok_of_bind h
    obtain ⟨qs, hqs, h⟩ := ok_of_bind h
    cases h
    exact limits_of_targets hqs hcost hpower nofun
  · -- the power that the text names is not among the parameters
    obtain ⟨cost, hcost, h⟩ := ok_of_bind h
    obtain ⟨qs, hqs, h⟩ := ok_of_bind h
    cases h
    obtain ⟨f, cost', power, hf, hcost', -, hcosts, -, hunlimited⟩ := targets_ranges hqs
    cases hcost.symm.trans hcost'
    exact ⟨f, hf, hcosts, fun hk => absurd rfl hk, fun _ => hunlimited⟩
  · obtain ⟨cost, hcost, h⟩ := ok_of_bind h
    obtain ⟨power, hpower, h⟩ := ok_of_bind h
    obtain ⟨qs, hqs, h⟩ := ok_of_bind h
    cases h
    exact limits_of_targets hqs hcost hpower nofun

/-- A text is read by one of the rules, or counts as a change of power. -/
theorem rule_of_classify {name : Option String}
    (h : classify rules body = .ok (name, kind, ps)) :
    (∃ r ∈ rules, r.build body = .ok (kind, ps)) ∨ kind = .powerModification ∧ ps = {} := by
  unfold classify at h
  dsimp only at h
  split at h
  · rename_i r hr
    obtain ⟨reading, hbuild, hreading⟩ := ok_of_map h
    cases hreading
    exact .inl ⟨r, List.mem_of_find?_eq_some hr, hbuild⟩
  · cases h
    exact .inr ⟨rfl, rfl⟩

/-- A removal has its limits from its text, however it is read. -/
theorem limits_of_classify {name : Option String}
    (h : classify Rule.standard body = .ok (name, kind, ps)) (hz : kind.removalZone? = some zone) :
    ∃ f, Limits kind ps f := by
  rcases rule_of_classify h with ⟨r, hr, hbuild⟩ | ⟨rfl, -⟩
  · exact limits_of_read (read_of_rule hr hbuild hz)
  · cases hz

/-- A printed removal has its limits, and is carried out by no script. -/
theorem limits_of_mem (h : a ∈ abilities Rule.standard cardId text)
    (hz : a.kind.removalZone? = some zone) :
    a.scriptId = none ∧ ∃ f, Limits a.kind a.parameters f := by
  obtain ⟨index, pendingDon, t, -, hread⟩ := exists_segment h
  obtain ⟨timing, trigger, required, cost, body, conds, rest, name, kind, parameters, -, -, -,
    hreading, rfl⟩ := readSegment_eq hread
  exact ⟨rfl, limits_of_classify hreading hz⟩

end CardText

end CardRules
