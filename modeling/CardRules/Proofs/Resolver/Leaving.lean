import CardRules.Proofs.Game.Shifts
import CardRules.Proofs.Resolver.Removal

/-!
# Who leaves the field

A removal treats its targets one after the other, each as it then stands: some are gone by then, and
some have been removed already. None of this matters. The characters that leave are those that keep
within the limits at the start, in the order in which the targets first mention them
(`shifts_eachCard`), and what becomes of one target is the same whatever the other targets are
(`removal_exact`).
-/

namespace CardRules

/-- The cards that are there can be found, before and after. -/
theorem Game.SameRoster.isSome_locate? {g h : Game} (hr : SameRoster g h) (id : String) :
    (h.locate? id).isSome = (g.locate? id).isSome := by
  have hsome : ∀ k : Game, (k.locate? id).isSome ↔ id ∈ (k.cards.map Card.identity).map (·.1) := by
    intro k
    rw [locate?, List.find?_isSome, List.map_map, ← map_card_placed, List.map_map]
    simp [Card.identity]
  rw [Bool.eq_iff_iff, hsome, hsome]
  exact (hr.cards.map (·.1)).mem_iff

namespace Resolver

open Game (Shifts)

variable {bonus : DonBonus} {dest : Zone} {ps : Parameters} {g h k : Game} {q : Placed}
  {i j : Invocation} {id other : String} {ids : List String}

/-- The character with an id, if it keeps within the limits. -/
def leaver? (bonus : DonBonus) (ps : Parameters) (g : Game) (id : String) : Option Placed :=
  (g.locate? id).filter fun q => q.card.isFieldCharacter && withinLimits bonus ps q.card g

/-- The characters that keep within the limits, in the order in which their ids are first
mentioned. -/
def leavers (bonus : DonBonus) (ps : Parameters) (g : Game) (ids : List String) : List Placed :=
  ids.eraseDups.filterMap (leaver? bonus ps g)

theorem id_of_leaver? (hl : leaver? bonus ps g id = some q) : q.card.id = id :=
  Game.id_of_locate? (Option.filter_eq_some_iff.1 hl).1

theorem map_id_leavers (bonus : DonBonus) (ps : Parameters) (g : Game) (ids : List String) :
    ((leavers bonus ps g ids).map (·.card.id)).Sublist ids.eraseDups := by
  unfold leavers
  induction ids.eraseDups with
  | nil => exact .slnil
  | cons id rest ih =>
    cases hl : leaver? bonus ps g id with
    | none =>
      rw [List.filterMap_cons_none hl]
      exact ih.cons id
    | some q =>
      rw [List.filterMap_cons_some hl, List.map_cons, id_of_leaver? hl]
      exact ih.cons_cons id

/-- Those leave that the targets name, as long as they are characters in play within the limits. -/
theorem mem_leavers (hg : g.Distinct) : q ∈ leavers bonus ps g ids ↔
    q ∈ g.placed ∧ q.card.id ∈ ids ∧ q.card.isFieldCharacter ∧
      withinLimits bonus ps q.card g := by
  simp only [leavers, List.mem_filterMap, List.mem_eraseDups, leaver?, Option.filter_eq_some_iff,
    Bool.and_eq_true]
  constructor
  · rintro ⟨id, hid, hl, hfits⟩
    obtain ⟨hq, rfl⟩ := (Game.locate?_eq_some_iff hg).1 hl
    exact ⟨hq, hid, hfits⟩
  · rintro ⟨hq, hid, hfits⟩
    exact ⟨q.card.id, hid, (Game.locate?_eq_some_iff hg).2 ⟨hq, rfl⟩, hfits⟩

theorem leavers_cons : leavers bonus ps g (id :: ids) =
    (leaver? bonus ps g id).toList ++
      (ids.eraseDups.filter (· != id)).filterMap (leaver? bonus ps g) := by
  rw [leavers, eraseDups_cons_eq, List.filterMap_cons]
  cases leaver? bonus ps g id <;> rfl

/-- A card that has left does not leave again, and the others may as before. -/
theorem leaver?_moveCard (hg : g.Distinct) (hd : dest.isField = false)
    (hl : g.locate? id = some q) (hm : g.moveCard id dest true = .ok h) :
    leaver? bonus ps h other = if other = id then none else leaver? bonus ps g other := by
  have hturn := (Game.Step.move hm).activePlayer
  unfold leaver?
  rw [Game.locate?_moveCard hg hl hm]
  split
  · rw [Option.filter_some, isFieldCharacter_landing hd, Bool.false_and]
    rfl
  · congr 1
    funext r
    unfold withinLimits
    rw [Game.effectivePower_congr hturn]

theorem leaver?_of_none (hnone : leaver? bonus ps g id = none) :
    leaver? bonus ps g other = if other = id then none else leaver? bonus ps g other := by
  split
  · rename_i hsame
    rw [hsame, hnone]
  · rfl

/-- One target: it leaves if it may, and the others are found as before. -/
theorem shifts_treat (hg : g.Distinct) (hd : dest.isField = false)
    (he : eachCard (removeCharacter bonus dest i) (id :: ids) g = .ok k) :
    ∃ h, h.Distinct ∧ eachCard (removeCharacter bonus dest i) ids h = .ok k ∧
      Shifts g h ((leaver? bonus i.ability.parameters g id).toList.map (·.landing dest))
        ((leaver? bonus i.ability.parameters g id).toList.flatMap (·.released dest)) ∧
      ∀ other, leaver? bonus i.ability.parameters h other =
        if other = id then none else leaver? bonus i.ability.parameters g other := by
  rw [eachCard] at he
  cases hl : g.locate? id with
  | none =>
    have hnone : leaver? bonus i.ability.parameters g id = none := by rw [leaver?, hl]; rfl
    rw [Game.card?, hl] at he
    refine ⟨g, hg, he, ?_, fun _ => leaver?_of_none hnone⟩
    rw [hnone]
    exact .refl g
  | some q =>
    rw [Game.card?, hl] at he
    obtain ⟨h, hm, he⟩ := ok_of_bind he
    unfold removeCharacter at hm
    split at hm
    · rename_i hfits
      rw [Game.id_of_locate? hl] at hm
      have hsome : leaver? bonus i.ability.parameters g id = some q := by
        rw [leaver?, hl, Option.filter_some, if_pos hfits]
      refine ⟨h, hg.of_sameRoster (Game.sameRoster_moveCard hg hm), he, ?_,
        fun _ => leaver?_moveCard hg hd hl hm⟩
      rw [hsome]
      simpa using Game.shifts_moveCard hg hl hm
    · rename_i hstays
      cases hm
      have hnone : leaver? bonus i.ability.parameters g id = none := by
        rw [leaver?, hl, Option.filter_some, if_neg hstays]
      refine ⟨g, hg, he, ?_, fun _ => leaver?_of_none hnone⟩
      rw [hnone]
      exact .refl g

/-- All targets: those leave that may at the start, in the order of their first mentions. -/
theorem shifts_eachCard (hg : g.Distinct) (hd : dest.isField = false)
    (he : eachCard (removeCharacter bonus dest i) ids g = .ok k) :
    Shifts g k ((leavers bonus i.ability.parameters g ids).map (·.landing dest))
      ((leavers bonus i.ability.parameters g ids).flatMap (·.released dest)) := by
  induction ids generalizing g with
  | nil =>
    cases he
    exact .refl _
  | cons id rest ih =>
    obtain ⟨h, hh, he, hfirst, hothers⟩ := shifts_treat hg hd he
    have hlater : leavers bonus i.ability.parameters h rest =
        (rest.eraseDups.filter (· != id)).filterMap (leaver? bonus i.ability.parameters g) := by
      rw [leavers, List.filterMap_filter]
      refine List.filterMap_congr fun other _ => ?_
      rw [hothers]
      by_cases hsame : other = id <;> simp [hsame]
    have hapart : ∀ r ∈ (leaver? bonus i.ability.parameters g id).toList.map (·.landing dest),
        ∀ r' ∈ (leavers bonus i.ability.parameters h rest).map (·.landing dest),
          r'.card.id ≠ r.card.id := by
      intro r hr r' hr' hsame
      obtain ⟨q, hq, rfl⟩ := List.mem_map.1 hr
      obtain ⟨q', hq', rfl⟩ := List.mem_map.1 hr'
      rw [Placed.id_landing, Placed.id_landing, id_of_leaver? (Option.mem_toList.1 hq)] at hsame
      rw [hlater] at hq'
      obtain ⟨other, hmem, hother⟩ := List.mem_filterMap.1 hq'
      have hne : other ≠ id := by simpa using (List.mem_filter.1 hmem).2
      exact hne ((id_of_leaver? hother).symm.trans hsame)
    have hboth := hfirst.append (ih hh he) hapart
    rw [hlater, ← List.map_append, ← List.flatMap_append, ← leavers_cons] at hboth
    exact hboth

/-- What becomes of a card depends on whether it is a target, and on nothing else. -/
theorem locate?_eachCard (hg : g.Distinct) (hd : dest.isField = false)
    (he : eachCard (removeCharacter bonus dest i) ids g = .ok k) :
    k.locate? id = (g.locate? id).map fun q =>
      if id ∈ ids then q.removed bonus dest i.ability.parameters g else q := by
  have hk : g.SameRoster k := by
    refine Game.Reaches.sameRoster (chain_eachCard (fun _ ht => ?_) he) hg
    exact (fieldReaches_removeCharacter ht).reaches
  cases hl : g.locate? id with
  | none =>
    have hgone := hk.isSome_locate? id
    rw [hl] at hgone
    simpa using hgone
  | some q =>
    obtain ⟨hq, rfl⟩ := (Game.locate?_eq_some_iff hg).1 hl
    refine (Game.locate?_eq_some_iff (hg.of_sameRoster hk)).2 ⟨placed_eachCard hg hd he hq, ?_⟩
    split
    · exact id_removed
    · rfl

/-- Where both players sit, a removal is always carried out, and its host is not asked. -/
theorem exists_resolve_removal (bonus : DonBonus) (hg : g.Sound)
    (hz : i.ability.kind.removalZone? = some dest) (journal : Journal) : ∃ k,
      ((ResolverTable.standard bonus).resolve i g).outcome journal = (.ok k, journal) ∧
      eachCard (removeCharacter bonus dest i) i.cardIds g = .ok k := by
  obtain ⟨k, hk⟩ : ∃ k, eachCard (removeCharacter bonus dest i) i.cardIds g = .ok k :=
    exists_eachCard hg (AbilityKind.fits_of_removalZone? hz)
  exact ⟨k, by rw [ResolverTable.resolve_removal hz, Hosted.outcome_lift, hk], hk⟩

/-- Where the cards say where they lie, those leave that lie in a character area. -/
theorem mem_leavers_cardIds (hg : g.Distinct) (hids : ∀ q ∈ g.placed, q.card.id ≠ "")
    (hzones : ∀ q ∈ g.placed, q.card.zone = q.zone) :
    q ∈ leavers bonus ps g i.cardIds ↔ q ∈ g.placed ∧ .card (some q.card.id) ∈ i.targets ∧
      q.card.isCharacter ∧ q.zone = .characterArea ∧ (∀ most ∈ ps.maxCost, q.card.cost ≤ most) ∧
      ∀ most ∈ ps.maxPower, g.effectivePower bonus q.card ≤ most := by
  rw [mem_leavers hg]
  refine and_congr_right fun hq => ?_
  rw [Invocation.mem_cardIds_iff, withinLimits_iff, Card.isFieldCharacter, hzones q hq,
    Bool.and_eq_true, beq_iff_eq]
  constructor
  · rintro ⟨⟨ht, -⟩, ⟨hc, harea⟩, hpower, hcost⟩
    exact ⟨ht, hc, harea, hcost, hpower⟩
  · rintro ⟨ht, hc, harea, hcost, hpower⟩
    exact ⟨⟨ht, hids q hq⟩, ⟨hc, harea⟩, hpower, hcost⟩

end Resolver

/-- **K.O., bounce and banishment, exactly.** Whatever the targets are, the cards that leave are the
characters in play that the targets name and that keep within the limits, judged before anything
has left. They go to the ends of the zones of their owners in the order in which they are first
named, their DON!! go in the same order to the ends of the cost areas of the owners of these, and
all else stays as it is. What becomes of a target does not depend on the other targets. -/
theorem removal_exact (bonus : DonBonus) (hg : g.Sound) (hids : ∀ q ∈ g.placed, q.card.id ≠ "")
    (hzones : ∀ q ∈ g.placed, q.card.zone = q.zone)
    (hz : i.ability.kind.removalZone? = some dest) (journal : Journal) :
    ∃ (h : Game) (gone : List Placed),
      ((ResolverTable.standard bonus).resolve i g).outcome journal = (.ok h, journal) ∧
      (∀ q, q ∈ gone ↔ q ∈ g.placed ∧ .card (some q.card.id) ∈ i.targets ∧
        q.card.isCharacter ∧ q.zone = .characterArea ∧
        (∀ most ∈ i.ability.parameters.maxCost, q.card.cost ≤ most) ∧
        ∀ most ∈ i.ability.parameters.maxPower, g.effectivePower bonus q.card ≤ most) ∧
      (gone.map (·.card.id)).Sublist i.cardIds.eraseDups ∧
      Game.Shifts g h (gone.map (·.landing dest)) (gone.flatMap (·.card.givenDon)) ∧
      ∀ j : Invocation, j.ability = i.ability → ∃ k,
        ((ResolverTable.standard bonus).resolve j g).outcome journal = (.ok k, journal) ∧
        ∀ id ∈ i.cardIds, id ∈ j.cardIds → k.locate? id = h.locate? id := by
  have hd := AbilityKind.isField_of_removalZone? hz
  have hgone : ∀ q, q ∈ Resolver.leavers bonus i.ability.parameters g i.cardIds ↔ _ := fun q =>
    Resolver.mem_leavers_cardIds hg.toDistinct hids hzones
  obtain ⟨h, hrun, hh⟩ := Resolver.exists_resolve_removal bonus hg hz journal
  refine ⟨h, Resolver.leavers bonus i.ability.parameters g i.cardIds, hrun, hgone,
    Resolver.map_id_leavers _ _ _ _, ?_, fun j hj => ?_⟩
  · have hdons : ∀ q ∈ Resolver.leavers bonus i.ability.parameters g i.cardIds,
        q.released dest = q.card.givenDon := by
      intro q hq
      obtain ⟨-, -, -, harea, -⟩ := (hgone q).1 hq
      rw [Placed.released, harea, hd]
      rfl
    have hshift := Resolver.shifts_eachCard hg.toDistinct hd hh
    rwa [List.flatMap_congr hdons] at hshift
  · rw [← hj] at hz
    obtain ⟨k, hrun', hk⟩ := Resolver.exists_resolve_removal bonus hg hz journal
    refine ⟨k, hrun', fun id hi hj' => ?_⟩
    rw [Resolver.locate?_eachCard hg.toDistinct hd hk,
      Resolver.locate?_eachCard hg.toDistinct hd hh, hj]
    simp [hi, hj']

/-- A K.O. with targets that are named twice, that are not there, and that are not in play. -/
def sweeping : Invocation where
  ability := { (default : Ability) with
    kind := .koCharacter, parameters := { maxCost := some 5, maxPower := some 1000 } }
  sourceId := "c1"
  controller := .one
  targets := [.card (some "c2"), .player (some .two), .card (some "h1"), .card (some "ghost"),
    .card (some "c1"), .card (some "c2")]

/-- The character that was taken over goes to the trash of its owner, and its DON!! stays with the
player who gave it. -/
theorem removal_exact_contested : Game.contested.Sound ∧
    (∀ q ∈ Game.contested.placed, q.card.id ≠ "") ∧
    (∀ q ∈ Game.contested.placed, q.card.zone = q.zone) ∧
    sweeping.ability.kind.removalZone? = some .trash ∧
    ∃ (h : Game) (gone : List Placed),
      ((ResolverTable.standard ⟨none, 1000⟩).resolve sweeping Game.contested).outcome [] =
        (.ok h, []) ∧
      Game.Shifts Game.contested h (gone.map (·.landing .trash))
        (gone.flatMap (·.card.givenDon)) ∧
      h.sides.map (·.trash.map (·.id)) = [["c1"], ["c2"]] ∧
      h.sides.map (·.costArea.map (·.id)) = [["don1", "don2", "don3"], ["don4"]] := by
  have hg : Game.contested.Sound := Game.tidy_contested.toSound
  have hids : ∀ q ∈ Game.contested.placed, q.card.id ≠ "" := by decide +kernel
  have hzones : ∀ q ∈ Game.contested.placed, q.card.zone = q.zone := by decide +kernel
  have hz : sweeping.ability.kind.removalZone? = some .trash := rfl
  refine ⟨hg, hids, hzones, hz, ?_⟩
  obtain ⟨h, gone, hrun, -, -, hshift, -⟩ :=
    removal_exact ⟨none, 1000⟩ hg hids hzones hz []
  have hafter : (((ResolverTable.standard ⟨none, 1000⟩).resolve sweeping
      Game.contested).outcome []).1.toOption.map (fun k =>
        (k.sides.map (·.trash.map (·.id)), k.sides.map (·.costArea.map (·.id)))) =
      some ([["c1"], ["c2"]], [["don1", "don2", "don3"], ["don4"]]) := by decide +kernel
  rw [hrun] at hafter
  obtain ⟨htrash, hareas⟩ := Prod.mk.inj (Option.some.inj hafter)
  exact ⟨h, gone, hrun, hshift, htrash, hareas⟩

end CardRules
