import CardRules.Proofs.Game.Edits
import CardRules.Proofs.Game.Reach

/-!
# Giving DON!!

A card that is given DON!! gets the first ones of a cost area, the active ones before the others,
and the rest of the cost area stays as it is (`attachDon_exact`). As long as the number that is
asked for is not negative, the card gets that many or all there are, so a use of an ability never
gives a target more than it says.

A negative number is no request for nothing: it leaves that many DON!! in the cost area and gives
all others (`negative_request_gives`).
-/

namespace CardRules

namespace Game

variable {g h : Game} {s : Side} {p : Player} {id : String} {q : Placed} {amount : Int}

/-- The first DON!! of the cost area go to the card. -/
theorem exists_attachDon (hg : g.Distinct) (hs : g.side? p = some s)
    (hl : g.locate? id = some q) (amount : Int) :
    ∃ h, g.attachDon p id amount = .ok (h, (firstItems amount (donOrder s.costArea)).length) ∧
      Edited (g.setSide (s.spend (firstItems amount (donOrder s.costArea)))) h []
        (.change id (·.take (firstItems amount (donOrder s.costArea)))) := by
  unfold attachDon
  rw [side_eq_ok_iff.2 hs, ok_bind]
  generalize firstItems amount (donOrder s.costArea) = chosen
  have hseat : g.side? (s.spend chosen).player = some s := side?_player hs
  cases chosen with
  | nil =>
    refine ⟨g, rfl, ?_⟩
    rw [Side.spend_nil]
    refine (edited_setSide_same hs).congr fun r u _ zone => ?_
    simp [Edit.keep, Edit.change]
  | cons d rest =>
    have hspent : (g.setSide (s.spend (d :: rest))).Distinct :=
      hg.of_sameRoster (sameRoster_setSide hg hs rfl rfl)
    have hl' : (g.setSide (s.spend (d :: rest))).locate? id = some q := by
      rw [locate?, placed_setSide hg.seatsOnce hseat fun _ => rfl]
      exact hl
    obtain ⟨k, hk⟩ := exists_updateCard (f := (·.take (d :: rest))) hspent hl'
    refine ⟨k, ?_, edited_updateCard hspent hk⟩
    change ((g.setSide (s.spend (d :: rest))).updateCard id (·.take (d :: rest)) >>= _) = _
    rw [hk]
    rfl

/-- Giving DON!! leaves every card what it was, but for those that one card gets. -/
theorem card?_attachDon {n : Nat} (hg : g.Distinct) (hl : g.locate? id = some q)
    (ha : g.attachDon p id amount = .ok (h, n)) : ∃ s, g.side? p = some s ∧
      ∀ other c, g.card? other = some c → h.card? other =
        some (if other = id then c.take (firstItems amount (donOrder s.costArea)) else c) := by
  have hh : h.Distinct := hg.of_sameRoster (sameRoster_attachDon hg ha)
  obtain ⟨s, hs, -⟩ := ok_of_bind ha
  rw [side_eq_ok_iff] at hs
  refine ⟨s, hs, fun other c hc => ?_⟩
  obtain ⟨k, hk, he⟩ := exists_attachDon hg hs hl amount
  rw [ha] at hk
  cases hk
  generalize firstItems amount (donOrder s.costArea) = chosen at he
  have hseat : g.side? (s.spend chosen).player = some s := side?_player hs
  refine he.card?_change (hg.of_sameRoster (sameRoster_setSide hg hs rfl rfl)) hh (fun _ => rfl) ?_
  rw [card?, locate?, placed_setSide hg.seatsOnce hseat fun _ => rfl]
  exact hc

/-- What is not given away stays in the cost area, in its order. -/
theorem spend_perm (hn : g.seats.Nodup) (hd : (g.dons.map (·.id)).Nodup)
    (hs : g.side? p = some s) {chosen : List Don} (hfirst : chosen <+: donOrder s.costArea) :
    (chosen ++ (s.spend chosen).costArea).Perm s.costArea ∧
      (s.spend chosen).costArea.Sublist s.costArea := by
  obtain ⟨rest, hrest⟩ := hfirst
  obtain ⟨others, hall, -⟩ := exists_rest_of_costArea hn (side?_player hs) rfl
  have hids := (hall.map (·.id)).nodup_iff.1 hd
  rw [List.map_append] at hids
  have hperm : s.costArea.Perm (chosen ++ rest) := hrest ▸ (donOrder_perm s.costArea).symm
  have hkept := filter_not_contains_perm (fun d : Don => d.id) hids.of_append_left hperm
  exact ⟨(hkept.append_left chosen).trans hperm.symm, List.filter_sublist⟩

end Game

namespace Resolver

variable {g h : Game} {i : Invocation} {c d : Card} {n : Nat} {ids : List String} {id : String}

/-- A use gives one target no more than it says, and other cards nothing. -/
theorem giveDon_bounded (hg : g.Distinct) (hn : i.ability.parameters.value.getD 1 = n)
    (hc : g.card? c.id = some c) (hgive : giveDon i c g = .ok h) (hd : g.card? id = some d) :
    ∃ e, h.card? id = some e ∧
      e.givenDon.length ≤ d.givenDon.length + if id = c.id then n else 0 := by
  unfold giveDon at hgive
  split at hgive
  · rw [hn] at hgive
    obtain ⟨q, hl, -⟩ := Option.map_eq_some_iff.1 hc
    cases ha : g.attachDon c.controller c.id n with
    | error f => rw [ha] at hgive; cases hgive
    | ok given =>
      rw [ha] at hgive
      cases hgive
      obtain ⟨s, -, hcards⟩ := Game.card?_attachDon hg hl ha
      refine ⟨_, hcards id d hd, ?_⟩
      split
      · rw [Card.take, List.length_append, List.length_map, firstItems_natCast, List.length_take]
        omega
      · exact Nat.le_add_right _ _
  · cases hgive
    exact ⟨d, hd, Nat.le_add_right _ _⟩

/-- A card gets no more than what is said for each time it is a target. -/
theorem eachCard_giveDon_bounded (hg : g.Distinct)
    (hn : i.ability.parameters.value.getD 1 = n) (hrun : eachCard (giveDon i) ids g = .ok h)
    (hd : g.card? id = some d) :
    ∃ e, h.card? id = some e ∧ e.givenDon.length ≤ d.givenDon.length + ids.count id * n := by
  induction ids generalizing g d with
  | nil =>
    cases hrun
    exact ⟨d, hd, Nat.le_add_right _ _⟩
  | cons first rest ih =>
    unfold eachCard at hrun
    cases hc : g.card? first with
    | none =>
      rw [hc] at hrun
      obtain ⟨e, he, hlength⟩ := ih hg hrun hd
      refine ⟨e, he, hlength.trans (Nat.add_le_add_left (Nat.mul_le_mul_right n ?_) _)⟩
      exact List.count_le_count_cons
    | some c =>
      rw [hc] at hrun
      obtain ⟨k, hk, hrun⟩ := ok_of_bind hrun
      obtain rfl := Game.id_of_card? hc
      obtain ⟨e, he, hfirst⟩ := giveDon_bounded hg hn hc hk hd
      have hroster := (fieldReaches_giveDon hc hk).reaches.sameRoster hg
      obtain ⟨e', he', hrest⟩ := ih (hg.of_sameRoster hroster) hrun he
      refine ⟨e', he', hrest.trans ?_⟩
      by_cases hid : id = c.id
      · rw [if_pos hid] at hfirst
        rw [hid, List.count_cons_self, Nat.succ_mul]
        omega
      · rw [if_neg hid] at hfirst
        rw [List.count_cons_of_ne (Ne.symm hid)]
        omega

theorem exists_giveDon (hg : g.Sound) (hc : g.card? c.id = some c) :
    ∃ h, giveDon i c g = .ok h := by
  unfold giveDon
  split
  · obtain ⟨q, hl, -⟩ := Option.map_eq_some_iff.1 hc
    obtain ⟨s, hs⟩ := Game.exists_side hg c.controller
    obtain ⟨h, hh, -⟩ := Game.exists_attachDon hg.toDistinct hs hl
      (i.ability.parameters.value.getD 1)
    exact ⟨h, by rw [hh]; rfl⟩
  · exact ⟨g, rfl⟩

/-- Nothing stands in the way of giving DON!!. -/
theorem exists_eachCard_giveDon (i : Invocation) (ids : List String) (hg : g.Sound) :
    ∃ h, eachCard (giveDon i) ids g = .ok h := by
  induction ids generalizing g with
  | nil => exact ⟨g, rfl⟩
  | cons first rest ih =>
    unfold eachCard
    cases hc : g.card? first with
    | none => exact ih hg
    | some c =>
      obtain rfl := Game.id_of_card? hc
      obtain ⟨k, hk⟩ := exists_giveDon (i := i) hg hc
      have hroster := (fieldReaches_giveDon hc hk).reaches.sameRoster hg.toDistinct
      obtain ⟨h, hh⟩ := ih (hg.of_sameRoster hroster)
      refine ⟨h, ?_⟩
      change (giveDon i c g >>= eachCard (giveDon i) rest) = _
      rw [hk]
      exact hh

theorem resolve_attachDon {bonus : DonBonus} (hk : i.ability.kind = .attachDon) :
    (ResolverTable.standard bonus).resolve i g =
      Hosted.lift (eachCard (giveDon i) i.cardIds g) := by
  have hr : (ResolverTable.standard bonus).get? i.ability.kind = some .attachDon := by rw [hk]; rfl
  exact ResolverTable.resolve_of_get? hr rfl

end Resolver

/-- **Giving DON!!, exactly.** A card on the field gets DON!! of a player: the first of the active
ones and then of the others, behind those that it has. The rest stays in the cost area in its
order, and nothing else changes. Who asks for a number of DON!! gets that many or all there are; a
negative number is what is left in the cost area. So a use that says how many gives no card more
than that for each time it is a target. -/
theorem attachDon_exact {g : Game} (bonus : DonBonus) (hg : g.Distinct)
    (hd : (g.dons.map (·.id)).Nodup) :
    (∀ p s id, g.side? p = some s → g.isOnField id → ∀ amount : Int,
      ∃ (h : Game) (chosen kept : List Don), g.attachDon p id amount = .ok (h, chosen.length) ∧
        Game.Edited (g.setSide { s with costArea := kept }) h [] (.change id (·.take chosen)) ∧
        chosen <+: s.activeDon ++ s.costArea.filter (!·.isActive) ∧
        (chosen ++ kept).Perm s.costArea ∧ kept.Sublist s.costArea ∧
        (chosen.length : Int) =
          if 0 ≤ amount then min amount s.costArea.length
          else max 0 (s.costArea.length + amount)) ∧
    (∀ (i : Invocation) (n : Nat), i.ability.kind = .attachDon →
      i.ability.parameters.value.getD 1 = n → ∀ journal,
      (g.Sound → ∃ h,
        ((ResolverTable.standard bonus).resolve i g).outcome journal = (.ok h, journal)) ∧
      ∀ h after, ((ResolverTable.standard bonus).resolve i g).outcome journal = (.ok h, after) →
        ∀ id c, g.card? id = some c → ∃ d, h.card? id = some d ∧
          d.givenDon.length ≤ c.givenDon.length + i.cardIds.count id * n) := by
  refine ⟨fun p s id hs hfield amount => ?_, fun i n hk hn journal => ⟨fun hsound => ?_, ?_⟩⟩
  · obtain ⟨q, hl, -⟩ := Game.isOnField_iff.1 hfield
    obtain ⟨h, ha, he⟩ := Game.exists_attachDon hg hs hl amount
    have hfirst := firstItems_prefix amount (Game.donOrder s.costArea)
    obtain ⟨hperm, hkept⟩ := Game.spend_perm hg.seatsOnce hd hs hfirst
    refine ⟨h, _, _, ha, he, hfirst, hperm, hkept, ?_⟩
    rw [length_firstItems, (Game.donOrder_perm s.costArea).length_eq]
  · obtain ⟨h, hh⟩ := Resolver.exists_eachCard_giveDon i i.cardIds hsound
    exact ⟨h, by rw [Resolver.resolve_attachDon hk, Hosted.outcome_lift, hh]⟩
  · intro h after hrun id c hc
    rw [Resolver.resolve_attachDon hk, Hosted.outcome_lift] at hrun
    exact Resolver.eachCard_giveDon_bounded hg hn (congrArg Prod.fst hrun) hc

/-- The first player has one rested and two active DON!!. -/
def stocked : Game where
  sides := [
    { Game.openingSide with
      costArea := [⟨"don1", .one, .costArea, .rested⟩, ⟨"don2", .one, .costArea, .active⟩,
        ⟨"don3", .one, .costArea, .active⟩] },
    { player := .two }]

/-- DON!! for the character, which is a target twice. -/
def arming (n : Int) : Invocation where
  ability := { (default : Ability) with kind := .attachDon, parameters := { value := some n } }
  sourceId := "c1"
  controller := .one
  targets := [.card (some "c1"), .card (some "c1")]

/-- Who asks for more than there are gets the active ones first, and a character that is a target
twice gets at most twice what is said. -/
theorem attachDon_exact_stocked :
    stocked.Distinct ∧ (stocked.dons.map (·.id)).Nodup ∧ stocked.isOnField "c1" ∧
    (∃ (h : Game) (chosen : List Don), stocked.attachDon .one "c1" 5 = .ok (h, 3) ∧
      chosen <+: [⟨"don2", .one, .costArea, .active⟩, ⟨"don3", .one, .costArea, .active⟩,
        ⟨"don1", .one, .costArea, .rested⟩] ∧ chosen.length = 3) ∧
    ∃ h c, ((ResolverTable.standard ⟨none, 1000⟩).resolve (arming 1) stocked).outcome [] =
        (.ok h, []) ∧
      h.card? "c1" = some c ∧ c.givenDon.length ≤ 2 := by
  have hg : stocked.Distinct := ⟨by decide, by decide⟩
  have hd : (stocked.dons.map (·.id)).Nodup := by decide
  have hfield : stocked.isOnField "c1" := by decide
  obtain ⟨hgive, huse⟩ := attachDon_exact ⟨none, 1000⟩ hg hd
  obtain ⟨h, chosen, -, ha, -, hfirst, -, -, hlength⟩ := hgive .one _ "c1" rfl hfield 5
  have hthree : chosen.length = 3 := Int.ofNat_inj.1 (hlength.trans (by decide))
  obtain ⟨hruns, hbound⟩ := huse (arming 1) 1 rfl rfl []
  obtain ⟨k, hk⟩ := hruns ⟨hg, fun p => by cases p <;> decide⟩
  obtain ⟨c, hc, hfew⟩ := hbound k [] hk "c1" _ rfl
  exact ⟨hg, hd, hfield, ⟨h, chosen, hthree ▸ ha, hfirst, hthree⟩, k, c, hk, hc, hfew⟩

/-- Who asks for one DON!! less than none gets all but one. -/
theorem negative_request_gives :
    stocked.Distinct ∧ (stocked.dons.map (·.id)).Nodup ∧ stocked.isOnField "c1" ∧
    (stocked.attachDon .one "c1" (-1)).toOption.map (·.2) = some 2 ∧
    (((ResolverTable.standard ⟨none, 1000⟩).resolve (arming (-2)) stocked).outcome
      []).1.toOption.map (fun h => (h.card? "c1").map (·.givenDon.map (·.id))) =
        some (some ["don2"]) := by
  refine ⟨⟨by decide, by decide⟩, by decide, by decide, by decide +kernel, by decide +kernel⟩

end CardRules
