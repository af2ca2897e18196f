import CardRules.Proofs.Game.Places
import CardRules.Proofs.Game.Shifts
import CardRules.Proofs.Target.Matching
import CardRules.Target.Legal

/-!
# Legal choices

Which cards a filter lets a player choose is a matter of each card alone: whose side it lies on, in
which zone, and what it is like (`TargetFilter.Admits`). The legal targets are these cards
(`mem_legalTargets_iff`), and a list of targets passes the check exactly when it keeps to the bounds
and points at different cards that the filter admits (`Target.valid_exact`). Neither the order of
the targets nor what else they point at makes a difference.
-/

namespace CardRules

theorem Player.eq_or_eq_opponent (who p : Player) : p = who ∨ p = who.opponent := by
  cases who <;> cases p <;> decide

namespace TargetFilter

variable {f : TargetFilter} {who p : Player}

/-- A player whose cards may be chosen by the player who controls the ability. -/
inductive Covers (f : TargetFilter) (who : Player) : Player → Prop where
  | own (h : f.controller = some "self") : Covers f who who
  | opposing (h : f.controller = some "opponent") : Covers f who who.opponent
  | anyone (p : Player) (h : f.controller = none ∨ f.controller = some "" ∨
      f.controller = some "any") : Covers f who p

/-- The zone is one of those that the filter names, or on the field if it names none. -/
def Searches (f : TargetFilter) (zone : Zone) : Prop :=
  if f.zone = [] then zone.isField else zone ∈ f.zone

theorem mem_players_iff : p ∈ f.players who ↔ f.Covers who p := by
  constructor
  · intro h
    unfold players at h
    cases hc : f.controller with
    | none => exact .anyone p (.inl hc)
    | some w =>
      rw [hc] at h
      by_cases hempty : w = ""
      · exact .anyone p (.inr (.inl (hempty ▸ hc)))
      by_cases hany : w = "any"
      · exact .anyone p (.inr (.inr (hany ▸ hc)))
      by_cases hself : w = "self"
      · obtain rfl : p = who := by simpa [hself] using h
        exact .own (hself ▸ hc)
      by_cases hopponent : w = "opponent"
      · obtain rfl : p = who.opponent := by simpa [hopponent] using h
        exact .opposing (hopponent ▸ hc)
      · simp [hempty, hany, hself, hopponent] at h
  · unfold players
    rintro (h | h | ⟨-, h | h | h⟩)
    · simp [h]
    · simp [h]
    all_goals
      rw [h]
      simpa using who.eq_or_eq_opponent p

theorem mem_zones_iff {zone : Zone} : zone ∈ f.zones ↔ f.Searches zone := by
  unfold zones Searches
  by_cases hz : f.zone = []
  · cases zone <;> simp [hz, Zone.isField]
  · simp [hz]

/-- What makes a card a legal target of a filter: its player, its zone, and the card itself. -/
structure Admits (f : TargetFilter) (bonus : DonBonus) (test : CardTest) (g : Game) (who : Player)
    (q : Placed) : Prop where
  player : f.Covers who q.player
  zone : f.Searches q.zone
  card : f.Describes bonus test g q.card

/-- Without a filter every character on the field is admitted. -/
theorem admits_anyCharacter {bonus : DonBonus} {test : CardTest} {g : Game} {q : Placed} :
    anyCharacter.Admits bonus test g who q ↔ q.zone.isField ∧ q.card.isCharacter := by
  have hcategory : q.card.face.category ∈ anyCharacter.category ↔ q.card.isCharacter := by
    simp [anyCharacter, Card.isCharacter]
  constructor
  · exact fun h => ⟨h.zone, hcategory.1 (h.card.category (List.cons_ne_nil _ _))⟩
  · rintro ⟨hzone, hcharacter⟩
    refine ⟨.anyone _ (.inl rfl), hzone, fun _ => hcategory.2 hcharacter, ?_, ?_, ?_, ?_, ?_, ?_,
      ?_, ?_, ?_⟩ <;> simp [anyCharacter]

end TargetFilter

/-- What makes a card a legal target. -/
def Placed.Legal (bonus : DonBonus) (test : CardTest) (g : Game) (filter : Option TargetFilter)
    (who : Player) (q : Placed) : Prop :=
  match filter with
  | none => q.zone.isField ∧ q.card.isCharacter
  | some f => f.Admits bonus test g who q

/-- What makes a card one that is looked at, whether it is a legal target or not. -/
def Placed.Searched (filter : Option TargetFilter) (who : Player) (q : Placed) : Prop :=
  match filter with
  | none => q.zone.isField
  | some f => f.Covers who q.player ∧ f.Searches q.zone

variable {g : Game} {bonus : DonBonus} {test : CardTest} {filter : Option TargetFilter}
  {who : Player} {targets : List Target} {id : String}

theorem Placed.legal_iff {q : Placed} :
    q.Legal bonus test g filter who ↔ (filter.getD .anyCharacter).Admits bonus test g who q := by
  cases filter with
  | none => exact TargetFilter.admits_anyCharacter.symm
  | some f => exact Iff.rfl

theorem Placed.searched_iff {q : Placed} : q.Searched filter who ↔
    (filter.getD .anyCharacter).Covers who q.player ∧
      (filter.getD .anyCharacter).Searches q.zone := by
  cases filter with
  | none => exact (and_iff_right (.anyone _ (.inl rfl))).symm
  | some f => exact Iff.rfl

/-- The cards that are searched are those on the covered sides in the searched zones. -/
theorem Game.mem_searched_iff (hn : g.seats.Nodup) {c : Card} :
    c ∈ g.searched (filter.getD .anyCharacter) who ↔
      ∃ q ∈ g.placed, q.Searched filter who ∧ q.card = c := by
  simp only [searched, List.mem_flatMap, Placed.searched_iff]
  constructor
  · rintro ⟨p, hp, h⟩
    split at h
    · cases h
    · rename_i side hside
      obtain ⟨zone, hz, hc⟩ := List.mem_flatMap.1 h
      refine ⟨⟨p, zone, c⟩, (mem_placed_iff hn).2 ⟨side, hside, Side.mem_ofCards_of_mem hc, hc⟩,
        ⟨TargetFilter.mem_players_iff.1 hp, TargetFilter.mem_zones_iff.1 hz⟩, rfl⟩
  · rintro ⟨q, hq, ⟨hplayer, hzone⟩, rfl⟩
    obtain ⟨side, hside, -, hmem⟩ := (mem_placed_iff hn).1 hq
    refine ⟨q.player, TargetFilter.mem_players_iff.2 hplayer, ?_⟩
    rw [hside]
    exact List.mem_flatMap.2 ⟨q.zone, TargetFilter.mem_zones_iff.2 hzone, hmem⟩

/-- The legal targets are the ids of the cards that may be chosen. -/
theorem Game.mem_legalTargets_iff (hn : g.seats.Nodup) :
    id ∈ g.legalTargets bonus test filter who ↔
      ∃ q ∈ g.placed, q.Legal bonus test g filter who ∧ q.card.id = id := by
  simp only [legalTargets, List.mem_map, List.mem_filter, mem_searched_iff hn, Card.fits_iff]
  constructor
  · rintro ⟨c, ⟨⟨q, hq, hsearched, rfl⟩, hcard⟩, hid⟩
    obtain ⟨hplayer, hzone⟩ := Placed.searched_iff.1 hsearched
    exact ⟨q, hq, Placed.legal_iff.2 ⟨hplayer, hzone, hcard⟩, hid⟩
  · rintro ⟨q, hq, hlegal, hid⟩
    obtain ⟨hplayer, hzone, hcard⟩ := Placed.legal_iff.1 hlegal
    exact ⟨q.card, ⟨⟨q, hq, Placed.searched_iff.2 ⟨hplayer, hzone⟩, rfl⟩, hcard⟩, hid⟩

namespace Target

theorem hasRepeatedCard_iff : hasRepeatedCard targets ↔ ¬(chosenCards targets).Nodup := by
  rw [hasRepeatedCard, bne_iff_ne, not_iff_not]
  have hfirst : (chosenCards targets).eraseDups.Subperm (chosenCards targets) :=
    (nodup_eraseDups _).subperm fun id hid => List.mem_eraseDups.1 hid
  constructor
  · intro hlength
    exact (hfirst.perm_of_length_le hlength.ge).nodup (nodup_eraseDups _)
  · intro hn
    exact hfirst.length_le.antisymm (hn.subperm fun id hid => List.mem_eraseDups.2 hid).length_le

theorem wellChosen_iff {min max : Option Int} : wellChosen min max targets ↔
    (∀ n ∈ min, n ≤ (targets.length : Int)) ∧ (∀ n ∈ max, (targets.length : Int) ≤ n) ∧
      (chosenCards targets).Nodup := by
  rw [wellChosen, Bool.and_eq_true, Bool.and_eq_true, Bool.not_eq_true', ← Bool.not_eq_true,
    hasRepeatedCard_iff, not_not, Option.all_eq_true, Option.all_eq_true, and_assoc]
  simp only [decide_eq_true_eq, Option.mem_def]

theorem valid_iff (hn : g.seats.Nodup) {min max : Option Int} :
    valid g bonus test filter who min max targets ↔ wellChosen min max targets ∧
      ∀ id ∈ chosenCards targets, ∃ q ∈ g.placed, q.Legal bonus test g filter who ∧
        some q.card.id = id := by
  have hlegal : ∀ id : Option String, id.any ((g.legalTargets bonus test filter who).contains ·) ↔
      ∃ q ∈ g.placed, q.Legal bonus test g filter who ∧ some q.card.id = id := by
    rintro (_ | id)
    · simp
    · simp [Game.mem_legalTargets_iff hn]
  rw [valid, Bool.and_eq_true, List.all_eq_true]
  simp only [hlegal]

/-- The check gives the verdict, unless it comes to ask and a test of the host fails. -/
theorem check_eq_ok_iff (hn : g.seats.Nodup) {min max : Option Int} {b : Bool} :
    check g bonus test filter who min max targets = .ok b ↔
      b = valid g bonus test filter who min max targets ∧
      (wellChosen min max targets → ∀ q ∈ g.placed, q.Searched filter who →
        ∃ verdict, q.card.judge g bonus test (filter.getD .anyCharacter) = .ok verdict) := by
  have hanswers : Card.testFault? g bonus test (filter.getD .anyCharacter)
      (g.searched (filter.getD .anyCharacter) who) = none ↔
        ∀ q ∈ g.placed, q.Searched filter who →
          ∃ verdict, q.card.judge g bonus test (filter.getD .anyCharacter) = .ok verdict := by
    rw [Card.testFault?_eq_none_iff]
    simp only [Game.mem_searched_iff hn]
    exact ⟨fun h q hq hs => h q.card ⟨q, hq, hs, rfl⟩,
      fun h c ⟨q, hq, hs, hc⟩ => hc ▸ h q hq hs⟩
  unfold check
  by_cases hw : wellChosen min max targets
  · dsimp only
    rw [if_pos hw, ← hanswers]
    split
    · rename_i fault hfault
      simp [hw, hfault]
    · rename_i hnone
      simp [hw, hnone, eq_comm]
  · have hinvalid : valid g bonus test filter who min max targets = false := by
      simp [valid, hw]
    simp [hw, hinvalid, eq_comm]

/-- **The check of targets is exact.** A list of targets is valid exactly when its length keeps to
the bounds that are set, its card targets point at different cards, and each of them at a card that
may be chosen. So the order of the targets does not matter, and those that are no card targets only
count towards the length. The check gives this verdict, unless the host's own test fails on one of
the cards that the filter searches; on a list that is not well chosen no card is tested. -/
theorem valid_exact (hn : g.seats.Nodup) (bonus : DonBonus) (test : CardTest)
    (filter : Option TargetFilter) (who : Player) (min max : Option Int) (targets : List Target) :
    (valid g bonus test filter who min max targets ↔
      (∀ n ∈ min, n ≤ (targets.length : Int)) ∧ (∀ n ∈ max, (targets.length : Int) ≤ n) ∧
      (chosenCards targets).Nodup ∧
      ∀ id ∈ chosenCards targets, ∃ q ∈ g.placed, q.Legal bonus test g filter who ∧
        some q.card.id = id) ∧
    (∀ others : List Target, others.Perm targets →
      valid g bonus test filter who min max others =
        valid g bonus test filter who min max targets) ∧
    (∀ others : List Target, others.length = targets.length →
      chosenCards others = chosenCards targets →
      valid g bonus test filter who min max others =
        valid g bonus test filter who min max targets) ∧
    ∀ b, check g bonus test filter who min max targets = .ok b ↔
      b = valid g bonus test filter who min max targets ∧
      (wellChosen min max targets → ∀ q ∈ g.placed, q.Searched filter who →
        ∃ verdict, q.card.judge g bonus test (filter.getD .anyCharacter) = .ok verdict) := by
  have hvalid : ∀ targets : List Target, valid g bonus test filter who min max targets ↔
      (∀ n ∈ min, n ≤ (targets.length : Int)) ∧ (∀ n ∈ max, (targets.length : Int) ≤ n) ∧
      (chosenCards targets).Nodup ∧
      ∀ id ∈ chosenCards targets, ∃ q ∈ g.placed, q.Legal bonus test g filter who ∧
        some q.card.id = id := by
    intro targets
    rw [valid_iff hn, wellChosen_iff, and_assoc, and_assoc]
  refine ⟨hvalid targets, fun others hperm => ?_, fun others hlength hchosen => ?_,
    fun b => check_eq_ok_iff hn⟩
  · have hchosen : (chosenCards others).Perm (chosenCards targets) := hperm.filterMap _
    rw [Bool.eq_iff_iff, hvalid, hvalid, hperm.length_eq, hchosen.nodup_iff]
    simp only [hchosen.mem_iff]
  · rw [Bool.eq_iff_iff, hvalid, hvalid, hlength, hchosen]

/-- The first player may choose the cheap character that was taken over, and name a player as the
second target, but not choose the character twice. -/
theorem valid_exact_contested :
    Game.contested.seats.Nodup ∧
    valid Game.contested ⟨none, 1000⟩ .written
      (some { controller := some "self", costRange := some (.atMost 2) }) .one (some 2) (some 2)
      [.player (some .two), .card (some "c2")] ∧
    ¬valid Game.contested ⟨none, 1000⟩ .written none .one none none
      [.card (some "c2"), .card (some "c2")] := by
  have hn : Game.contested.seats.Nodup := by decide
  have hcovers := valid_exact hn ⟨none, 1000⟩ .written
    (some { controller := some "self", costRange := some (.atMost 2) }) .one (some 2) (some 2)
  refine ⟨hn, ?_, fun htwice => ?_⟩
  · rw [(hcovers [.card (some "c2"), .player (some .two)]).2.1 _ (.swap _ _ _),
      (hcovers _).1]
    refine ⟨by simp, by simp, by simp [chosenCards], fun id hid => ?_⟩
    obtain rfl : id = some "c2" := by simpa [chosenCards] using hid
    have hl : Game.contested.locate? "c2" = some _ := rfl
    refine ⟨_, List.mem_of_find?_eq_some hl, ⟨.own rfl, rfl, ?_⟩, rfl⟩
    exact Card.fits_iff.1 (by decide)
  · have hdistinct := ((valid_exact hn _ _ _ _ _ _ _).1.1 htwice).2.2.1
    simp [chosenCards] at hdistinct

/-- A test of the host fails on a card, though no card is chosen. -/
example : check Game.contested ⟨none, 1000⟩ (fun _ _ _ => .error (.host "no answer"))
    (some { only := some [] }) .one none none [] = .error (.host "no answer") := by
  rfl

end Target

end CardRules
