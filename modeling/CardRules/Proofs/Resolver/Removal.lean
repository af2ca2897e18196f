import CardRules.Proofs.CardText.Removal
import CardRules.Proofs.Game.Moves
import CardRules.Target.Matching

/-!
# What a removal removes

A removal goes through its targets one by one. A character of a character area that keeps within
the limits of the ability is taken off the field, every other target is left alone, and so are all
cards that are no targets (`placed_eachCard`). Nobody checks the targets of an effect that comes
from the stack, so the limits in the parameters are all that holds it back. With a printed removal
these are the limits of its filter (`resolve_within_limits`), except where the text returns
characters: such a removal knows no limit on power (`bounce_beyond_limit`).
-/

namespace CardRules

open CardText (abilities Limits Rule)

/-- No card costs more than the filter admits. -/
def TargetFilter.AdmitsCost (f : TargetFilter) (c : Card) : Prop :=
  ∀ range ∈ f.costRange, ∀ most ∈ range.max, c.cost ≤ most

/-- The card is not stronger than the filter admits. -/
def TargetFilter.AdmitsPower (f : TargetFilter) (bonus : DonBonus) (g : Game) (c : Card) : Prop :=
  ∀ range ∈ f.powerRange, ∀ most ∈ range.max, g.effectivePower bonus c ≤ most

/-- Where a card lies when a removal has treated it. -/
def Placed.removed (bonus : DonBonus) (dest : Zone) (ps : Parameters) (g : Game) (q : Placed) :
    Placed :=
  if q.card.isFieldCharacter && Resolver.withinLimits bonus ps q.card g then q.landing dest else q

/-- What suits the filter keeps within its limits. -/
theorem TargetFilter.admits_of_suits {f : TargetFilter} {bonus : DonBonus} {g : Game} {c : Card}
    (h : c.suits g bonus f) : f.AdmitsCost c ∧ f.AdmitsPower bonus g c := by
  have hrange : ∀ {range : Bounds} {n : Int}, range.contains n → ∀ most ∈ range.max, n ≤ most := by
    intro range n hcontains most hmost
    simp only [Bounds.contains, Bool.and_eq_true] at hcontains
    simpa [Option.mem_def.1 hmost] using hcontains.2
  simp only [Card.suits, Bool.and_eq_true] at h
  obtain ⟨⟨⟨⟨⟨⟨⟨-, hcost⟩, hpower⟩, -⟩, -⟩, -⟩, -⟩, -⟩ := h
  refine ⟨fun range hr => hrange ?_, fun range hr => hrange ?_⟩
  · simpa [Option.mem_def.1 hr] using hcost
  · simpa [Option.mem_def.1 hr] using hpower

variable {bonus : DonBonus} {dest : Zone} {ps : Parameters} {g h k : Game} {q : Placed} {c : Card}
  {i : Invocation} {id cardId text : String} {ids : List String} {f : TargetFilter}
  {kind : AbilityKind}

/-- The cards that are aimed at are those with an id that the targets name. -/
theorem Invocation.mem_cardIds_iff :
    id ∈ i.cardIds ↔ .card (some id) ∈ i.targets ∧ id ≠ "" := by
  rw [cardIds, List.mem_filterMap]
  constructor
  · rintro ⟨t, ht, hid⟩
    unfold Target.cardId? at hid
    split at hid
    · split at hid
      · cases hid
      · rename_i hne
        cases hid
        exact ⟨ht, fun hempty => hne (by rw [hempty]; rfl)⟩
    · cases hid
  · rintro ⟨ht, hid⟩
    refine ⟨_, ht, ?_⟩
    simp [Target.cardId?, hid]

/-- Removed characters leave the field. -/
theorem AbilityKind.isField_of_removalZone? (hz : kind.removalZone? = some dest) :
    dest.isField = false := by
  cases kind <;> cases hz <;> rfl

theorem AbilityKind.fits_of_removalZone? (hz : kind.removalZone? = some dest) (n : Nat) :
    Side.fits dest n := by
  cases kind <;> cases hz <;> rfl

theorem Game.effectivePower_congr (hp : k.activePlayer = g.activePlayer) (c : Card) :
    k.effectivePower bonus c = g.effectivePower bonus c := by
  unfold effectivePower
  rw [hp]

namespace Resolver

theorem withinLimits_iff : withinLimits bonus ps c g ↔
    (∀ most ∈ ps.maxPower, g.effectivePower bonus c ≤ most) ∧
      ∀ most ∈ ps.maxCost, c.cost ≤ most := by
  unfold withinLimits
  cases ps.maxPower <;> cases ps.maxCost <;> simp

/-- Whatever else has left the field, a card is treated alike. -/
theorem removed_congr (hp : k.activePlayer = g.activePlayer) :
    q.removed bonus dest ps k = q.removed bonus dest ps g := by
  unfold Placed.removed withinLimits
  rw [Game.effectivePower_congr hp]

theorem removed_of_fits (h : q.card.isFieldCharacter && withinLimits bonus ps q.card g) :
    q.removed bonus dest ps g = q.landing dest := if_pos h

theorem removed_of_not_fits (h : ¬(q.card.isFieldCharacter && withinLimits bonus ps q.card g)) :
    q.removed bonus dest ps g = q := if_neg h

/-- A card that has left the field is no character on the field. -/
theorem isFieldCharacter_landing (hd : dest.isField = false) :
    (q.landing dest).card.isFieldCharacter = false := by
  have hzone : (q.landing dest).card.zone = dest := Game.zone_arriving q.card q.zone dest
  have harea : (dest == .characterArea) = false := by
    cases dest <;> first | rfl | cases hd
  rw [Card.isFieldCharacter, hzone, harea, Bool.and_false]

/-- It is not removed again. -/
theorem removed_landing (hd : dest.isField = false) :
    (q.landing dest).removed bonus dest ps g = q.landing dest := by
  apply removed_of_not_fits
  rw [isFieldCharacter_landing hd, Bool.false_and]
  exact Bool.false_ne_true

theorem removed_removed (hd : dest.isField = false) :
    (q.removed bonus dest ps g).removed bonus dest ps g = q.removed bonus dest ps g := by
  by_cases hfits : q.card.isFieldCharacter && withinLimits bonus ps q.card g
  · rw [removed_of_fits hfits]
    exact removed_landing hd
  · rw [removed_of_not_fits hfits, removed_of_not_fits hfits]

theorem id_removed : (q.removed bonus dest ps g).card.id = q.card.id := by
  unfold Placed.removed
  split
  · exact Placed.id_landing
  · rfl

/-! ## One target -/

/-- The target goes where it should, and the other cards stay as they lie. -/
theorem placed_removeCharacter {found : Placed} (hg : g.Distinct)
    (hl : g.locate? id = some found)
    (h : removeCharacter bonus dest i found.card g = .ok k) (hq : q ∈ g.placed) :
    (if q.card.id = id then q.removed bonus dest i.ability.parameters g else q) ∈ k.placed := by
  have hid : found.card.id = id := Game.id_of_locate? hl
  have hfound : q.card.id = id → q = found := fun hsame => by
    have hlq := (Game.locate?_eq_some_iff hg).2 ⟨hq, hsame⟩
    rw [hl] at hlq
    exact (Option.some.inj hlq).symm
  unfold removeCharacter at h
  split at h
  · rename_i hfits
    obtain ⟨found', hl', hplaced⟩ := Game.mem_placed_moveCard hg h
    rw [hid, hl] at hl'
    cases hl'
    rw [hplaced, hid]
    split
    · rename_i hsame
      rw [hfound hsame]
      exact .inl (removed_of_fits hfits)
    · rename_i hother
      exact .inr ⟨hq, hother⟩
  · rename_i hfits
    cases h
    split
    · rename_i hsame
      rw [hfound hsame, removed_of_not_fits hfits, ← hfound hsame]
      exact hq
    · exact hq

theorem exists_removeCharacter (hg : g.Sound) (hl : (g.locate? c.id).isSome)
    (hd : ∀ n, Side.fits dest n) : ∃ k, removeCharacter bonus dest i c g = .ok k := by
  unfold removeCharacter
  split
  · obtain ⟨found, hfound⟩ := Option.isSome_iff_exists.1 hl
    exact Game.exists_moveCard hg hfound hd
  · exact ⟨g, rfl⟩

/-! ## All targets -/

/-- Where both players sit, every target can be treated. -/
theorem exists_eachCard (hg : g.Sound) (hd : ∀ n, Side.fits dest n) :
    ∃ k, eachCard (removeCharacter bonus dest i) ids g = .ok k := by
  induction ids generalizing g with
  | nil => exact ⟨g, rfl⟩
  | cons id rest ih =>
    rw [eachCard]
    cases hl : g.locate? id with
    | none =>
      rw [Game.card?, hl]
      exact ih hg
    | some found =>
      rw [Game.card?, hl]
      have hsome : (g.locate? found.card.id).isSome := by
        rw [Game.id_of_locate? hl, hl]
        rfl
      obtain ⟨g₁, h₁⟩ : ∃ g₁, removeCharacter bonus dest i found.card g = .ok g₁ :=
        exists_removeCharacter hg hsome hd
      have hreach := (fieldReaches_removeCharacter h₁).reaches
      obtain ⟨k, hk⟩ := ih (hg.of_sameRoster (hreach.sameRoster hg.toDistinct))
      refine ⟨k, ?_⟩
      change (removeCharacter bonus dest i found.card g >>= _) = _
      rw [h₁, ok_bind, hk]

/-- Every card is where it should be when all targets have been treated. -/
theorem placed_eachCard (hg : g.Distinct) (hd : dest.isField = false)
    (h : eachCard (removeCharacter bonus dest i) ids g = .ok k) (hq : q ∈ g.placed) :
    (if q.card.id ∈ ids then q.removed bonus dest i.ability.parameters g else q) ∈ k.placed := by
  induction ids generalizing g q with
  | nil =>
    cases h
    simpa using hq
  | cons id rest ih =>
    rw [eachCard] at h
    cases hl : g.locate? id with
    | none =>
      have hmissing : q.card.id ≠ id := fun hsame => by
        rw [(Game.locate?_eq_some_iff hg).2 ⟨hq, hsame⟩] at hl
        cases hl
      rw [Game.card?, hl] at h
      have hrest := ih hg h hq
      simpa [hmissing] using hrest
    | some found =>
      rw [Game.card?, hl] at h
      obtain ⟨g₁, h₁, h⟩ := ok_of_bind h
      have hreach := (fieldReaches_removeCharacter h₁).reaches
      have hg₁ : g₁.Distinct := hg.of_sameRoster (hreach.sameRoster hg)
      have hfirst := placed_removeCharacter hg hl h₁ hq
      have hrest := ih hg₁ h hfirst
      by_cases hsame : q.card.id = id
      · rw [if_pos hsame, removed_congr hreach.activePlayer, id_removed, removed_removed hd,
          ite_self] at hrest
        simpa [hsame] using hrest
      · rw [if_neg hsame, removed_congr hreach.activePlayer] at hrest
        simpa [hsame] using hrest

end Resolver

/-! ## Printed removals -/

/-- A character that keeps within the limits of a filter leaves the character area. When it is
returned, only its cost matters. -/
inductive Removes (bonus : DonBonus) (kind : AbilityKind) (f : TargetFilter) (dest : Zone) :
    Game → Game → Prop where
  | take {g h : Game} {c : Card} : g.card? c.id = some c → c.isFieldCharacter →
      f.AdmitsCost c → (kind ≠ .bounceCharacter → f.AdmitsPower bonus g c) →
      g.moveCard c.id dest true = .ok h → Removes bonus kind f dest g h

theorem ResolverTable.resolve_removal (hz : i.ability.kind.removalZone? = some dest) :
    (standard bonus).resolve i g =
      Hosted.lift (Resolver.eachCard (Resolver.removeCharacter bonus dest i) i.cardIds g) := by
  unfold resolve
  cases hk : i.ability.kind <;> rw [hk] at hz <;> cases hz <;> rfl

namespace CardText.Limits

/-- The limits of the parameters are those of the filter, but for the power of what is returned. -/
theorem admits_iff (hl : Limits kind ps f) : Resolver.withinLimits bonus ps c g ↔
    f.AdmitsCost c ∧ (kind ≠ .bounceCharacter → f.AdmitsPower bonus g c) := by
  have hcost : f.AdmitsCost c ↔ ∀ most ∈ ps.maxCost, c.cost ≤ most := by
    unfold TargetFilter.AdmitsCost
    rw [hl.cost]
    cases ps.maxCost <;> simp [Bounds.atMost]
  rw [Resolver.withinLimits_iff, hcost, and_comm]
  apply and_congr_right
  intro _
  by_cases hk : kind = .bounceCharacter
  · rw [hl.unlimited hk]
    simp [hk]
  · unfold TargetFilter.AdmitsPower
    rw [hl.power hk]
    cases ps.maxPower <;> simp [hk, Bounds.atMost]

end CardText.Limits

/-- Of all characters that the targets of a printed removal point at, validated or not, those that
are moved keep within the greatest cost of its filter, and within its greatest power unless they
are returned. In a game with distinct ids all other cards stay exactly as they lie. -/
theorem resolve_within_limits (hd : i.ability.printed ∈ abilities Rule.standard cardId text)
    (hz : i.ability.kind.removalZone? = some dest) {journal : Journal}
    (hr : (((ResolverTable.standard bonus).resolve i g).outcome journal).1 = .ok h) :
    ∃ f, i.ability.parameters.targetFilter = some f ∧
      Relation.ReflTransGen (Removes bonus i.ability.kind f dest) g h ∧
      (g.Distinct → ∀ q ∈ g.placed, ¬(f.AdmitsCost q.card ∧
        (i.ability.kind ≠ .bounceCharacter → f.AdmitsPower bonus g q.card)) → q ∈ h.placed) := by
  obtain ⟨-, f, hlimits⟩ := CardText.limits_of_mem hd hz
  rw [ResolverTable.resolve_removal hz, Hosted.outcome_lift] at hr
  refine ⟨f, hlimits.filter, ?_, fun hg q hq hbeyond => ?_⟩
  · refine Resolver.chain_eachCard (fun hc ht => ?_) hr
    unfold Resolver.removeCharacter at ht
    split at ht
    · rename_i hfits
      rw [Bool.and_eq_true] at hfits
      obtain ⟨hcost, hpower⟩ := hlimits.admits_iff.1 hfits.2
      exact .single (.take hc hfits.1 hcost hpower ht)
    · cases ht
      exact .refl
  · have hplaced := Resolver.placed_eachCard hg (AbilityKind.isField_of_removalZone? hz) hr hq
    have hstays : q.removed bonus dest i.ability.parameters g = q := by
      apply Resolver.removed_of_not_fits
      rw [Bool.and_eq_true]
      rintro ⟨-, hwithin⟩
      exact hbeyond (hlimits.admits_iff.1 hwithin)
    rwa [hstays, ite_self] at hplaced

/-! ### Two texts -/

/-- A character of the second player. -/
def fighter (id : String) (power : Int) : Card :=
  { Game.member id .characterArea .active with
    face := { id := "C-02", name := "Fighter", category := .character, basePower := some power }
    owner := .two
    controller := .two }

/-- The first player faces a weak character and a strong one. -/
def standoff : Game where
  sides := [
    { player := .one, characters := [Game.member "c1" .characterArea .active] },
    { player := .two, characters := [fighter "weak" 5000, fighter "strong" 7000] }]

theorem distinct_standoff : standoff.Distinct where
  seatsOnce := by decide
  idsOnce := by decide

/-- A text that tells to K.O. weak characters. -/
def koText : String := "[On Play] K.O. up to 1 Character with 5000 power or less."

/-- A text that returns them. -/
def returnText : String := "[On Play] Return up to 1 Character with 5000 power or less to hand."

/-- The use of the first ability of a text on both of them. -/
def removing (text : String) : Invocation where
  ability := (abilities Rule.standard "c1" text).head?.getD default
  sourceId := "c1"
  controller := .one
  targets := [.card (some "strong"), .card (some "weak")]

/-- The game that this leaves, if it leaves one. -/
def afterRemoving (text : String) : Option Game :=
  (((ResolverTable.standard ⟨none, 1000⟩).resolve (removing text) standoff).outcome []).1.toOption

theorem mem_removing (hr : (abilities Rule.standard "c1" text).head?.isSome) :
    (removing text).ability ∈ abilities Rule.standard "c1" text := by
  obtain ⟨a, ha⟩ := Option.isSome_iff_exists.1 hr
  have hability : (removing text).ability = a := by
    change (abilities Rule.standard "c1" text).head?.getD default = a
    rw [ha]
    rfl
  rw [hability]
  exact List.mem_of_head? ha

/-- The strong character stays where it is when a text tells to K.O. weak ones. -/
theorem resolve_within_limits_standoff : ∃ h, afterRemoving koText = some h ∧
    ⟨.two, .characterArea, fighter "strong" 7000⟩ ∈ h.placed ∧
    (h.locate? "weak").map (·.zone) = some .trash := by
  have hmem : (removing koText).ability ∈ abilities Rule.standard "c1" koText :=
    mem_removing (by decide +kernel)
  have hprinted : (removing koText).ability.printed ∈ abilities Rule.standard "c1" koText :=
    (CardText.printed_of_mem hmem).symm ▸ hmem
  have hweak : ((afterRemoving koText).bind (·.locate? "weak")).map (·.zone) = some .trash := by
    decide +kernel
  cases hrun : (((ResolverTable.standard ⟨none, 1000⟩).resolve (removing koText)
      standoff).outcome []).1 with
  | error e =>
    rw [afterRemoving, hrun] at hweak
    cases hweak
  | ok h =>
    have hafter : afterRemoving koText = some h := by rw [afterRemoving, hrun]; rfl
    rw [hafter] at hweak
    obtain ⟨f, hf, -, hstays⟩ :=
      resolve_within_limits hprinted (by decide +kernel : _ = some Zone.trash) hrun
    refine ⟨h, hafter, hstays distinct_standoff _ ?_ ?_, hweak⟩
    · have hl : standoff.locate? "strong" =
          some ⟨.two, .characterArea, fighter "strong" 7000⟩ := rfl
      exact List.mem_of_find?_eq_some hl
    · have hrange : (removing koText).ability.parameters.targetFilter.bind (·.powerRange) =
          some (.atMost 5000) := by
        decide +kernel
      rw [hf] at hrange
      rintro ⟨-, hpower⟩
      have hmost := hpower (by decide +kernel) (.atMost 5000) hrange 5000 rfl
      revert hmost
      decide

/-- A text that returns weak characters returns the strong one. -/
theorem bounce_beyond_limit :
    (removing returnText).ability ∈ abilities Rule.standard "c1" returnText ∧
    (removing returnText).ability.kind = .bounceCharacter ∧
    (removing returnText).ability.parameters.targetFilter.bind (·.powerRange) =
      some (.atMost 5000) ∧
    (standoff.card? "strong").map (standoff.effectivePower ⟨none, 1000⟩) = some 7000 ∧
    ((afterRemoving returnText).bind (·.locate? "strong")).map (·.zone) = some .hand :=
  ⟨mem_removing (by decide +kernel), by decide +kernel, by decide +kernel, by decide +kernel,
    by decide +kernel⟩

end CardRules
