import CardRules.Proofs.CardText.Lasting
import CardRules.Proofs.Engine.Forfeit
import CardRules.Proofs.Resolver.Removal
import CardRules.Proofs.Target.Legal

/-!
# Accepted removals remove

Who activates a printed removal chooses its targets, and they are checked against its filter before
anything is paid. Nothing that happens between the check and the removal can save a target: the
payment spares what lies on the field (`payCost_of_affordable`), the condition outlasts it
(`conditionHolds_of_spares`), the limits of the ability admit what its filter admits, and no target
is in the way of another. So an accepted removal runs, and every character that it points at is gone
(`activate_removes`).

The one target that is passed over is a card whose id is empty, since an empty id names no card
(`activate_skips_unnamed`).
-/

namespace CardRules

open CardText (combined)

/-! ## Legal targets -/

/-- A card that was chosen as a legal target suits the filter. -/
theorem Target.suits_of_valid {g : Game} {bonus : DonBonus} {test : CardTest} {f : TargetFilter}
    {who : Player} {min max : Option Int} {targets : List Target} {id : String} {found : Placed}
    (hg : g.Distinct) (hv : valid g bonus test (some f) who min max targets)
    (ht : .card (some id) ∈ targets) (hl : g.locate? id = some found) :
    found.card.suits g bonus f := by
  obtain ⟨-, hlegal⟩ := (valid_iff hg.seatsOnce).1 hv
  obtain ⟨q, hq, hadmits, hid⟩ := hlegal (some id) (List.mem_filterMap.2 ⟨_, ht, rfl⟩)
  have hlq := (Game.locate?_eq_some_iff hg).2 ⟨hq, Option.some.inj hid⟩
  obtain rfl : found = q := Option.some.inj (hl.symm.trans hlq)
  exact (Card.fits_iff_suits.1 (Card.fits_iff.2 hadmits.card)).1

/-- A character that suits the filter is removed, whichever way a payment has turned it. -/
theorem Resolver.removed_turned {g paid : Game} {bonus : DonBonus} {kind : AbilityKind}
    {ps : Parameters} {f : TargetFilter} {dest : Zone} {q : Placed} (o : Orientation)
    (hlimits : CardText.Limits kind ps f) (hd : dest.isField = false)
    (hturn : paid.activePlayer = g.activePlayer) (hsuits : q.card.suits g bonus f)
    (hc : q.card.isCharacter) (hz : q.zone = .characterArea) (hzone : q.card.zone = q.zone) :
    (q.turned o).removed bonus dest ps paid =
      ⟨q.card.owner, dest, Game.arriving q.card .characterArea dest⟩ := by
  -- a payment changes neither what a card costs nor how strong it is
  have hpower : paid.effectivePower bonus (q.turned o).card = g.effectivePower bonus q.card := by
    rw [Game.effectivePower_congr hturn]
    rfl
  obtain ⟨hcost, hstrong⟩ := TargetFilter.admits_of_suits hsuits
  have hadmits : f.AdmitsPower bonus paid (q.turned o).card := by
    unfold TargetFilter.AdmitsPower
    rw [hpower]
    exact hstrong
  have hwithin : withinLimits bonus ps (q.turned o).card paid :=
    hlimits.admits_iff.2 ⟨hcost, fun _ => hadmits⟩
  have hcharacter : (q.turned o).card.isFieldCharacter := by
    have harea : (q.turned o).card.zone = .characterArea := hzone.trans hz
    unfold Card.isFieldCharacter
    rw [harea]
    simpa [Placed.turned, Card.isCharacter] using hc
  rw [removed_of_fits (by rw [hcharacter, hwithin]; rfl)]
  simp [Placed.landing, Placed.turned, Game.arriving, hd]

/-- A legal target is still there when the cost is paid, and gone when the removal is done. -/
theorem Resolver.locate?_of_removal {g paid k : Game} {i : Invocation} {bonus : DonBonus}
    {f : TargetFilter} {dest : Zone} {ids : List String} {id : String} {found : Placed}
    (hg : g.WellPlaced) (hs : g.Spares paid) (hp : paid.WellPlaced)
    (hlimits : CardText.Limits i.ability.kind i.ability.parameters f)
    (hd : dest.isField = false) (hrun : eachCard (removeCharacter bonus dest i) ids paid = .ok k)
    (hid : id ∈ ids) (hl : g.locate? id = some found) (hsuits : found.card.suits g bonus f)
    (hz : found.zone = .characterArea) (hc : found.card.isCharacter) :
    k.locate? id = some ⟨found.card.owner, dest, Game.arriving found.card .characterArea dest⟩ := by
  have hfound : found ∈ g.placed := List.mem_of_find?_eq_some hl
  obtain ⟨r, hr, hsame, -, hplace⟩ := hs.cards found hfound
  obtain ⟨o, rfl⟩ := hplace (by rw [hz]; decide)
  have hplaced := placed_eachCard hp.toDistinct hd hrun hr
  rw [if_pos (by rw [hsame, Game.id_of_locate? hl]; exact hid),
    removed_turned o hlimits hd hs.turn hsuits hc hz (hg.placed hfound).1] at hplaced
  have hfield : Game.FieldReaches paid k :=
    chain_eachCard (fun _ => fieldReaches_removeCharacter) hrun
  exact (Game.locate?_eq_some_iff (hfield.reaches.wellPlaced hp).toDistinct).2
    ⟨hplaced, by rw [Game.id_arriving, Game.id_of_locate? hl]⟩

namespace Engine

open Game (Pays WellPlaced)

variable {σ : Type} {host : Host σ} {e e₁ paid : Engine σ} {i : Invocation} {w : Wish} {c : Card}
  {a : Ability} {ran : Bool} {dest : Zone} {text cardId : String}

/-! ## What happens before the body runs -/

theorem obstacle_of_activate (hfind : e.find w = .ok (.ok (c, a)))
    (h : (activate host w e).1 = .ok ran) :
    ∃ e₁, obstacle w c a e = (.ok none, e₁) ∧ granted w e = some (wished w c a, e₁) := by
  unfold activate at h
  unfold granted
  rw [hfind] at h ⊢
  dsimp only at h ⊢
  split at h
  · cases h
  · cases h
  · rename_i e₁ ho
    exact ⟨e₁, ho, by rw [ho]⟩

theorem valid_of_targetObstacle {f : TargetFilter} (hf : a.parameters.targetFilter = some f)
    (hd : e.game.Distinct) (h : targetObstacle a i e = .ok none) :
    Target.valid e.game e.bonus e.answer.test (some f) i.controller a.parameters.minTargets
      a.parameters.maxTargets i.targets := by
  unfold targetObstacle at h
  rw [hf] at h
  split at h
  · cases h
  · obtain ⟨legal, hchecked, hlegal⟩ := ok_of_map h
    obtain ⟨rfl, -⟩ := (Target.check_eq_ok_iff hd.seatsOnce).1 hchecked
    by_contra hnot
    simp [hnot] at hlegal

/-- What can be paid is paid, and the payment spares the rest of the game. -/
theorem payCost_of_affordable (hg : e.game.WellPlaced) (h : (affordable i e).1 = .ok true) :
    ∃ paid, payCost i e = (.ok (), paid) ∧ Pays e.game paid.game := by
  rw [affordable_fst] at h
  unfold payCost
  cases hcost : i.ability.cost with
  | none => exact ⟨e, rfl, .refl⟩
  | some cost =>
    rw [hcost] at h
    have hnoted := noted_hosted (e := e) (e.replacements.applyCost cost (e.context i))
    dsimp only at h ⊢
    generalize e.hosted (e.replacements.applyCost cost (e.context i)) = done at h hnoted
    obtain ⟨f | replaced, e'⟩ := done
    · cases h
    · obtain ⟨g, hpay, hpays⟩ := Cost.pay_of_canPay hg h
      have hgame : e'.game = e.game := hnoted.game
      dsimp only
      rw [hgame, hpay]
      exact ⟨_, rfl, hpays⟩

/-- A condition made of lasting ones holds after a payment if it held before. -/
theorem conditionHolds_of_spares {cs : List Condition} (hcond : i.ability.condition = combined cs)
    (hc : ∀ c ∈ cs, c.Lasting) (hs : e.game.Spares paid.game) (hg : e.game.Sound)
    (hp : paid.game.Distinct) (h : (conditionHolds i e).1 = .ok true) :
    (conditionHolds i paid).1 = .ok true := by
  unfold conditionHolds at h ⊢
  cases hcombined : i.ability.condition with
  | none => rfl
  | some cond =>
    rw [hcombined] at h hcond
    exact eval_combined_of_spares hs hg hp hc hcond.symm h

/-- When nothing stands in the way of a use, its cost is paid, and lasting conditions still hold
then. -/
theorem ready_of_obstacle {cs : List Condition} (hg : e.game.WellPlaced) (hc : e.SteadyCosts)
    (hcond : a.condition = combined cs) (hcs : ∀ c ∈ cs, c.Lasting)
    (ho : obstacle w c a e = (.ok none, e₁)) :
    ∃ paid ready, payCost (wished w c a) e₁ = (.ok (), paid) ∧
      conditionHolds (wished w c a) paid = (.ok true, ready) ∧ Pays e.game paid.game ∧
      SamePlugs e paid := by
  obtain ⟨e₀, hholds, hpayable, -⟩ := asked_of_obstacle ho
  have hn₀ : Noted e e₀ := noted_of_conditionHolds hholds
  have hn₁ : Noted e e₁ := hn₀.trans (noted_of_affordable hpayable)
  have hpay : (affordable (wished w c a) e₁).1 = .ok true := by
    rw [affordable_again hc hn₁, ← affordable_again hc hn₀, hpayable]
  obtain ⟨paid, hpaid, hpays⟩ := payCost_of_affordable (hn₁.game ▸ hg) hpay
  rw [hn₁.game] at hpays
  have hstill : (conditionHolds (wished w c a) paid).1 = .ok true :=
    conditionHolds_of_spares hcond hcs (Game.Pays.spares hg hpays) hg.toSound
      ((Game.Pays.reaches hpays).wellPlaced hg).toDistinct (by rw [hholds])
  have hplugs := (paid_of_payCost hpaid).samePlugs
  generalize hready : conditionHolds (wished w c a) paid = asked at hstill
  obtain ⟨verdict, ready⟩ := asked
  cases hstill
  exact ⟨paid, ready, hpaid, hready, hpays, hn₁.samePlugs.trans hplugs⟩

theorem valid_of_obstacle {f : TargetFilter} (hf : a.parameters.targetFilter = some f)
    (hd : e.game.Distinct) (ho : obstacle w c a e = (.ok none, e₁)) :
    Target.valid e.game e.bonus e.answer.test (some f) (wished w c a).controller
      a.parameters.minTargets a.parameters.maxTargets w.targets := by
  obtain ⟨e₀, hholds, hpayable, htargets⟩ := asked_of_obstacle ho
  have hn : Noted e e₁ := (noted_of_conditionHolds hholds).trans (noted_of_affordable hpayable)
  rw [targetObstacle_again hn] at htargets
  exact valid_of_targetObstacle hf hd htargets

/-! ## The body -/

/-- A removal without a script is done by its resolver. -/
theorem runBody_removal {bonus : DonBonus} (hscript : i.ability.scriptId = none)
    (hz : i.ability.kind.removalZone? = some dest) (hr : e.resolvers = .standard bonus)
    (hg : e.game.Sound) : ∃ g e', runBody i e = (.ok g, e') ∧
      Resolver.eachCard (Resolver.removeCharacter bonus dest i) i.cardIds e.game = .ok g := by
  obtain ⟨g, hrun⟩ : ∃ g,
      Resolver.eachCard (Resolver.removeCharacter bonus dest i) i.cardIds e.game = .ok g :=
    Resolver.exists_eachCard hg (AbilityKind.fits_of_removalZone? hz)
  have hresolve : e.resolvers.resolve i e.game = Hosted.lift (.ok g) := by
    rw [hr, ResolverTable.resolve_removal hz, hrun]
  unfold runBody
  rw [hscript, hresolve]
  exact ⟨g, _, rfl, hrun⟩

/-- An accepted activation of a printed removal runs to its end. Every chosen character of a
character area, if it has an id, is afterwards where the removal sends it on the side of its
owner. -/
theorem activate_removes (hh : host.Only Reaction.LeavesGame) (hg : e.game.WellPlaced)
    (hr : e.resolvers = .standard e.bonus) (hb : e.KeepsBodies) (hc : e.SteadyCosts)
    (hfind : e.find w = .ok (.ok (c, a)))
    (hd : a.printed ∈ CardText.abilities CardText.Rule.standard cardId text)
    (hz : a.kind.removalZone? = some dest) (hok : (activate host w e).1 = .ok ran) :
    ∃ g, Concludes host w e true g (.resolved { wished w c a with resolved := true }) ∧
      ∀ id found, .card (some id) ∈ w.targets → id ≠ "" → e.game.locate? id = some found →
        found.zone = .characterArea → found.card.isCharacter →
        g.locate? id =
          some ⟨found.card.owner, dest, Game.arriving found.card .characterArea dest⟩ := by
  obtain ⟨e₁, hobstacle, hgranted⟩ := obstacle_of_activate hfind hok
  obtain ⟨cs, hcs, hlasting⟩ := CardText.lasting_of_mem hd
  obtain ⟨hscript, f, hlimits⟩ := CardText.limits_of_mem hd hz
  obtain ⟨paid, ready, hpaid, hready, hpays, hplugs⟩ :=
    ready_of_obstacle (a := a) hg hc hcs hlasting hobstacle
  have hpaidGame : paid.game.WellPlaced := (Game.Pays.reaches hpays).wellPlaced hg
  have hn : Noted paid ready := noted_of_conditionHolds hready
  have hresolvers : ready.resolvers = .standard e.bonus := by
    rw [hn.samePlugs.resolvers, hplugs.resolvers, hr]
  obtain ⟨g, e', hbody, hrun⟩ := runBody_removal (i := wished w c a) hscript hz hresolvers
    (hn.game.symm ▸ hpaidGame.toSound)
  rw [hn.game] at hrun
  refine ⟨g, concludes_ran hh hgranted (hplugs.keepsBodies hb) hpaid hready hbody, ?_⟩
  intro id found ht hid hl hzone hchar
  have hvalid := valid_of_obstacle (a := a) hlimits.filter hg.toDistinct hobstacle
  have hsuits := Target.suits_of_valid hg.toDistinct hvalid ht hl
  exact Resolver.locate?_of_removal hg (Game.Pays.spares hg hpays) hpaidGame hlimits
    (AbilityKind.isField_of_removalZone? hz) hrun (Invocation.mem_cardIds_iff.2 ⟨ht, hid⟩) hl hsuits
    hzone hchar

/-! ### A paid removal -/

/-- A text that tells to pay and to K.O. weak characters. -/
def huntText : String :=
  "[Activate: Main] Rest 1 DON!!: " ++
    "K.O. up to 2 of your opponent's Characters with 5000 power or less."

/-- A character with this text. -/
def hunter : Card :=
  let c := Game.member "c1" .characterArea .active
  { c with face := { c.face with
    abilities := CardText.abilities CardText.Rule.standard "c1" huntText } }

/-- It faces two characters, the second of which has an empty id. -/
def hunt : Game where
  sides := [
    { Game.openingSide with characters := [hunter] },
    { player := .two, characters := [fighter "weak" 5000, fighter "" 5000] }]

theorem wellPlaced_hunt : hunt.WellPlaced where
  present p := by cases p <;> decide
  seatsOnce := by decide
  idsOnce := by decide
  cards := by decide

def hunting : Engine Unit := { standard hunt with resolvers := .standard (standard hunt).bonus }

/-- The wish to K.O. both. -/
def hunted : Wish where
  cardId := "c1"
  effectId := "c1-effect-0"
  targets := [.card (some "weak"), .card (some "")]

theorem find_hunted : ∃ a, hunting.find hunted = .ok (.ok (hunter, a)) ∧
    a ∈ CardText.abilities CardText.Rule.standard "c1" huntText ∧
    a.kind.removalZone? = some .trash := by
  have hkind : (hunter.face.ability? "c1-effect-0").bind (·.kind.removalZone?) = some .trash := by
    decide +kernel
  obtain ⟨a, ha, hz⟩ := Option.bind_eq_some_iff.1 hkind
  refine ⟨a, ?_, List.mem_of_find?_eq_some ha, hz⟩
  have hcard : hunting.game.card? hunted.cardId = some hunter := rfl
  have hability : hunter.face.ability? hunted.effectId = some a := ha
  unfold find
  rw [hcard]
  dsimp only
  rw [hability]
  rfl

theorem activate_hunted : (activate .silent hunted hunting).1 = .ok true := by
  have hok : (activate .silent hunted hunting).1.toOption = some true := by decide +kernel
  cases hran : (activate .silent hunted hunting).1 with
  | error f =>
    rw [hran] at hok
    cases hok
  | ok ran =>
    rw [hran] at hok
    exact congrArg Except.ok (Option.some.inj hok)

/-- The removal is accepted with both targets, and the first one goes to the trash. -/
theorem activate_removes_hunted : (activate .silent hunted hunting).1 = .ok true ∧
    (activate .silent hunted hunting).2.game.locate? "weak" =
      some ⟨.two, .trash, Game.arriving (fighter "weak" 5000) .characterArea .trash⟩ := by
  obtain ⟨a, hfind, hmem, hz⟩ := find_hunted
  obtain ⟨g, ⟨hran, hgame, -⟩, hgone⟩ := activate_removes (Host.only_silent _) wellPlaced_hunt rfl
    (fun r hr => by cases hr) (fun r hr => by cases hr) hfind
    ((CardText.printed_of_mem hmem).symm ▸ hmem) hz activate_hunted
  refine ⟨hran, ?_⟩
  rw [hgame]
  exact hgone "weak" ⟨.two, .characterArea, fighter "weak" 5000⟩ List.mem_cons_self (by decide) rfl
    rfl rfl

/-- The second target is a legal one as well, but it stays in the character area. -/
theorem activate_skips_unnamed : hunting.game.WellPlaced ∧
    hunting.resolvers = .standard hunting.bonus ∧
    (∃ a, hunting.find hunted = .ok (.ok (hunter, a)) ∧
      a ∈ CardText.abilities CardText.Rule.standard "c1" huntText ∧
      a.kind.removalZone? = some .trash) ∧
    .card (some "") ∈ hunted.targets ∧
    (hunting.game.locate? "").map (fun q => (q.zone, q.card.isCharacter)) =
      some (.characterArea, true) ∧
    (activate .silent hunted hunting).1 = .ok true ∧
    ((activate .silent hunted hunting).2.game.locate? "").map (·.zone) = some .characterArea :=
  ⟨wellPlaced_hunt, rfl, find_hunted, by simp [hunted], by decide +kernel, activate_hunted,
    by decide +kernel⟩

end Engine

end CardRules
