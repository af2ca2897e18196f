import CardRules.Proofs.Game.Edits
import CardRules.Proofs.Game.Placement
import CardRules.Proofs.Game.Reach
import CardRules.Target.Legal
import Mathlib.Data.List.Count

/-!
# Changes in place

Modifiers are put on cards and characters are turned where they lie. Such an `Alteration` done `n`
times to a card is known in closed form (`Alteration.times`), and doing it to one target after the
other does it to each card as often as the targets mention it (`Alteration.exists_eachCard`). So the
order of the targets does not matter, and a character is turned once and for all
(`resolve_in_place`).
-/

namespace CardRules

open Game (FieldReaches FieldStep)

/-! ## Alterations -/

/-- What an ability does to a card that it aims at, where it lies. -/
inductive Alteration where
  /-- Puts a modifier on the card. -/
  | modify (m : Modifier)
  /-- Turns the card, if it is a character in a character area. -/
  | turn (o : Orientation)

namespace Alteration

variable {a : Alteration} {g h : Game} {c : Card} {ids : List String}

/-- The card when it has been altered some number of times. -/
def times (a : Alteration) (n : Nat) (c : Card) : Card :=
  match a with
  | modify m => { c with modifiers := c.modifiers ++ List.replicate n m }
  | turn o => if 0 < n ∧ c.isFieldCharacter then { c with orientation := o } else c

/-- Alters a card as it then stands. -/
def treat (a : Alteration) (c : Card) (g : Game) : Except Fault Game :=
  match a with
  | modify m => g.addModifier c.id m
  | turn o => Resolver.orient o c g

@[simp] theorem id_times (a : Alteration) (n : Nat) (c : Card) : (a.times n c).id = c.id := by
  cases a with
  | modify m => rfl
  | turn o =>
    simp only [times]
    split <;> rfl

@[simp] theorem times_zero (a : Alteration) (c : Card) : a.times 0 c = c := by
  cases a <;> simp [times]

theorem times_add (a : Alteration) (m n : Nat) (c : Card) :
    a.times n (a.times m c) = a.times (m + n) c := by
  cases a with
  | modify modifier => simp [times]
  | turn o =>
    by_cases hc : c.isFieldCharacter
    · rcases Nat.eq_zero_or_pos m with rfl | hm
      · simp
      · have hturned : (turn o).times m c = { c with orientation := o } := if_pos ⟨hm, hc⟩
        rw [hturned]
        simp [times, hc, hm]
    · simp [times, hc]

/-! ## One target -/

theorem fieldReaches_treat (hc : g.card? c.id = some c) (ht : a.treat c g = .ok h) :
    FieldReaches g h := by
  cases a with
  | modify m => exact (FieldStep.modify ht).reaches
  | turn o => exact Resolver.fieldReaches_orient hc ht

/-- A card that is found is altered once, and nothing else happens. -/
theorem exists_treat (a : Alteration) (hg : g.Distinct) (hc : g.card? c.id = some c) :
    ∃ h, a.treat c g = .ok h ∧ g.Edited h [] (.change c.id (a.times 1)) := by
  obtain ⟨found, hl, -⟩ := Option.map_eq_some_iff.1 hc
  cases a with
  | modify m =>
    obtain ⟨h, hu⟩ := Game.exists_updateCard (f := (modify m).times 1) hg hl
    exact ⟨h, hu, Game.edited_updateCard hg hu⟩
  | turn o =>
    simp only [treat, Resolver.orient]
    split
    · rename_i hturns
      rw [Bool.and_eq_true] at hturns
      obtain ⟨h, hu⟩ := Game.exists_updateCard (f := fun d => { d with orientation := o }) hg hl
      refine ⟨h, hu, (Game.edited_updateCard hg hu).change_congr hg hc ?_⟩
      simp [times, hturns.1]
    · rename_i hlies
      refine ⟨g, rfl, Game.edited_change_self hg hc ?_⟩
      simp only [times]
      split
      · rename_i hcharacter
        obtain rfl : c.orientation = o := by simpa [hcharacter.2] using hlies
        rfl
      · rfl

/-! ## All targets -/

/-- Altering one card after the other alters each as often as it is mentioned; who is not there is
passed over. -/
theorem exists_eachCard (a : Alteration) (ids : List String) (hg : g.Distinct) :
    ∃ h, Resolver.eachCard a.treat ids g = .ok h ∧
      g.Edited h [] fun _ _ cards => cards.map fun c => a.times (ids.count c.id) c := by
  induction ids generalizing g with
  | nil =>
    refine ⟨g, rfl, (Game.Edited.refl g).congr fun p s hs zone => ?_⟩
    simp [Edit.keep]
  | cons id rest ih =>
    rw [Resolver.eachCard]
    cases hc : g.card? id with
    | none =>
      obtain ⟨h, hrun, he⟩ := ih hg
      refine ⟨h, hrun, he.congr fun p s hs zone => List.map_congr_left fun c hmem => ?_⟩
      have hother : id ≠ c.id := by
        rintro rfl
        rw [Game.card?, Game.locate?_of_mem zone hg hs (Side.mem_ofCards_of_mem hmem) hmem] at hc
        cases hc
      rw [List.count_cons_of_ne hother]
    | some c =>
      obtain rfl := Game.id_of_card? hc
      obtain ⟨g₁, htreat, hfirst⟩ := exists_treat a hg hc
      have hg₁ : g₁.Distinct :=
        hg.of_sameRoster ((fieldReaches_treat hc htreat).reaches.sameRoster hg)
      obtain ⟨h, hrun, hrest⟩ := ih hg₁
      refine ⟨h, by dsimp only; rw [htreat, ok_bind, hrun], ?_⟩
      refine (hfirst.trans hrest).congr fun p s hs zone => ?_
      rw [Edit.change, List.map_map]
      refine List.map_congr_left fun d _ => ?_
      by_cases hid : d.id = c.id
      · simp [hid, times_add, Nat.add_comm]
      · simp [hid, List.count_cons_of_ne (Ne.symm hid)]

/-- A card that is as it should be is not touched, so the game stays the very same. -/
theorem eachCard_self {treat : Card → Game → Except Fault Game}
    (hs : ∀ id ∈ ids, ∀ c, g.card? id = some c → treat c g = .ok g) :
    Resolver.eachCard treat ids g = .ok g := by
  induction ids with
  | nil => rfl
  | cons id rest ih =>
    have hrest := ih fun other hother => hs other (List.mem_cons_of_mem id hother)
    rw [Resolver.eachCard]
    cases hc : g.card? id with
    | none => exact hrest
    | some c =>
      dsimp only
      rw [hs id List.mem_cons_self c hc, ok_bind, hrest]

@[simp] theorem isFieldCharacter_times (a : Alteration) (n : Nat) (c : Card) :
    (a.times n c).isFieldCharacter = c.isFieldCharacter := by
  cases a with
  | modify m => rfl
  | turn o =>
    simp only [times]
    split <;> rfl

/-- To turn a card changes its orientation at most. -/
theorem times_turn (o : Orientation) (n : Nat) (c : Card) :
    (turn o).times n c = { c with orientation := ((turn o).times n c).orientation } := by
  simp only [times]
  split <;> rfl

/-- A character lies as it should when it has been turned, or did so before. -/
theorem orientation_turn {o : Orientation} {n : Nat} :
    ((turn o).times n c).orientation = o ↔ (0 < n ∧ c.isFieldCharacter) ∨ c.orientation = o := by
  simp only [times]
  split
  · rename_i hturned
    simp [hturned]
  · rename_i hkept
    rw [or_iff_right hkept]

end Alteration

/-! ## The four resolvers -/

namespace Invocation

variable {i : Invocation} {a : Alteration}

/-- The modifier that the ability puts on cards. -/
def lasting (i : Invocation) (kind : ModifierKind) (value : ModifierValue) : Modifier :=
  ⟨kind, value, i.ability.parameters.duration.getD .permanent, i.sourceId⟩

/-- How the ability alters its targets, if it leaves them in their place. -/
def alteration? (i : Invocation) : Option Alteration :=
  match i.ability.kind with
  | .powerModification =>
    i.ability.parameters.powerChange.map fun n => .modify (i.lasting .power (.amount n))
  | .grantKeyword =>
    if Resolver.grantedKeyword i = "" then none
    else some (.modify (i.lasting .keyword (.word (Resolver.grantedKeyword i))))
  | .restCharacter => some (.turn .rested)
  | .activateCharacter => some (.turn .active)
  | _ => none

/-- How often a card is mentioned among the card targets. -/
def mentions (i : Invocation) (id : String) : Nat := (Target.chosenCards i.targets).count (some id)

theorem count_cardIds {id : String} (hid : id ≠ "") : i.cardIds.count id = i.mentions id := by
  unfold cardIds mentions
  induction i.targets with
  | nil => rfl
  | cons t rest ih =>
    cases t with
    | player _ | zone _ _ | value _ => exact ih
    | card named =>
      have hchosen : Target.chosenCards (.card named :: rest) =
          named :: Target.chosenCards rest := rfl
      rw [hchosen, List.count_cons, ← ih]
      cases named with
      | none => rfl
      | some word =>
        by_cases hempty : word = ""
        · rw [List.filterMap_cons_none (by simp [Target.cardId?, hempty])]
          simp [hempty, Ne.symm hid]
        · rw [List.filterMap_cons_some (b := word) (by simp [Target.cardId?, hempty]),
            List.count_cons]
          simp

end Invocation

namespace ResolverTable

variable {bonus : DonBonus} {i : Invocation} {a : Alteration} {g h : Game} {journal : Journal}

theorem accepts_grantKeyword :
    Resolver.grantKeyword.accepts i ↔ Resolver.grantedKeyword i ≠ "" := by
  unfold Resolver.grantKeyword Resolver.onCards
  dsimp only
  exact bne_iff_ne

theorem exists_alteration (hk : i.ability.kind ∈ [.powerModification, .grantKeyword,
    .restCharacter, .activateCharacter]) (ha : (standard bonus).accepts i) :
    ∃ a, i.alteration? = some a := by
  simp only [List.mem_cons, List.not_mem_nil, or_false] at hk
  unfold Invocation.alteration?
  rcases hk with hk | hk | hk | hk
  · have hr : (standard bonus).get? i.ability.kind = some .powerModification := by rw [hk]; rfl
    rw [accepts_of_get? hr] at ha
    obtain ⟨n, hn⟩ : ∃ n, i.ability.parameters.powerChange = some n := Option.isSome_iff_exists.1 ha
    rw [hk, hn]
    exact ⟨_, rfl⟩
  · have hr : (standard bonus).get? i.ability.kind = some .grantKeyword := by rw [hk]; rfl
    rw [accepts_of_get? hr, accepts_grantKeyword] at ha
    rw [hk]
    exact ⟨_, if_neg ha⟩
  · rw [hk]
    exact ⟨_, rfl⟩
  · rw [hk]
    exact ⟨_, rfl⟩

/-- The resolver alters the cards that the targets name, one after the other. -/
theorem resolve_alteration (ha : i.alteration? = some a) :
    (standard bonus).resolve i g =
      Hosted.lift (Resolver.eachCard a.treat i.cardIds g) := by
  unfold Invocation.alteration? at ha
  cases hk : i.ability.kind <;> rw [hk] at ha
  case powerModification =>
    obtain ⟨n, hn, rfl⟩ := Option.map_eq_some_iff.1 ha
    have hr : (standard bonus).get? i.ability.kind = some .powerModification := by rw [hk]; rfl
    have haccepts : i.ability.parameters.powerChange.isSome := by rw [hn]; rfl
    have hvalue : i.ability.parameters.powerChange.getD 0 = n := by rw [hn]; rfl
    rw [resolve_of_get? hr haccepts, ← hvalue]
    rfl
  case grantKeyword =>
    obtain ⟨hword, ha⟩ := Option.ite_none_left_eq_some.1 ha
    cases ha
    have hr : (standard bonus).get? i.ability.kind = some .grantKeyword := by rw [hk]; rfl
    rw [resolve_of_get? hr (accepts_grantKeyword.2 hword)]
    rfl
  case restCharacter =>
    cases ha
    have hr : (standard bonus).get? i.ability.kind = some .restCharacter := by rw [hk]; rfl
    exact resolve_of_get? hr rfl
  case activateCharacter =>
    cases ha
    have hr : (standard bonus).get? i.ability.kind = some .activateCharacter := by rw [hk]; rfl
    exact resolve_of_get? hr rfl
  all_goals cases ha

/-- The resolver alters each card as often as the targets mention it. -/
theorem exists_resolve_alteration (bonus : DonBonus) (journal : Journal) (hg : g.Distinct)
    (hids : ∀ q ∈ g.placed, q.card.id ≠ "") (ha : i.alteration? = some a) :
    ∃ h, ((standard bonus).resolve i g).outcome journal = (.ok h, journal) ∧
      g.Edited h [] fun _ _ cards => cards.map fun c => a.times (i.mentions c.id) c := by
  obtain ⟨h, hrun, he⟩ := Alteration.exists_eachCard a i.cardIds hg
  refine ⟨h, by rw [resolve_alteration ha, Hosted.outcome_lift, hrun], ?_⟩
  refine he.congr fun p s hs zone => List.map_congr_left fun c hc => ?_
  have hplaced : (⟨p, zone, c⟩ : Placed) ∈ g.placed :=
    (Game.mem_placed_iff hg.seatsOnce).2 ⟨s, hs, Side.mem_ofCards_of_mem hc, hc⟩
  rw [Invocation.count_cardIds (hids _ hplaced)]

/-- Characters that have been turned are not turned again. -/
theorem resolve_turned {o : Orientation} (hn : g.seats.Nodup)
    (hids : ∀ q ∈ g.placed, q.card.id ≠ "") (ha : i.alteration? = some (.turn o))
    (he : g.Edited h [] fun _ _ cards => cards.map fun c =>
      (Alteration.turn o).times (i.mentions c.id) c) :
    ((standard bonus).resolve i h).outcome journal = (.ok h, journal) := by
  have hself : Resolver.eachCard (Alteration.turn o).treat i.cardIds h = .ok h := by
    refine Alteration.eachCard_self fun id hid c hc => ?_
    obtain ⟨q, hl, rfl⟩ := Option.map_eq_some_iff.1 hc
    obtain ⟨r, hr, rfl⟩ := (he.mem_placed_map hn).1 (List.mem_of_find?_eq_some hl)
    obtain rfl : r.card.id = id := by simpa using Game.id_of_locate? hl
    have hmentioned : 0 < i.mentions r.card.id := by
      rw [← Invocation.count_cardIds (hids r hr)]
      exact List.count_pos_iff.2 hid
    refine if_neg fun hturns => ?_
    simp only [Alteration.isFieldCharacter_times, Bool.and_eq_true, bne_iff_ne] at hturns
    exact hturns.2 (Alteration.orientation_turn.2 (.inl ⟨hmentioned, hturns.1⟩))
  rw [resolve_alteration ha, Hosted.outcome_lift, hself]

end ResolverTable

open ResolverTable

/-- **Changes in place, exactly.** Where cards have names and say where they lie, an accepted use of
a resolver that puts modifiers on its targets, or turns them, always goes through and writes nothing
down. It does to each card what the ability says as often as the card is mentioned among the card
targets, and nothing else in the game changes; targets that are not there or are no cards are passed
over. In any other order the targets give the same table. So each card gets one modifier for each
mention. A card lies as it was to be turned exactly when it is a character in a character area that
is mentioned, or lay so before, and to turn the targets again leaves the very same game. -/
theorem resolve_in_place {g : Game} {i : Invocation} (bonus : DonBonus) (journal : Journal)
    (hg : g.Distinct) (hids : ∀ q ∈ g.placed, q.card.id ≠ "")
    (hzones : ∀ q ∈ g.placed, q.card.zone = q.zone)
    (hk : i.ability.kind ∈ [.powerModification, .grantKeyword, .restCharacter, .activateCharacter])
    (haccepts : (standard bonus).accepts i) :
    ∃ a h, i.alteration? = some a ∧
      ((standard bonus).resolve i g).outcome journal = (.ok h, journal) ∧
      (g.Edited h [] fun _ _ cards => cards.map fun c => a.times (i.mentions c.id) c) ∧
      (∀ others : List Target, others.Perm i.targets →
        ∃ k, ((standard bonus).resolve { i with targets := others } g).outcome journal =
          (.ok k, journal) ∧ k.toTable = h.toTable) ∧
      (∀ m, a = .modify m → ∀ q ∈ g.placed,
        { q with card := { q.card with
          modifiers := q.card.modifiers ++ List.replicate (i.mentions q.card.id) m } } ∈ h.placed) ∧
      ∀ o, a = .turn o →
        (∀ q ∈ g.placed, ∃ lies,
          { q with card := { q.card with orientation := lies } } ∈ h.placed ∧
          (lies = o ↔ (0 < i.mentions q.card.id ∧ q.card.isCharacter ∧ q.zone = .characterArea) ∨
            q.card.orientation = o)) ∧
        ∀ others : List Target, others.Perm i.targets →
          ((standard bonus).resolve { i with targets := others } h).outcome journal =
            (.ok h, journal) := by
  obtain ⟨a, ha⟩ := exists_alteration hk haccepts
  obtain ⟨h, hrun, he⟩ := exists_resolve_alteration bonus journal hg hids ha
  have hmentions : ∀ others : List Target, others.Perm i.targets →
      ({ i with targets := others } : Invocation).mentions = i.mentions := fun others hperm => by
    funext id
    exact (hperm.filterMap _).count_eq (some id)
  refine ⟨a, h, ha, hrun, he, fun others hperm => ?_, ?_, ?_⟩
  · obtain ⟨k, hk, hek⟩ := exists_resolve_alteration (i := { i with targets := others })
      bonus journal hg hids ha
    rw [hmentions others hperm] at hek
    exact ⟨k, hk, hek.toTable_eq hg.seatsOnce he⟩
  · rintro m rfl q hq
    exact (he.mem_placed_map hg.seatsOnce).2 ⟨q, hq, rfl⟩
  · rintro o rfl
    refine ⟨fun q hq => ?_, fun others hperm => ?_⟩
    · refine ⟨((Alteration.turn o).times (i.mentions q.card.id) q.card).orientation,
        (he.mem_placed_map hg.seatsOnce).2 ⟨q, hq, ?_⟩, ?_⟩
      · rw [← Alteration.times_turn]
      · rw [Alteration.orientation_turn, Card.isFieldCharacter, hzones q hq]
        simp
    · refine resolve_turned (i := { i with targets := others }) hg.seatsOnce hids ha ?_
      rwa [hmentions others hperm]

/-- A character that is mentioned twice, with a player, and with a card that is not there. -/
def cheering (kind : AbilityKind) : Invocation where
  ability := { (default : Ability) with kind := kind, parameters := { powerChange := some 1000 } }
  sourceId := "c1"
  controller := .one
  targets := [.card (some "c1"), .player (some .two), .card (some "nobody"), .card (some "c1")]

/-- The character gets two modifiers, or is rested and then left alone. -/
theorem resolve_in_place_contested :
    Game.contested.Distinct ∧ (∀ q ∈ Game.contested.placed, q.card.id ≠ "") ∧
    (∀ q ∈ Game.contested.placed, q.card.zone = q.zone) ∧
    (standard ⟨none, 1000⟩).accepts (cheering .powerModification) ∧
    (∃ h, ((standard ⟨none, 1000⟩).resolve (cheering .powerModification)
        Game.contested).outcome [] = (.ok h, []) ∧
      ⟨.one, .characterArea, { Game.member "c1" .characterArea .active with
        modifiers := List.replicate 2 ⟨.power, .amount 1000, .permanent, "c1"⟩ }⟩ ∈ h.placed) ∧
    ∃ h, ((standard ⟨none, 1000⟩).resolve (cheering .restCharacter)
        Game.contested).outcome [] = (.ok h, []) ∧
      ((standard ⟨none, 1000⟩).resolve (cheering .restCharacter) h).outcome [] = (.ok h, []) := by
  have hg : Game.contested.Distinct := Game.tidy_contested.toDistinct
  have hids : ∀ q ∈ Game.contested.placed, q.card.id ≠ "" := by decide
  have hzones : ∀ q ∈ Game.contested.placed, q.card.zone = q.zone := by decide
  have hl : Game.contested.locate? "c1" = some _ := rfl
  obtain ⟨a, h, ha, hrun, -, -, hmodified, -⟩ := resolve_in_place (i := cheering .powerModification)
    ⟨none, 1000⟩ [] hg hids hzones (by decide) rfl
  obtain ⟨a', h', ha', hrun', -, -, -, hturned⟩ := resolve_in_place (i := cheering .restCharacter)
    ⟨none, 1000⟩ [] hg hids hzones (by decide) rfl
  refine ⟨hg, hids, hzones, rfl, ⟨h, hrun, ?_⟩, h', hrun', ?_⟩
  · exact hmodified _ (Option.some.inj ha).symm _ (List.mem_of_find?_eq_some hl)
  · exact (hturned .rested (Option.some.inj ha').symm).2 _ (.refl _)

end CardRules
