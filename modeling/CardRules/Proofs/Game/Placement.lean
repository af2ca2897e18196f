import Mathlib
import CardRules.Proofs.Engine.Run

/-!
# What lies where

A `Game.Rule` says what may lie in the zones of a player: which cards, and which DON!! in the cost
area. A rule is `Kept` when it survives what a step does to one card or one DON!!; a game that
obeys a kept rule obeys it after every run (`Reaches.obeys`). A rule that survives turns on the
field only holds as long as nothing else is turned (`FieldReaches.obeys`).

One kept rule is that of a `Tidy` game: every card lies where it says, on the field with its
controller, and elsewhere with its owner and without DON!!.
-/

namespace CardRules

namespace Game

variable {g h k : Game} {s t : Side} {p : Player} {id : String}

/-! ## Rules -/

/-- What may lie in the zones of a player. -/
structure Rule where
  card : Player → Zone → Card → Prop
  don : Player → Don → Prop

/-- Everything on a side lies there by the rule. -/
structure Rule.OnSide (r : Rule) (s : Side) : Prop where
  cards : ∀ zone ∈ Zone.ofCards, ∀ c ∈ s.cards zone, r.card s.player zone c
  dons : ∀ d ∈ s.costArea, r.don s.player d

/-- Everything in the game lies there by the rule. -/
def Obeys (g : Game) (r : Rule) : Prop := ∀ s ∈ g.sides, r.OnSide s

/-- The rule survives each change that a step makes to a card or to a DON!!, turns apart. -/
structure Rule.Stable (r : Rule) : Prop where
  modify : ∀ {p zone c} (m : Modifier), r.card p zone c →
    r.card p zone { c with modifiers := c.modifiers ++ [m] }
  give : ∀ {p zone c} {dons : List Don}, r.card p zone c → Resolver.takesDon c →
    (∀ d ∈ dons, r.don c.controller d) → r.card p zone (c.take dons)
  arrive : ∀ {p origin c} (dest : Zone), r.card p origin c →
    r.card (if dest.isField then c.controller else c.owner) dest (arriving c origin dest)
  rest : ∀ {p d}, r.don p d → r.don p { d with orientation := .rested }
  back : ∀ {p origin c d}, r.card p origin c → origin.isField → d ∈ c.givenDon →
    r.don d.owner { d with zone := .costArea, orientation := .rested }

/-- The rule survives turns as well. -/
structure Rule.Kept (r : Rule) : Prop extends Rule.Stable r where
  orient : ∀ {p zone c} (o : Orientation), r.card p zone c →
    r.card p zone { c with orientation := o }

/-- The rule survives turns of cards that lie on the field or say they do. -/
structure Rule.KeptOnField (r : Rule) : Prop extends Rule.Stable r where
  turn : ∀ {p zone c} (o : Orientation), zone.isField ∨ c.onField → r.card p zone c →
    r.card p zone { c with orientation := o }

theorem Rule.Kept.onField {r : Rule} (hr : r.Kept) : r.KeptOnField :=
  ⟨hr.toStable, fun o _ hc => hr.orient o hc⟩

variable {r : Rule}

theorem Rule.OnSide.putCards {zone : Zone} {cards : List Card} (hs : r.OnSide s)
    (hf : Side.fits zone cards.length) (hc : ∀ c ∈ cards, r.card s.player zone c) :
    r.OnSide (s.putCards zone cards) := by
  refine ⟨fun other hz c hmem => ?_, by simpa using hs.dons⟩
  rw [Side.player_putCards]
  by_cases hother : other = zone
  · subst hother
    rw [Side.cards_putCards hf] at hmem
    exact hc c hmem
  · rw [Side.cards_putCards_of_ne hother] at hmem
    exact hs.cards other hz c hmem

theorem obeys_setSide (hg : g.Obeys r) (hs : r.OnSide s) : (g.setSide s).Obeys r := by
  intro t ht
  unfold setSide at ht
  dsimp only at ht
  split at ht
  · obtain ⟨u, hu, rfl⟩ := List.mem_map.1 ht
    split
    · exact hs
    · exact hg u hu
  · rcases List.mem_append.1 ht with ht | ht
    · exact hg t ht
    · obtain rfl := List.mem_singleton.1 ht
      exact hs

theorem Obeys.onSide (hg : g.Obeys r) (hs : g.side? p = some s) : r.OnSide s :=
  hg s (mem_of_side? hs)

/-- A card is found where it lies by the rule. -/
theorem Obeys.located {found : Placed} (hg : g.Obeys r) (hl : g.locate? id = some found) :
    r.card found.player found.zone found.card := by
  obtain ⟨s, hs, hp, hz, hc⟩ := mem_placed.1 (List.mem_of_find?_eq_some hl)
  rw [← hp]
  exact (hg s hs).cards _ hz _ hc

/-! ## Steps -/

theorem obeys_updateCard {f : Card → Card} (hg : g.Obeys r)
    (hf : ∀ found, g.locate? id = some found →
      r.card found.player found.zone (f found.card))
    (h : g.updateCard id f = .ok k) : k.Obeys r := by
  obtain ⟨found, s, cards, hl, hs, rfl, hfits, rfl⟩ := updateCard_cases h
  refine obeys_setSide hg ((hg.onSide hs).putCards hfits fun c hc => ?_)
  rw [player_of_side? hs]
  obtain ⟨d, hd, rfl⟩ := List.mem_map.1 hc
  split
  · exact hf found hl
  · rw [← player_of_side? hs]
    exact (hg.onSide hs).cards _ (Side.mem_ofCards_of_fits hfits) d hd

theorem obeys_returnDon {dons : List Don} (hg : g.Obeys r)
    (hd : ∀ d ∈ dons, r.don d.owner { d with zone := .costArea, orientation := .rested })
    (h : g.returnDon dons = .ok k) : k.Obeys r := by
  induction dons generalizing g with
  | nil => cases h; exact hg
  | cons d rest ih =>
    obtain ⟨s, hs, h⟩ := returnDon_cases h
    have hside := hg.onSide hs
    have hrest : ∀ e ∈ rest, r.don e.owner { e with zone := .costArea, orientation := .rested } :=
      fun e he => hd e (List.mem_cons_of_mem _ he)
    refine ih (obeys_setSide hg (s := s.regain d) ⟨hside.cards, fun e he => ?_⟩) hrest h
    rcases List.mem_append.1 he with he | he
    · exact hside.dons e he
    · obtain rfl := List.mem_singleton.1 he
      have hback := hd d List.mem_cons_self
      have hp : (s.regain d).player = d.owner := player_of_side? (s := s) hs
      simpa only [hp] using hback

theorem obeys_releaseDon {c : Card} {origin dest : Zone} (hr : r.Stable) (hg : g.Obeys r)
    (hc : r.card p origin c) (h : g.releaseDon c origin dest = .ok k) : k.Obeys r := by
  unfold releaseDon at h
  split at h
  · rename_i hleaves
    have hfield : origin.isField := by
      rw [Bool.and_eq_true] at hleaves
      exact hleaves.1
    exact obeys_returnDon hg (fun d hd => hr.back hc hfield hd) h
  · cases h; exact hg

theorem obeys_moveCard {dest : Zone} {toBottom : Bool} (hr : r.Stable) (hg : g.Obeys r)
    (h : g.moveCard id dest toBottom = .ok k) : k.Obeys r := by
  obtain ⟨found, holder, released, receiver, hl, hs, hf, hdon, hreceiver, cards, hcards, hf', rfl⟩ :=
    moveCard_cases h
  have hcard := hg.located hl
  have hholder := hg.onSide hs
  have htaken := obeys_setSide hg (hholder.putCards hf fun c hc =>
    hholder.cards _ (Side.mem_ofCards_of_fits hf) c (List.mem_filter.1 hc).1)
  have hreleased := obeys_releaseDon hr htaken hcard hdon
  have hplace := hreleased.onSide hreceiver
  refine obeys_setSide hreleased (hplace.putCards hf' fun c hc => ?_)
  have hmem : c = arriving found.card found.zone dest ∨ c ∈ receiver.cards dest := by
    rcases hcards with rfl | rfl <;> simpa [or_comm] using hc
  rcases hmem with rfl | hmem
  · rw [player_of_side? hreceiver]
    exact hr.arrive dest hcard
  · exact hplace.cards _ (Side.mem_ofCards_of_fits hf') c hmem

theorem obeys_restDon {amount : Int} (hr : r.Stable) (hg : g.Obeys r)
    (h : g.restDon p amount = .ok k) : k.Obeys r := by
  obtain ⟨s, ids, hs, rfl⟩ := restDon_cases h
  have hside := hg.onSide hs
  refine obeys_setSide hg ⟨hside.cards, fun d hd => ?_⟩
  obtain ⟨e, he, rfl⟩ := List.mem_map.1 hd
  split
  · exact hr.rest (hside.dons e he)
  · exact hside.dons e he

/-- A new side with the same cards leaves every card where it was. -/
theorem placed_setSide (hn : g.seats.Nodup) (hs : g.side? t.player = some s)
    (hc : ∀ zone, t.cards zone = s.cards zone) : (g.setSide t).placed = g.placed := by
  simp only [placed, List.flatMap_def]
  congr 1
  refine map_setSide hn hs ?_
  simp only [hc, player_of_side? hs]

theorem obeys_attachDon {c : Card} {amount : Int} {n : Nat} (hr : r.Stable) (hn : g.seats.Nodup)
    (hg : g.Obeys r) (hc : g.card? c.id = some c) (ht : Resolver.takesDon c)
    (h : g.attachDon c.controller c.id amount = .ok (k, n)) : k.Obeys r := by
  obtain rfl | ⟨s, chosen, hs, hfirst, hk⟩ := attachDon_cases h
  · exact hg
  · have hside := hg.onSide hs
    have hchosen : ∀ d ∈ chosen, r.don c.controller d := by
      intro d hd
      rw [← player_of_side? hs]
      exact hside.dons d ((donOrder_perm _).mem_iff.1 (hfirst.subset hd))
    have hspent : r.OnSide (s.spend chosen) :=
      ⟨hside.cards, fun d hd => hside.dons d (List.mem_filter.1 hd).1⟩
    refine obeys_updateCard (obeys_setSide hg hspent) (fun found hl => ?_) hk
    -- The card is still found where it lay: only the cost area has changed.
    have hseat : g.side? (s.spend chosen).player = some s := side?_player hs
    rw [locate?, placed_setSide hn hseat fun _ => rfl] at hl
    have hfound : found.card = c := by
      have hcard : (g.locate? c.id).map (·.card) = some c := hc
      rw [locate?, hl] at hcard
      exact Option.some.inj hcard
    have hlies := hg.located hl
    rw [hfound] at hlies ⊢
    exact hr.give hlies ht hchosen

theorem FieldStep.obeys (hr : r.KeptOnField) (hn : g.seats.Nodup) (h₁ : FieldStep g h)
    (hg : g.Obeys r) : h.Obeys r := by
  cases h₁ with
  | move h₁ => exact obeys_moveCard hr.toStable hg h₁
  | @turn found _ _ hl hfield h₁ =>
    refine obeys_updateCard hg (fun found' hl' => ?_) h₁
    obtain rfl : found = found' := Option.some.inj (hl.symm.trans hl')
    exact hr.turn _ hfield (hg.located hl)
  | modify h₁ => exact obeys_updateCard hg (fun _ hl => hr.modify _ (hg.located hl)) h₁
  | restDon h₁ => exact obeys_restDon hr.toStable hg h₁
  | giveDon hc ht h₁ => exact obeys_attachDon hr.toStable hn hg hc ht h₁
  | flag h₁ =>
    obtain ⟨s, hs, rfl⟩ := setFlag_cases h₁
    have hside := hg.onSide hs
    exact obeys_setSide hg ⟨hside.cards, hside.dons⟩

theorem Step.obeys (hr : r.Kept) (hn : g.seats.Nodup) (h₁ : Step g h) (hg : g.Obeys r) :
    h.Obeys r := by
  cases h₁ with
  | move h₁ => exact (FieldStep.move h₁).obeys hr.onField hn hg
  | orient h₁ => exact obeys_updateCard hg (fun _ hl => hr.orient _ (hg.located hl)) h₁
  | modify h₁ => exact (FieldStep.modify h₁).obeys hr.onField hn hg
  | restDon h₁ => exact (FieldStep.restDon h₁).obeys hr.onField hn hg
  | giveDon hc ht h₁ => exact (FieldStep.giveDon hc ht h₁).obeys hr.onField hn hg
  | flag h₁ => exact (FieldStep.flag h₁).obeys hr.onField hn hg

/-- What each step of a run does not break, the run does not break. -/
theorem Reaches.obeys_of_steps {R : Game → Game → Prop} (hstep : ∀ {g h}, R g h → Step g h)
    (hobeys : ∀ {g h}, g.seats.Nodup → R g h → g.Obeys r → h.Obeys r) (hd : g.Distinct)
    (h₁ : Relation.ReflTransGen R g h) (hg : g.Obeys r) : h.Obeys r := by
  induction h₁ with
  | refl => exact hg
  | tail h₁ h₂ ih =>
    have hreach : Reaches g _ := Relation.ReflTransGen.mono (fun _ _ h => hstep h) _ _ h₁
    have hroster := hreach.sameRoster hd
    exact hobeys (hroster.seats ▸ hd.seatsOnce) h₂ ih

/-- A kept rule holds after every run. -/
theorem Reaches.obeys (hr : r.Kept) (hd : g.Distinct) (h₁ : Reaches g h) (hg : g.Obeys r) :
    h.Obeys r :=
  obeys_of_steps id (Step.obeys hr) hd h₁ hg

theorem FieldReaches.obeys (hr : r.KeptOnField) (hd : g.Distinct) (h₁ : FieldReaches g h)
    (hg : g.Obeys r) : h.Obeys r :=
  Reaches.obeys_of_steps FieldStep.step (FieldStep.obeys hr) hd h₁ hg

end Game

/-! ## Tidy games -/

/-- A card that lies in a zone of a player says so. On the field it lies with its controller, and
elsewhere it has no DON!!. -/
structure Card.LiesAt (p : Player) (place : Zone) (c : Card) : Prop where
  zone : c.zone = place
  onField : place.isField → c.controller = p
  offField : ¬place.isField → c.givenDon = []

/-- Off the field the card lies with its owner, who also controls it. -/
structure Card.AtHome (p : Player) (place : Zone) (c : Card) : Prop extends
    Card.LiesAt p place c where
  owner : ¬place.isField → c.owner = p
  controller : ¬place.isField → c.controller = p

namespace Card

variable {p : Player} {zone origin : Zone} {c : Card}

theorem liesAt_iff : c.LiesAt p zone ↔ c.zone = zone ∧ (zone.isField → c.controller = p) ∧
    (¬zone.isField → c.givenDon = []) :=
  ⟨fun h => ⟨h.zone, h.onField, h.offField⟩, fun h => ⟨h.1, h.2.1, h.2.2⟩⟩

instance : Decidable (c.LiesAt p zone) := decidable_of_iff' _ liesAt_iff

theorem atHome_iff : c.AtHome p zone ↔ c.LiesAt p zone ∧ (¬zone.isField → c.owner = p) ∧
    (¬zone.isField → c.controller = p) :=
  ⟨fun h => ⟨h.toLiesAt, h.owner, h.controller⟩, fun h => ⟨h.1, h.2.1, h.2.2⟩⟩

instance : Decidable (c.AtHome p zone) := decidable_of_iff' _ atHome_iff

/-- Cards that take DON!! lie on the field. -/
theorem isField_of_takesDon (ht : Resolver.takesDon c) : c.zone.isField := by
  unfold Resolver.takesDon at ht
  simp only [Bool.and_eq_true, Bool.or_eq_true, beq_iff_eq] at ht
  rcases ht.2 with hz | hz <;> rw [hz] <;> rfl

theorem LiesAt.isField (h : c.LiesAt p zone) (ht : Resolver.takesDon c) : zone.isField :=
  h.zone ▸ isField_of_takesDon ht

/-- A card that arrives in a zone lies there as it should, with its controller on the field and
with its owner elsewhere. -/
theorem liesAt_arriving (c : Card) (origin dest : Zone) :
    (Game.arriving c origin dest).LiesAt (if dest.isField then c.controller else c.owner) dest := by
  refine ⟨Game.zone_arriving c origin dest, fun hd => ?_, fun hd => ?_⟩
  · simp [Game.arriving, hd]
  · simp [Game.arriving, hd]

end Card

namespace Game

/-- The rule of a tidy game; it says nothing about cost areas. -/
def Rule.tidy : Rule := ⟨fun p zone c => c.AtHome p zone, fun _ _ => True⟩

theorem Rule.kept_tidy : tidy.Kept where
  orient _ h := ⟨⟨h.zone, h.onField, h.offField⟩, h.owner, h.controller⟩
  modify _ h := ⟨⟨h.zone, h.onField, h.offField⟩, h.owner, h.controller⟩
  give h ht _ := ⟨⟨h.zone, h.onField, fun hz => absurd (h.isField ht) hz⟩, h.owner, h.controller⟩
  arrive dest _ := by
    refine ⟨Card.liesAt_arriving _ _ dest, fun hd => ?_, fun hd => ?_⟩
    · simp [arriving, hd]
    · simp [arriving, hd]
  rest := id
  back _ _ _ := trivial

/-- Both players are there, no two cards share an id, and every card lies where it says: on its
controller's side of the field, or else in a zone of its owner, who controls it, and without
DON!!. -/
structure Tidy (g : Game) : Prop extends Sound g where
  cards : ∀ s ∈ g.sides, ∀ zone ∈ Zone.ofCards, ∀ c ∈ s.cards zone, c.AtHome s.player zone

theorem Reaches.tidy {g h : Game} (h₁ : Reaches g h) (hg : g.Tidy) : h.Tidy where
  toSound := hg.toSound.of_sameRoster (Reaches.sameRoster h₁ hg.toDistinct)
  cards s hs :=
    have hobeys : g.Obeys .tidy := fun s hs => ⟨hg.cards s hs, fun _ _ => trivial⟩
    (Reaches.obeys Rule.kept_tidy hg.toDistinct h₁ hobeys s hs).cards

/-- The first player has taken over a character of the second and given it a DON!!. -/
def contested : Game where
  sides := [
    { openingSide with
      characters := [member "c1" .characterArea .active,
        { member "c2" .characterArea .active with
          owner := .two
          givenDon := [⟨"don3", .one, .characterArea, .active⟩] }] },
    { player := .two, costArea := [⟨"don4", .two, .costArea, .active⟩] }]

theorem tidy_contested : contested.Tidy where
  present p := by cases p <;> decide
  seatsOnce := by decide
  idsOnce := by decide
  cards := by decide

end Game

namespace Engine

open Game (Tidy)

variable {σ : Type} {host : Host σ} {e : Engine σ}

/-- Every card is where it says it is: a tidy game stays tidy, whatever is called, and whatever
costs, conditions, targets, replacements and scripts made of helpers the abilities have. -/
theorem run_tidy (bonus : DonBonus) (calls : List Call) (hh : host.Only Reaction.Lawful)
    (hr : e.resolvers = .standard bonus) (hs : e.scripts.OfHelpers) (hg : e.game.Tidy) :
    (run host calls e).game.Tidy := by
  have he : e.Lawful := ⟨hr ▸ ResolverTable.standard_lawful bonus, hs⟩
  exact Game.Reaches.tidy (moves_run hh he calls).game hg

/-- To K.O. the character that was taken over. -/
def sendingHome : Invocation where
  ability := { id := "ko", sourceId := "c1", timing := .activate, kind := .koCharacter,
               scriptId := some "ko_target_character" }
  sourceId := "c1"
  controller := .one
  targets := [.card (some "c2")]

/-- The character goes to the trash of its owner, and the game is tidy again. -/
theorem run_tidy_contested :
    (run .silent [.push sendingHome none, .resolve] (standard Game.contested)).game.Tidy ∧
    (run .silent [.push sendingHome none, .resolve] (standard Game.contested)).game.sides.map
      (·.trash.map (·.id)) = [[], ["c2"]] :=
  ⟨run_tidy ⟨none, 1000⟩ _ (Host.only_silent _) rfl ScriptBook.stock_ofHelpers Game.tidy_contested,
    by cbv⟩

end Engine

end CardRules
