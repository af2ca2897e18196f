import CardRules.Proofs.Engine.Stages
import CardRules.Proofs.Game.Shifts
import CardRules.Proofs.Hosted
import CardRules.Proofs.Resolver.Removal
import CardRules.Proofs.Script.Turning

/-!
# Scripts and resolvers agree

A stock script that draws looks at the top of the deck before each card, the resolver cuts the deck
once and moves what it has cut off. Both move the same cards in the same order
(`ScriptM.runIn_drawCards`); where the deck is too short the resolver is content with it, and the
script fails, so that nothing of what it drew is seen (`Engine.resolveInvocation_of_bodyFails`).
-/

namespace CardRules

variable {g h : Game} {p : Player} {s : Side} {n : Nat} {ctx : ScriptContext} {journal : Journal}
  {i : Invocation} {bonus : DonBonus}

/-! ## Draws -/

/-- When cards have been drawn, the others are left in the deck. -/
theorem Game.Shifts.deck_of_draws (hg : g.Distinct) (hs : g.side? p = some s)
    (he : g.Shifts h ((s.deck.take n).map fun c => (⟨p, .deck, c⟩ : Placed).landing .hand) []) :
    ∃ t, h.side? p = some t ∧ t.deck = s.deck.drop n := by
  obtain ⟨t, ht, hst⟩ := he.sides p s hs
  refine ⟨t, ht, ?_⟩
  have hids : (s.deck.map (·.id)).Nodup := idsOnce_of_zone .deck hg hs (by decide)
  rw [← List.take_append_drop n s.deck, List.map_append] at hids
  have hcards : t.deck = Edit.shift _ s.player .deck s.deck := hst.cards .deck
  have hnone : Placed.inZone ((s.deck.take n).map fun c =>
      (⟨p, .deck, c⟩ : Placed).landing .hand) s.player .deck = [] := by
    rw [Placed.inZone, List.filter_eq_nil_iff.2, List.map_nil]
    intro r hr
    obtain ⟨c, -, rfl⟩ := List.mem_map.1 hr
    simp [Placed.landing]
  have hdrawn : ∀ id, Placed.among ((s.deck.take n).map fun c =>
      (⟨p, .deck, c⟩ : Placed).landing .hand) id = ((s.deck.take n).map (·.id)).contains id := by
    intro id
    rw [Placed.among, List.map_map]
    exact congrArg (·.contains id) (List.map_congr_left fun c _ => Placed.id_landing)
  rw [hcards, Edit.shift, hnone, List.append_nil]
  conv_lhs => rw [← List.take_append_drop n s.deck]
  rw [List.filter_append, List.filter_eq_nil_iff.2, List.filter_eq_self.2, List.nil_append]
  · intro c hc
    rw [List.take_append_drop, hdrawn, Bool.not_eq_true', ← Bool.not_eq_true, List.contains_iff_mem]
    exact fun hmem => List.disjoint_of_nodup_append hids hmem (List.mem_map_of_mem hc)
  · intro c hc
    rw [List.take_append_drop, hdrawn, Bool.not_eq_true, Bool.not_eq_false', List.contains_iff_mem]
    exact List.mem_map_of_mem hc

/-- What a script says that finds no card to draw. -/
def ScriptContext.emptyDeck (ctx : ScriptContext) (p : Player) : Fault :=
  .scriptFailed (some ("Player " ++ p.name ++ " has no cards left in deck")) ctx.scriptId

/-- A script that draws card by card moves the top cards of the deck, and fails if there are too
few of them. -/
theorem ScriptM.runIn_drawCards (ctx : ScriptContext) (journal : Journal) (hg : g.Distinct)
    (hs : g.side? p = some s) (hm : g.moveCards .hand ((s.deck.take n).map (·.id)) = .ok h) :
    (ScriptM.drawCards p n).runIn ctx ⟨g, journal⟩ =
      (if n ≤ s.deck.length then .ok () else .error (ctx.emptyDeck p), ⟨h, journal⟩) := by
  induction n generalizing g s with
  | zero =>
    cases hm
    rfl
  | succ n ih =>
    rw [drawCards, runIn_bind, runIn_side, Game.side_eq_ok_iff.2 hs]
    dsimp only
    cases hdeck : s.deck with
    | nil =>
      rw [hdeck] at hm
      cases hm
      rfl
    | cons c rest =>
      rw [hdeck] at hm
      obtain ⟨g₁, hm₁, hm⟩ := ok_of_bind hm
      have hg₁ : g₁.Distinct := hg.of_sameRoster (Game.sameRoster_moveCard hg hm₁)
      have hmem : c ∈ s.cards .deck := by
        change c ∈ s.deck
        rw [hdeck]
        exact List.mem_cons_self
      have hl := Game.locate?_of_mem .deck hg hs (by decide) hmem
      have hfirst := Game.shifts_moveCard hg hl hm₁
      obtain ⟨t, ht, htail⟩ : ∃ t, g₁.side? p = some t ∧ t.deck = s.deck.drop 1 :=
        Game.Shifts.deck_of_draws hg hs (by rw [hdeck]; exact hfirst)
      rw [hdeck] at htail
      dsimp only
      rw [runIn_bind, runIn_change, hm₁]
      dsimp only
      rw [ih hg₁ ht (by rw [htail]; exact hm), htail]
      simp

theorem Script.runIn_drawCards (ctx : ScriptContext) (journal : Journal) (hg : g.Distinct)
    (hs : g.side? ctx.controller = some s)
    (hm : g.moveCards .hand ((s.deck.take n).map (·.id)) = .ok h) :
    (Script.drawCards n).runIn ctx ⟨g, journal⟩ =
      (if n ≤ s.deck.length then .ok () else .error (ctx.emptyDeck ctx.controller),
        ⟨h, journal⟩) := by
  unfold Script.drawCards
  rw [ScriptM.runIn_ask]
  exact ScriptM.runIn_drawCards ctx journal hg hs hm

/-- The use of an ability by which its controller draws cards. -/
structure Invocation.Draws (i : Invocation) (n : Nat) (p : Player) : Prop where
  kind : i.ability.kind = .drawCards
  count : i.ability.parameters.cardCount = some (n : Int)
  controller : i.controller = p
  /-- No player is named who would draw instead. -/
  unnamed : ∀ r, .player (some r) ∉ i.targets

theorem Invocation.Draws.affectedPlayer (hi : i.Draws n p) : i.affectedPlayer = p := by
  unfold Invocation.affectedPlayer
  rw [List.findSome?_eq_none_iff.2, hi.controller]
  · rfl
  · intro t ht
    split
    · rename_i r
      cases r with
      | none => rfl
      | some r => exact absurd ht (hi.unnamed r)
    · rfl

/-- The resolver moves the top cards of the deck at once. -/
theorem ResolverTable.resolve_draws (hi : i.Draws n p) (hn : 1 ≤ n) (hs : g.side? p = some s) :
    (standard bonus).resolve i g =
      Hosted.lift (g.moveCards .hand ((s.deck.take n).map (·.id))) := by
  have hcount : Resolver.hasCount i := by
    simp only [Resolver.hasCount, hi.count, Option.any_some, decide_eq_true_eq]
    omega
  have hcut : firstItems (Resolver.count i) s.deck = s.deck.take n := by
    rw [Resolver.count, hi.count]
    exact firstItems_natCast n s.deck
  have hr : (standard bonus).get? i.ability.kind = some .drawCards := by rw [hi.kind]; rfl
  refine (resolve_of_get? hr hcount).trans (congrArg Hosted.lift ?_)
  rw [Resolver.takeFromDeck, hi.affectedPlayer, Game.side_eq_ok_iff.2 hs, ok_bind, hcut]

/-- The cards that are drawn go to the hands of their owners. -/
theorem Game.exists_draws (n : Nat) (hg : g.Distinct) (hs : g.side? p = some s)
    (howners : ∀ q ∈ g.placed, q.card.owner ∈ g.seats) :
    ∃ h, g.moveCards .hand ((s.deck.take n).map (·.id)) = .ok h ∧
      g.Shifts h ((s.deck.take n).map fun c => (⟨p, .deck, c⟩ : Placed).landing .hand) [] := by
  have htop : ∀ c ∈ s.deck.take n, c ∈ s.cards .deck := fun c hc => List.mem_of_mem_take hc
  have hids : (s.deck.map (·.id)).Nodup := idsOnce_of_zone .deck hg hs (by decide)
  have hplaced : ∀ c ∈ s.deck.take n, (⟨p, .deck, c⟩ : Placed) ∈ g.placed := fun c hc =>
    (mem_placed_iff hg.seatsOnce).2 ⟨s, hs, Side.mem_ofCards_of_mem (htop c hc), htop c hc⟩
  refine exists_moveCards_zone .deck .hand hg hs (by decide) (by decide) (by decide) (by decide)
    ?_ htop fun c hc => howners _ (hplaced c hc)
  rw [List.map_take]
  exact hids.sublist (List.take_sublist _ _)

/-! ## Bodies that fail -/

namespace Engine

variable {σ : Type} {host : Host σ} {e ready : Engine σ} {asked j : Invocation} {f : Fault}

/-- An effect that is resolved gets as far as the body of `j`, in the engine `ready`: its cost is
paid, its body replaced, and its condition holds. -/
def GetsToBody (asked : Invocation) (e : Engine σ) (j : Invocation) (ready : Engine σ) : Prop :=
  ∃ paid replaced, payCost asked e = (.ok (), paid) ∧
    replaceBody asked paid = (.ok j, replaced) ∧ conditionHolds j replaced = (.ok true, ready)

theorem GetsToBody.scripts (hb : GetsToBody asked e j ready) : ready.scripts = e.scripts := by
  obtain ⟨paid, replaced, hpay, hreplace, hholds⟩ := hb
  have h₁ := (paid_of_payCost hpay).samePlugs
  have h₂ := (noted_replaceBody (e := paid) (i := asked)).samePlugs
  have h₃ := (noted_conditionHolds (e := replaced) (i := j)).samePlugs
  rw [hreplace] at h₂
  rw [hholds] at h₃
  exact ((h₁.trans h₂).trans h₃).scripts

/-- When a body fails, the resolution ends with the engine that the failing body leaves. -/
theorem resolveInvocation_of_bodyFails (host : Host σ) (hb : GetsToBody asked e j ready)
    (hrun : runBody j ready = (.error f, ready)) :
    resolveInvocation host asked e = (.error f, ready) := by
  obtain ⟨paid, replaced, hpay, hreplace, hholds⟩ := hb
  unfold resolveInvocation resolveBody
  rw [hpay]
  dsimp only
  rw [hreplace]
  dsimp only
  rw [hholds]
  dsimp only
  rw [hrun]

/-- A script that fails without writing anything down leaves the engine as it was, whatever it has
done to its own game. -/
theorem runBody_of_scriptFails {id : String} {script : Script} {state : ScriptState}
    (hid : j.ability.scriptId = some id) (hne : id ≠ "") (hfind : e.scripts.find id = .ok script)
    (hrun : script.runIn ⟨e.context j, some id⟩ ⟨e.game, e.journal⟩ = (.error f, state))
    (hquiet : state.journal = e.journal) : runBody j e = (.error f, e) := by
  have hscript : j.ability.scriptId.filter (!·.isEmpty) = some id := by
    rw [hid]
    simp [hne]
  unfold runBody ScriptBook.execute
  rw [hscript]
  dsimp only
  rw [hfind]
  dsimp only
  rw [hrun]
  dsimp only
  rw [hquiet]
  rfl

/-- A script that draws too much is not seen to have drawn anything. -/
theorem resolveInvocation_of_overdraw (host : Host σ) {id : String}
    (hb : GetsToBody asked e j ready) (hg : ready.game.Distinct)
    (howners : ∀ q ∈ ready.game.placed, q.card.owner ∈ ready.game.seats)
    (hs : ready.game.side? j.controller = some s) (hfew : s.deck.length < n)
    (hid : j.ability.scriptId = some id) (hne : id ≠ "")
    (hfind : e.scripts.find id = .ok (Script.drawCards n)) :
    ∃ message, resolveInvocation host asked e =
        (.error (.scriptFailed (some message) (some id)), ready) ∧
      process host asked e =
        ready.tell host (.failed asked (.scriptFailed (some message) (some id))) := by
  obtain ⟨h, hm, -⟩ := Game.exists_draws n hg hs howners
  have hrun := Script.runIn_drawCards ⟨ready.context j, some id⟩ ready.journal hg hs hm
  rw [if_neg (by omega)] at hrun
  have hfails := runBody_of_scriptFails hid hne (hb.scripts ▸ hfind) hrun rfl
  have hresolved := resolveInvocation_of_bodyFails host hb hfails
  refine ⟨_, hresolved, ?_⟩
  unfold process
  rw [hresolved]
  rfl

end Engine

/-! ## K.O. -/

section

variable {m : Option Int} {c : Card} {id : String} {q : Placed}

namespace ScriptM

theorem runIn_firstCard (hne : id ≠ "") (ht : ctx.targets.head? = some (.card (some id)))
    (t : ScriptState) : firstCardTarget.runIn ctx t = (.ok id, t) := by
  obtain ⟨rest, htargets⟩ := List.head?_eq_some_iff.1 ht
  have hid : (Target.card (some id)).cardId? = some id := by simp [Target.cardId?, hne]
  unfold firstCardTarget
  rw [runIn_ask, htargets]
  dsimp only
  rw [hid]
  rfl

/-- A script that finds a card in the character area moves it, and fails over any other card. -/
theorem runIn_koCard (ctx : ScriptContext) (journal : Journal) (hc : g.card? id = some c) :
    (c.zone = .characterArea ∧ (koCard id).runIn ctx ⟨g, journal⟩ =
        (change (·.moveCard id .trash true)).runIn ctx ⟨g, journal⟩) ∨
      c.zone ≠ .characterArea ∧ ∃ message, (koCard id).runIn ctx ⟨g, journal⟩ =
        (.error (.scriptFailed (some message) ctx.scriptId), ⟨g, journal⟩) := by
  unfold koCard removeCharacter
  rw [runIn_bind, runIn_card, hc]
  dsimp only [Option.map_some, Option.getD_some]
  by_cases hz : c.zone = .characterArea
  · rw [if_pos (beq_iff_eq.2 hz)]
    exact .inl ⟨hz, rfl⟩
  · rw [if_neg (by simpa using hz)]
    exact .inr ⟨hz, _, rfl⟩

/-- The script moves a target of the character area that keeps within its limit, and fails over any
other card. -/
theorem runIn_koTarget (m : Option Int) (journal : Journal) (hne : id ≠ "")
    (hc : g.card? id = some c) (ht : ctx.targets.head? = some (.card (some id))) :
    ((c.zone = .characterArea ∧ ∀ limit ∈ m, c.cost ≤ limit) ∧
        (Script.koTarget m false).runIn ctx ⟨g, journal⟩ =
          (change (·.moveCard id .trash true)).runIn ctx ⟨g, journal⟩) ∨
      ¬(c.zone = .characterArea ∧ ∀ limit ∈ m, c.cost ≤ limit) ∧
        ∃ message, (Script.koTarget m false).runIn ctx ⟨g, journal⟩ =
          (.error (.scriptFailed (some message) ctx.scriptId), ⟨g, journal⟩) := by
  unfold Script.koTarget
  rw [runIn_bind, runIn_firstCard hne ht]
  dsimp only
  rw [runIn_bind, runIn_card, hc]
  dsimp only [Option.map_some, Option.getD_some]
  rw [Bool.false_and, if_neg Bool.false_ne_true]
  have hmoves := runIn_koCard ctx journal hc
  by_cases hlimit : ∀ limit ∈ m, c.cost ≤ limit
  · rw [and_iff_left hlimit]
    cases m with
    | none => exact hmoves
    | some limit =>
      dsimp only
      rwa [if_neg (by simpa using hlimit)]
  · refine .inr ⟨fun h => hlimit h.2, ?_⟩
    cases m with
    | none => simp at hlimit
    | some limit =>
      dsimp only
      rw [if_pos (by simpa using hlimit)]
      exact ⟨_, rfl⟩

end ScriptM

/-- The use of an ability that K.O.s one character, up to a greatest cost. -/
structure Invocation.KosOne (i : Invocation) (m : Option Int) (id : String) : Prop where
  kind : i.ability.kind = .koCharacter
  maxCost : i.ability.parameters.maxCost = m
  maxPower : i.ability.parameters.maxPower = none
  targets : i.targets = [.card (some id)]

/-- The resolver moves a field character that keeps within the limit, and leaves any other card. -/
theorem ResolverTable.resolve_kosOne (hi : i.KosOne m c.id) (hne : c.id ≠ "")
    (hc : g.card? c.id = some c) : (standard bonus).resolve i g =
      Hosted.lift (if c.isFieldCharacter ∧ ∀ limit ∈ m, c.cost ≤ limit then
        g.moveCard c.id .trash true else .ok g) := by
  have hids : i.cardIds = [c.id] := by
    rw [Invocation.cardIds, hi.targets]
    simp [Target.cardId?, hne]
  have hwithin : Resolver.withinLimits bonus i.ability.parameters c g ↔
      ∀ limit ∈ m, c.cost ≤ limit := by
    rw [Resolver.withinLimits_iff, hi.maxPower, hi.maxCost]
    simp
  have hz : i.ability.kind.removalZone? = some .trash := by rw [hi.kind]; rfl
  rw [resolve_removal hz, hids]
  congr 1
  rw [Resolver.eachCard, hc]
  dsimp only [Resolver.eachCard]
  simp only [Resolver.removeCharacter, Bool.and_eq_true, hwithin]
  split
  · cases g.moveCard c.id .trash true <;> rfl
  · rfl

/-- A character in the character area leaves it for the trash. -/
theorem Game.toTable_ne_of_ko (hg : g.Distinct) (hl : g.locate? id = some q)
    (hz : q.zone = .characterArea) (hm : g.moveCard id .trash true = .ok h) :
    h.toTable ≠ g.toTable := by
  intro hsame
  have hplaced : h.placed = g.placed := by
    unfold placed
    rw [show h.sides = g.sides from congrArg Table.sides hsame]
  have hlanded : h.locate? id = _ := locate?_moveCard hg hl hm
  rw [if_pos rfl, locate?, hplaced, ← locate?, hl] at hlanded
  have hzone := congrArg Placed.zone (Option.some.inj hlanded)
  rw [hz] at hzone
  cases hzone

/-- The script and the resolver move a character alike, or both leave it. -/
theorem ko_agrees (hg : g.Distinct) (hq : q ∈ g.placed) (hne : q.card.id ≠ "")
    (hzone : q.card.zone = q.zone) (howner : q.card.owner ∈ g.seats) (hc : q.card.isCharacter)
    (ht : ctx.targets.head? = some (.card (some q.card.id))) (hi : i.KosOne m q.card.id) :
    (∃ h, (Script.koTarget m false).runIn ctx ⟨g, journal⟩ = (.ok (), ⟨h, journal⟩) ∧
        ((ResolverTable.standard bonus).resolve i g).outcome journal = (.ok h, journal) ∧
        h.toTable ≠ g.toTable) ∨
      (∃ f, (Script.koTarget m false).runIn ctx ⟨g, journal⟩ = (.error f, ⟨g, journal⟩) ∧
        ((ResolverTable.standard bonus).resolve i g).outcome journal = (.ok g, journal)) ∨
      ∃ f, ∃ d ∈ q.card.givenDon, d.owner ∉ g.seats ∧
        (Script.koTarget m false).runIn ctx ⟨g, journal⟩ = (.error f, ⟨g, journal⟩) ∧
        ((ResolverTable.standard bonus).resolve i g).outcome journal = (.error f, journal) := by
  have hl : g.locate? q.card.id = some q := (Game.locate?_eq_some_iff hg).2 ⟨hq, rfl⟩
  have hcard : g.card? q.card.id = some q.card := by rw [Game.card?, hl]; rfl
  have hfield : q.card.isFieldCharacter ↔ q.card.zone = .characterArea := by
    simp [Card.isFieldCharacter, hc]
  rw [ResolverTable.resolve_kosOne hi hne hcard, Hosted.outcome_lift]
  simp only [hfield]
  obtain ⟨hfits, hrun⟩ | ⟨hnot, message, hrun⟩ :=
    ScriptM.runIn_koTarget m journal hne hcard ht
  · rw [hrun, if_pos hfits, ScriptM.runIn_change]
    dsimp only
    have harea : q.zone = .characterArea := hzone.symm.trans hfits.1
    cases hm : g.moveCard q.card.id .trash true with
    | ok h => exact .inl ⟨h, rfl, rfl, Game.toTable_ne_of_ko hg hl harea hm⟩
    | error f =>
      refine .inr (.inr ⟨f, ?_⟩)
      by_contra hnone
      -- with the owners of its DON!! at the table nothing is in the way of the card
      obtain ⟨s, hs⟩ := Option.isSome_iff_exists.1 (Game.isSome_side?_iff.2 howner)
      have hmoves : (∃ h, g.moveCard q.card.id .trash true = .ok h) ↔ _ :=
        Game.exists_moveCard_iff hg hl
      have hdons : ∀ d ∈ q.released .trash, d.owner ∈ g.seats := fun d hd => by
        by_contra hgone
        rw [Placed.released, harea] at hd
        exact hnone ⟨d, hd, hgone, rfl, rfl⟩
      obtain ⟨h, hok⟩ := hmoves.2 ⟨hdons, s, hs, by decide, fun hslot => by cases hslot⟩
      rw [hm] at hok
      cases hok
  · rw [hrun, if_neg hnot]
    exact .inr (.inl ⟨_, rfl, rfl⟩)

end

/-! ## Both at once -/

open ResolverTable (standard)

/-- **Stock scripts and resolvers agree.** Take a game whose cards have names, say where they lie
and have their owners at the table. Where the controller has enough cards to draw, the script and
the resolver leave the same game. Where there are too few, the resolver draws the whole deck; the
script fails, and when it is the body of an effect the engine is left with the game it had before. A
script that K.O.s a character moves it as the resolver does, or it fails and the resolver leaves the
game alone. Only if the owner of a DON!! on the character is missing do both fail. -/
theorem stock_scripts_agree (bonus : DonBonus) (journal : Journal) (hg : g.Distinct)
    (hids : ∀ q ∈ g.placed, q.card.id ≠ "") (hzones : ∀ q ∈ g.placed, q.card.zone = q.zone)
    (howners : ∀ q ∈ g.placed, q.card.owner ∈ g.seats) :
    (∀ (n : Nat) (ctx : ScriptContext) (i : Invocation) (s : Side), 1 ≤ n →
      g.side? ctx.controller = some s → i.Draws n ctx.controller →
      ∃ h t, ((standard bonus).resolve i g).outcome journal = (.ok h, journal) ∧
        h.side? ctx.controller = some t ∧ t.deck = s.deck.drop n ∧
        g.Shifts h ((s.deck.take n).map fun c =>
          (⟨ctx.controller, .deck, c⟩ : Placed).landing .hand) [] ∧
        (n ≤ s.deck.length →
          (Script.drawCards n).runIn ctx ⟨g, journal⟩ = (.ok (), ⟨h, journal⟩)) ∧
        (s.deck.length < n →
          (Script.drawCards n).runIn ctx ⟨g, journal⟩ =
            (.error (ctx.emptyDeck ctx.controller), ⟨h, journal⟩) ∧
          ∀ {σ : Type} (host : Host σ) (e ready : Engine σ) (asked j : Invocation) (id : String),
            Engine.GetsToBody asked e j ready → ready.game = g →
            j.controller = ctx.controller → j.ability.scriptId = some id → id ≠ "" →
            e.scripts.find id = .ok (Script.drawCards n) →
            ∃ message, Engine.resolveInvocation host asked e =
                (.error (.scriptFailed (some message) (some id)), ready) ∧
              Engine.process host asked e =
                ready.tell host (.failed asked (.scriptFailed (some message) (some id))))) ∧
    ∀ q ∈ g.placed, q.card.isCharacter → ∀ (m : Option Int) (ctx : ScriptContext) (i : Invocation),
      ctx.targets.head? = some (.card (some q.card.id)) → i.KosOne m q.card.id →
      (∃ h, (Script.koTarget m false).runIn ctx ⟨g, journal⟩ = (.ok (), ⟨h, journal⟩) ∧
          ((standard bonus).resolve i g).outcome journal = (.ok h, journal) ∧
          h.toTable ≠ g.toTable) ∨
        (∃ f, (Script.koTarget m false).runIn ctx ⟨g, journal⟩ = (.error f, ⟨g, journal⟩) ∧
          ((standard bonus).resolve i g).outcome journal = (.ok g, journal)) ∨
        ∃ f, ∃ d ∈ q.card.givenDon, d.owner ∉ g.seats ∧
          (Script.koTarget m false).runIn ctx ⟨g, journal⟩ = (.error f, ⟨g, journal⟩) ∧
          ((standard bonus).resolve i g).outcome journal = (.error f, journal) := by
  constructor
  · intro n ctx i s hn hs hi
    obtain ⟨h, hm, hshift⟩ := Game.exists_draws n hg hs howners
    obtain ⟨t, ht, hdeck⟩ := hshift.deck_of_draws hg hs
    have hrun := Script.runIn_drawCards ctx journal hg hs hm
    refine ⟨h, t, ?_, ht, hdeck, hshift, fun henough => ?_, fun hfew => ⟨?_, ?_⟩⟩
    · rw [ResolverTable.resolve_draws hi hn hs, Hosted.outcome_lift, hm]
    · rw [hrun, if_pos henough]
    · rw [hrun, if_neg (by omega)]
    · rintro σ host e ready asked j id hb rfl hj hid hne hfind
      exact Engine.resolveInvocation_of_overdraw host hb hg howners (hj ▸ hs) hfew hid hne hfind
  · intro q hq hc m ctx i ht hi
    exact ko_agrees hg hq (hids q hq) (hzones q hq) (howners q hq) hc ht hi

/-- The first player draws three cards, by a resolver or by a stock script. -/
def drawingThree : Invocation where
  ability := { (default : Ability) with
    kind := .drawCards, parameters := { cardCount := some 3 }, scriptId := some "draw_3" }
  sourceId := "c1"
  controller := .one

/-- To K.O. the character that was taken over, if it costs two at most. -/
def endingIt : Invocation where
  ability := { (default : Ability) with
    kind := .koCharacter, parameters := { maxCost := some 2 }, scriptId := some "ko_target" }
  sourceId := "c1"
  controller := .one
  targets := [.card (some "c2")]

/-- What a script sees of a use in the contested game. -/
def contestedContext (i : Invocation) : ScriptContext where
  toContext := .ofInvocation Game.contested ⟨none, 1000⟩ i

/-- Of the two cards in the deck the resolver draws both and the script none; the character is K.O.d
by either. -/
theorem stock_scripts_agree_contested :
    Game.contested.Distinct ∧ (∀ q ∈ Game.contested.placed, q.card.id ≠ "") ∧
    (∀ q ∈ Game.contested.placed, q.card.zone = q.zone) ∧
    (∀ q ∈ Game.contested.placed, q.card.owner ∈ Game.contested.seats) ∧
    (∃ h t, ((standard ⟨none, 1000⟩).resolve drawingThree Game.contested).outcome [] =
        (.ok h, []) ∧ h.side? .one = some t ∧ t.deck = []) ∧
    (∃ message, Engine.resolveInvocation .silent drawingThree (Engine.standard Game.contested) =
      (.error (.scriptFailed (some message) (some "draw_3")), Engine.standard Game.contested)) ∧
    ∃ h, (Script.koTarget (some 2) false).runIn (contestedContext endingIt) ⟨Game.contested, []⟩ =
        (.ok (), ⟨h, []⟩) ∧
      ((standard ⟨none, 1000⟩).resolve endingIt Game.contested).outcome [] = (.ok h, []) := by
  have hg : Game.contested.Distinct := Game.tidy_contested.toDistinct
  have hids : ∀ q ∈ Game.contested.placed, q.card.id ≠ "" := by decide
  have hzones : ∀ q ∈ Game.contested.placed, q.card.zone = q.zone := by decide
  have howners : ∀ q ∈ Game.contested.placed, q.card.owner ∈ Game.contested.seats := by decide
  obtain ⟨hdraw, hko⟩ := stock_scripts_agree ⟨none, 1000⟩ [] hg hids hzones howners
  obtain ⟨h, t, hrun, ht, hdeck, -, -, hfew⟩ :=
    hdraw 3 (contestedContext drawingThree) drawingThree _ (by decide) rfl
      ⟨rfl, rfl, rfl, fun r hr => by cases hr⟩
  refine ⟨hg, hids, hzones, howners, ⟨h, t, hrun, ht, hdeck⟩, ?_, ?_⟩
  · have hreplace : Engine.replaceBody drawingThree (Engine.standard Game.contested) =
        (.ok drawingThree, Engine.standard Game.contested) := by
      rw [Engine.replaceBody, Replacements.applyBody_of_none fun r hr => by cases hr]
      rfl
    obtain ⟨message, hresolved, -⟩ := (hfew (by decide)).2 .silent
      (Engine.standard Game.contested) (Engine.standard Game.contested) drawingThree drawingThree
      "draw_3" ⟨_, _, rfl, hreplace, rfl⟩ rfl rfl rfl (by decide) rfl
    exact ⟨message, hresolved⟩
  · have hl : Game.contested.locate? "c2" = some _ := rfl
    have hends : ((Script.koTarget (some 2) false).runIn (contestedContext endingIt)
        ⟨Game.contested, []⟩).1.toOption.isSome := by decide +kernel
    obtain ⟨h, hscript, hresolver, -⟩ | ⟨f, hscript, -⟩ | ⟨f, d, -, -, hscript, -⟩ :=
      hko _ (List.mem_of_find?_eq_some hl) rfl (some 2) (contestedContext endingIt) endingIt rfl
        ⟨rfl, rfl, rfl, rfl⟩
    · exact ⟨h, hscript, hresolver⟩
    · rw [hscript] at hends
      cases hends
    · rw [hscript] at hends
      cases hends

end CardRules
