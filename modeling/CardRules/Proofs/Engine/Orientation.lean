import CardRules.Proofs.Engine.Acceptance
import CardRules.Proofs.Script.Turning

/-!
# Cards off the field have no orientation

Whatever lies off the field has lost its orientation on its way there, and costs and resolvers turn
cards on the field only. But a body `Strays` when it runs a stock script that turns its target, and
the target lies in a hand, a deck or a pile; such a body does turn the card (`settle_of_strays`).
Whatever lies off the field has no orientation, or the one that a body has given it there when it
strayed (`Engine.run_upright`).
-/

namespace CardRules

open Game (FieldReaches FieldStep)

variable {g h : Game} {id : String} {o : Orientation}

namespace Game

/-! ## The rule -/

/-- The rule that a card says where it lies, and has no orientation off the field, apart from
those that some cards may have got there. -/
def Rule.upright (strays : String → Zone → Orientation → Prop) : Rule :=
  ⟨fun _ zone c => c.zone = zone ∧
      (¬zone.isField → c.orientation = .none ∨ strays c.id zone c.orientation),
    fun _ _ => True⟩

variable {strays : String → Zone → Orientation → Prop}

theorem Rule.keptOnField_upright : (upright strays).KeptOnField where
  modify _ h := h
  give h _ _ := h
  arrive dest _ := ⟨zone_arriving _ _ dest, fun hoff => .inl (by simp [arriving, hoff])⟩
  rest := id
  back _ _ _ := trivial
  turn := by
    rintro p zone c o hfield ⟨rfl, -⟩
    exact ⟨rfl, fun hoff => absurd (hfield.elim id id) hoff⟩

theorem obeys_upright_iff : g.Obeys (.upright strays) ↔
    ∀ q ∈ g.placed, q.card.zone = q.zone ∧ (¬q.zone.isField →
      q.card.orientation = .none ∨ strays q.card.id q.zone q.card.orientation) := by
  constructor
  · intro hg q hq
    obtain ⟨s, hs, -, hz, hc⟩ := mem_placed.1 hq
    exact (hg s hs).cards _ hz _ hc
  · intro hg s hs
    exact ⟨fun zone hz c hc => hg ⟨s.player, zone, c⟩ (mem_placed.2 ⟨s, hs, rfl, hz, hc⟩),
      fun _ _ => trivial⟩

/-- A stray card may be turned where it lies. -/
theorem obeys_upright_turn {found : Placed} (hg : g.Obeys (.upright strays))
    (hl : g.locate? id = some found) (hstray : strays id found.zone o)
    (h₁ : g.updateCard id (fun c => { c with orientation := o }) = .ok h) :
    h.Obeys (.upright strays) := by
  refine obeys_updateCard hg (fun found' hl' => ?_) h₁
  obtain rfl : found = found' := Option.some.inj (hl.symm.trans hl')
  have hid : found.card.id = id := id_of_locate? hl
  exact ⟨(hg.located hl).1, fun _ => .inr (hid ▸ hstray)⟩

end Game

namespace Engine

variable {σ : Type} {host : Host σ} {e e' : Engine σ} {i : Invocation} {bonus : DonBonus}

/-! ## Bodies -/

/-- The body, run in the game, turns a card in a zone off the field. -/
structure Strays (body : Invocation × Game) (id : String) (zone : Zone) (o : Orientation) :
    Prop where
  script : body.1.ability.scriptId.bind Script.turning? = some o
  target : body.1.targets.head?.bind Target.cardId? = some id
  place : (body.2.locate? id).map (·.zone) = some zone
  off : ¬zone.isField

/-- The engine has the standard resolvers and the stock scripts. -/
structure Stocked (bonus : DonBonus) (e : Engine σ) : Prop where
  resolvers : e.resolvers = .standard bonus
  scripts : e.scripts = .stock

theorem SamePlugs.stocked (h : SamePlugs e e') (he : e.Stocked bonus) : e'.Stocked bonus :=
  ⟨h.resolvers.trans he.resolvers, h.scripts.trans he.scripts⟩

/-- A body turns one card, in one way. -/
theorem Strays.unique {body : Invocation × Game} {id' : String} {zone zone' : Zone}
    {o' : Orientation} (h : Strays body id zone o) (h' : Strays body id' zone' o') :
    id' = id ∧ zone' = zone ∧ o' = o := by
  obtain rfl : id' = id := Option.some.inj (h'.target.symm.trans h.target)
  exact ⟨rfl, Option.some.inj (h'.place.symm.trans h.place),
    Option.some.inj (h'.script.symm.trans h.script)⟩

/-- A body that runs turns cards on the field only, unless it strays. -/
theorem runBody_turns (he : e.Stocked bonus) (hd : e.game.Distinct) {g : Game}
    (hr : (runBody i e).1 = .ok g) :
    ((∀ id zone o, ¬Strays (i, e.game) id zone o) ∧ FieldReaches e.game g) ∨
      ∃ id found o, e.game.locate? id = some found ∧ Strays (i, e.game) id found.zone o ∧
        e.game.updateCard id (fun c => { c with orientation := o }) = .ok g := by
  unfold runBody at hr
  cases hs : i.ability.scriptId.filter (!·.isEmpty) with
  | none =>
    rw [hs, he.resolvers] at hr
    refine .inl ⟨fun id zone o hstrays => ?_,
      ResolverTable.chain_resolve (ResolverTable.standard_makes bonus) hr⟩
    obtain ⟨script, hid, hturning⟩ := Option.bind_eq_some_iff.1 hstrays.script
    rw [hid, Option.filter_eq_none_iff] at hs
    have hempty : script = "" := by simpa using hs script rfl
    rw [hempty] at hturning
    cases hturning
  | some script =>
    have hid : i.ability.scriptId = some script := (Option.filter_eq_some_iff.1 hs).1
    rw [hs, he.scripts] at hr
    dsimp only at hr
    generalize hrun : ScriptBook.stock.execute script ⟨e.context i, none⟩
      ⟨e.game, e.journal⟩ = done at hr
    obtain ⟨_ | _, t⟩ := done
    · cases hr
    · obtain rfl : t.game = g := Except.ok.inj hr
      obtain ⟨hnone, hfield⟩ | ⟨id, o, hturning, htarget, hstep⟩ := ScriptBook.stock_execute hd hrun
      · refine .inl ⟨fun id zone o hstrays => ?_, hfield⟩
        have hscript := hstrays.script
        rw [hid, Option.bind_some, hnone] at hscript
        cases hscript
      · obtain ⟨found, -, -, hl, -⟩ := Game.updateCard_cases hstep
        by_cases hfield : found.zone.isField
        · refine .inl ⟨fun id' zone o' hstrays => hstrays.off ?_,
            (FieldStep.turn hl (.inl hfield) hstep).reaches⟩
          obtain rfl : id' = id := Option.some.inj (hstrays.target.symm.trans htarget)
          have hplace := hstrays.place
          rw [hl] at hplace
          exact Option.some.inj hplace ▸ hfield
        · have hplace : (e.game.locate? id).map (·.zone) = some found.zone := by rw [hl]; rfl
          have hscript : i.ability.scriptId.bind Script.turning? = some o := by
            rw [hid]
            exact hturning
          exact .inr ⟨id, found, o, hl, ⟨hscript, htarget, hplace, hfield⟩, hstep⟩

/-- The body that runs for an invocation, if one does, with the game that it finds. -/
def bodyOf (i : Invocation) (e : Engine σ) : Option (Invocation × Game) :=
  match (settle i e).1 with
  | .ran j => some (j, (payCost i e).2.game)
  | _ => none

theorem Paid.turns (hd : e.game.Distinct) (hpaid : Paid i e (.ok ()) e') :
    FieldReaches e.game e'.game := by
  cases hpaid with
  | free => exact .refl
  | debited _ _ hpay => exact Cost.fieldReaches_pay hd hpay

/-- Settling an effect turns cards on the field only, unless its body strays. -/
theorem settle_turns (he : e.Stocked bonus) (hd : e.game.Distinct) :
    ((∀ body ∈ bodyOf i e, ∀ id zone o, ¬Strays body id zone o) ∧
      FieldReaches e.game (settle i e).2.game) ∨
    ∃ body id found o, bodyOf i e = some body ∧ FieldReaches e.game body.2 ∧
      body.2.locate? id = some found ∧ Strays body id found.zone o ∧
      body.2.updateCard id (fun c => { c with orientation := o }) = .ok (settle i e).2.game := by
  have hsettled := settled_settle i e
  unfold bodyOf
  generalize settle i e = settled at hsettled ⊢
  obtain ⟨ending, e'⟩ := settled
  dsimp only at hsettled ⊢
  cases hsettled with
  | unpaid _ hgame _ =>
    rw [hgame]
    exact .inl ⟨fun _ hb => (nomatch hb), .refl⟩
  | failed hpaid _ hgame _ | skipped hpaid _ _ _ hgame _ =>
    rw [hgame]
    exact .inl ⟨fun _ hb => (nomatch hb), hpaid.turns hd⟩
  | @ran j paid replaced ready done _ hpaid hreplaced hasked hgame hran _ =>
    have hfirst := hpaid.turns hd
    have hplugs := hpaid.samePlugs.trans (hreplaced.noted.trans hasked.noted).samePlugs
    have hready : ready.game.Distinct := hgame ▸ hfirst.distinct hd
    have hturns := runBody_turns (hplugs.stocked he) hready (by rw [hran.eq])
    rw [hgame] at hturns
    rw [hpaid.eq]
    obtain ⟨hnone, hfield⟩ | ⟨id, found, o, hl, hstrays, hstep⟩ := hturns
    · exact .inl ⟨fun body hb => by cases hb; exact hnone, hfirst.trans hfield⟩
    · exact .inr ⟨_, id, found, o, rfl, hfirst, hl, hstrays, hstep⟩

/-- A body that strays and runs to its end does turn the card where it lies. -/
theorem settle_of_strays (he : e.Stocked bonus) (hd : e.game.Distinct) {body : Invocation × Game}
    {zone : Zone} (hb : bodyOf i e = some body) (hs : Strays body id zone o) :
    ∃ q ∈ (settle i e).2.game.placed,
      q.card.id = id ∧ q.zone = zone ∧ q.card.orientation = o := by
  obtain ⟨hnone, -⟩ | ⟨body', id', found, o', hb', hfirst, hl, hs', hstep⟩ :=
    settle_turns (i := i) he hd
  · exact absurd hs (hnone body hb id zone o)
  · obtain rfl : body = body' := Option.some.inj (hb.symm.trans hb')
    obtain ⟨rfl, rfl, rfl⟩ := hs.unique hs'
    obtain ⟨found', hl', hplaced⟩ := Game.mem_placed_updateCard (hfirst.distinct hd) hstep
    obtain rfl : found = found' := Option.some.inj (hl.symm.trans hl')
    have hid : found.card.id = id' := Game.id_of_locate? hl
    exact ⟨_, (hplaced _).2 (.inl rfl), hid, rfl, rfl⟩

/-! ## Runs -/

/-- The bodies that run when effects are settled one after the other. -/
def bodiesOf : List Pending → Engine σ → List (Invocation × Game)
  | [], _ => []
  | p :: rest, e =>
    (bodyOf p.invocation e).toList ++ bodiesOf rest (settle p.invocation e).2

/-- The bodies that run when the engine is called. -/
def bodiesDuring (host : Host σ) (e : Engine σ) : Call → List (Invocation × Game)
  | .push .. | .clear => []
  | .resolve => bodiesOf (taken host e.settings.stackLimit.toNat e) e.core
  | .activate w =>
    match granted w e with
    | some (i, e) => (bodyOf i e).toList
    | none => []

/-- The bodies that run in the course of calls. -/
def bodiesOver (host : Host σ) : List Call → Engine σ → List (Invocation × Game)
  | [], _ => []
  | c :: rest, e => e.bodiesDuring host c ++ bodiesOver host rest (call host e c)

/-- A stocked engine where cards say where they lie and have no orientation off the field, apart
from those that some may have got there. -/
structure Upright (bonus : DonBonus) (strays : String → Zone → Orientation → Prop)
    (e : Engine σ) : Prop extends Stocked bonus e where
  distinct : e.game.Distinct
  obeys : e.game.Obeys (.upright strays)

variable {strays : String → Zone → Orientation → Prop}

/-- What the bodies do off the field is among what may happen there. -/
def StrayWithin (strays : String → Zone → Orientation → Prop)
    (bodies : List (Invocation × Game)) : Prop :=
  ∀ body ∈ bodies, ∀ id zone o, Strays body id zone o → strays id zone o

theorem upright_core : Upright bonus strays e.core ↔ Upright bonus strays e :=
  ⟨fun he => ⟨⟨he.resolvers, he.scripts⟩, he.distinct, he.obeys⟩,
    fun he => ⟨⟨he.resolvers, he.scripts⟩, he.distinct, he.obeys⟩⟩

namespace Upright

theorem of_core (hc : e'.core = e.core) (he : Upright bonus strays e) :
    Upright bonus strays e' := by
  rw [← upright_core, hc, upright_core]
  exact he

theorem of_same (he : Upright bonus strays e) (hp : SamePlugs e e') (hgame : e'.game = e.game) :
    Upright bonus strays e' :=
  ⟨hp.stocked he.toStocked, hgame ▸ he.distinct, hgame ▸ he.obeys⟩

theorem settle (he : Upright bonus strays e)
    (hs : StrayWithin strays (bodyOf i e).toList) : Upright bonus strays (settle i e).2 := by
  have hkept : (Game.Rule.upright strays).KeptOnField := Game.Rule.keptOnField_upright
  have hstocked : Stocked bonus (Engine.settle i e).2 := samePlugs_settle.stocked he.toStocked
  obtain ⟨-, hfield⟩ | ⟨body, id, found, o, hbody, hfirst, hl, hstrays, hstep⟩ :=
    settle_turns (i := i) he.toStocked he.distinct
  · exact ⟨hstocked, hfield.distinct he.distinct, hfield.obeys hkept he.distinct he.obeys⟩
  · have hpaid := hfirst.distinct he.distinct
    have hstray : strays id found.zone o := hs body (by simp [hbody]) id found.zone o hstrays
    exact ⟨hstocked, hpaid.of_sameRoster ((Game.Step.orient hstep).sameRoster hpaid),
      Game.obeys_upright_turn (hfirst.obeys hkept he.distinct he.obeys) hl hstray hstep⟩

theorem settleAll {entries : List Pending} (he : Upright bonus strays e)
    (hs : StrayWithin strays (bodiesOf entries e)) :
    Upright bonus strays (settleAll entries e) := by
  induction entries generalizing e with
  | nil => exact he
  | cons p rest ih =>
    have hfirst := he.settle (i := p.invocation) fun body hbody =>
      hs body (List.mem_append_left _ hbody)
    exact ih hfirst fun body hbody => hs body (List.mem_append_right _ hbody)

theorem call (hh : host.Only Reaction.LeavesGame) (he : Upright bonus strays e) {c : Call}
    (hs : StrayWithin strays (e.bodiesDuring host c)) : Upright bonus strays (e.call host c) := by
  cases c with
  | push i priority =>
    have hqueued : Upright bonus strays (e.enqueue i (priority.getD i.priority)) :=
      he.of_same ⟨rfl, rfl, rfl, rfl⟩ rfl
    exact of_core (core_tell hh) hqueued
  | resolve =>
    have hsettled := (upright_core.2 he).settleAll hs
    rw [← core_drain hh, upright_core] at hsettled
    exact hsettled.of_same ⟨rfl, rfl, rfl, rfl⟩ rfl
  | clear =>
    have hcleared : Upright bonus strays { e with stack := [] } :=
      he.of_same ⟨rfl, rfl, rfl, rfl⟩ rfl
    exact of_core (core_tell hh) hcleared
  | activate w =>
    cases hg : granted w e with
    | none =>
      have hnoted := noted_of_not_granted host hg
      exact he.of_same hnoted.samePlugs hnoted.game
    | some found =>
      obtain ⟨i, e₁⟩ := found
      simp only [bodiesDuring, hg] at hs
      have hnoted := (activate_of_granted host hg).1
      have hready : Upright bonus strays e₁ := he.of_same hnoted.samePlugs hnoted.game
      exact of_core (activate_granted hh hg).2.1 (hready.settle hs)

theorem run (hh : host.Only Reaction.LeavesGame) (he : Upright bonus strays e) {calls : List Call}
    (hs : StrayWithin strays (bodiesOver host calls e)) :
    Upright bonus strays (Engine.run host calls e) := by
  induction calls generalizing e with
  | nil => exact he
  | cons c rest ih =>
    have hfirst := he.call hh fun body hbody => hs body (List.mem_append_left _ hbody)
    exact ih hfirst fun body hbody => hs body (List.mem_append_right _ hbody)

end Upright

/-- Cards off the field have no orientation. Where that is so in the beginning and every card says
where it lies, it stays so whatever is called, with whatever costs, conditions, targets and
replacements; but a stock script that turns its target also turns it off the field, and a card may
lie in the zone and with the orientation in which such a body has left it. -/
theorem run_upright (bonus : DonBonus) (hh : host.Only Reaction.LeavesGame)
    (hr : e.resolvers = .standard bonus) (hs : e.scripts = .stock) (hd : e.game.Distinct)
    (hg : ∀ q ∈ e.game.placed, q.card.zone = q.zone ∧
      (¬q.zone.isField → q.card.orientation = .none)) (calls : List Call) :
    ∀ q ∈ (run host calls e).game.placed, q.card.zone = q.zone ∧
      (¬q.zone.isField → q.card.orientation = .none ∨
        ∃ body ∈ bodiesOver host calls e, Strays body q.card.id q.zone q.card.orientation) := by
  have hobeys : e.game.Obeys (.upright fun id zone o =>
      ∃ body ∈ bodiesOver host calls e, Strays body id zone o) :=
    Game.obeys_upright_iff.2 fun q hq => ⟨(hg q hq).1, fun hoff => .inl ((hg q hq).2 hoff)⟩
  have he : Upright bonus _ e := ⟨⟨hr, hs⟩, hd, hobeys⟩
  have hrun := he.run hh fun body hbody id zone o hstrays => ⟨body, hbody, hstrays⟩
  exact Game.obeys_upright_iff.1 hrun.obeys

/-- To rest a card by a stock script. -/
def resting (id : String) : Invocation where
  ability := { id := "tap", sourceId := "c1", timing := .activate, kind := .restCharacter,
               scriptId := some "rest_target_character" }
  sourceId := "c1"
  controller := .one
  targets := [.card (some id)]

theorem straight_opening : ∀ q ∈ Game.opening.placed, q.card.zone = q.zone ∧
    (¬q.zone.isField → q.card.orientation = .none) := by
  decide

/-- The body that rests a character turns nothing off the field. -/
theorem run_upright_character :
    bodiesOver .silent [.push (resting "c1") none, .resolve] (standard Game.opening) =
      [(resting "c1", Game.opening)] ∧
    ∀ q ∈ (run .silent [.push (resting "c1") none, .resolve] (standard Game.opening)).game.placed,
      ¬q.zone.isField → q.card.orientation = .none := by
  have hbodies : bodiesOver .silent [.push (resting "c1") none, .resolve]
      (standard Game.opening) = [(resting "c1", Game.opening)] := by
    cbv
  refine ⟨hbodies, fun q hq hoff => ?_⟩
  have hupright := run_upright ⟨none, 1000⟩ (Host.only_silent _) rfl rfl
    Game.sound_opening.toDistinct straight_opening [.push (resting "c1") none, .resolve] q hq
  rcases hupright.2 hoff with hnone | ⟨body, hbody, hstrays⟩
  · exact hnone
  · rw [hbodies, List.mem_singleton] at hbody
    obtain rfl := hbody
    have hid : q.card.id = "c1" := by simpa [resting, Target.cardId?] using hstrays.target.symm
    have hplace := hstrays.place
    rw [hid] at hplace
    have hzone : Zone.characterArea = q.zone := Option.some.inj hplace
    rw [← hzone] at hoff
    exact absurd rfl hoff

/-- To rest a card in hand turns it there, though no card off the field was turned before. -/
theorem run_turns_hand_card :
    Game.opening.Sound ∧ (∀ q ∈ Game.opening.placed, q.card.zone = q.zone ∧
      (¬q.zone.isField → q.card.orientation = .none)) ∧
    ¬∀ q ∈ (run .silent [.push (resting "h1") none, .resolve] (standard Game.opening)).game.placed,
      ¬q.zone.isField → q.card.orientation = .none := by
  refine ⟨Game.sound_opening, straight_opening, fun hstraight => ?_⟩
  have hturned : (run .silent [.push (resting "h1") none, .resolve]
      (standard Game.opening)).game.placed.any
        (fun q => q.zone == .hand && q.card.orientation == .rested) = true := by
    cbv
  obtain ⟨q, hq, hhand⟩ := List.any_eq_true.1 hturned
  simp only [Bool.and_eq_true, beq_iff_eq] at hhand
  have hnone := hstraight q hq (by rw [hhand.1]; decide)
  rw [hhand.2] at hnone
  cases hnone

end Engine

end CardRules
