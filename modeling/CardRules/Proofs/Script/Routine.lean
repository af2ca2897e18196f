import CardRules.Proofs.Script.Helpers

/-!
# Stock scripts

A `ScriptM.Routine` asks for the controller, for sides, cards and targets, gives up in its own
words, asks for no tests of the host and changes the game through helpers. The stock scripts are
routines, so that whatever holds of the helpers and goes through sequences holds of all of them.
Which of them turn single cards is kept apart: `turns` says whether a routine may.
-/

namespace CardRules

namespace ScriptM

/-- A step that is put together as the stock scripts are. -/
inductive Routine (turns : Prop) : {α : Type} → ScriptM α → Prop where
  | pure {α : Type} (a : α) : Routine turns (pure a)
  | bind {α β : Type} {x : ScriptM α} {f : α → ScriptM β} :
      Routine turns x → (∀ a, Routine turns (f a)) → Routine turns (x >>= f)
  | fail {α : Type} (message : String) : Routine turns (fail message : ScriptM α)
  | asController {α : Type} (f : Player → ScriptM α) :
      (∀ p, Routine turns (f p)) → Routine turns (read >>= fun ctx => f ctx.controller)
  | side (p : Player) : Routine turns (side p)
  | card (id : String) : Routine turns (card id)
  | sourceId : Routine turns sourceId
  | firstCardTarget : Routine turns firstCardTarget
  | searchZone (p : Player) (zone : Zone) {filter : Option TargetFilter} :
      (∀ f ∈ filter, f.only = none) → Routine turns (searchZone p zone filter)
  | moveCard (id : String) (dest : Zone) : Routine turns (moveCard id dest)
  | drawCards (p : Player) (count : Nat) : Routine turns (drawCards p count)
  | modifyPower (id : String) (amount : Int) (d : Duration) :
      Routine turns (modifyPower id amount d)
  | modifyCost (id : String) (amount : Int) (d : Duration) : Routine turns (modifyCost id amount d)
  | koCard (id : String) : Routine turns (koCard id)
  | restCard (id : String) : turns → Routine turns (restCard id)
  | activateCard (id : String) : turns → Routine turns (activateCard id)

/-- Routines are made of helpers. -/
theorem Routine.ofHelpers {turns : Prop} {α : Type} {x : ScriptM α} (hx : Routine turns x) :
    OfHelpers x := by
  induction hx with
  | pure a => exact .pure a
  | bind _ _ hx hf => exact .bind hx hf
  | fail message => exact .fail message
  | asController f _ hf => exact .bind .read fun ctx => hf ctx.controller
  | side p => exact .side p
  | card id => exact .card id
  | sourceId => exact .sourceId
  | firstCardTarget => exact .firstCardTarget
  | searchZone p zone _ => exact .searchZone p zone _
  | moveCard id dest => exact .moveCard id dest
  | drawCards p count => exact .drawCards p count
  | modifyPower id amount d => exact .modifyPower id amount d
  | modifyCost id amount d => exact .modifyCost id amount d
  | koCard id => exact .koCard id
  | restCard id _ => exact .restCard id
  | activateCard id _ => exact .activateCard id

/-- Whatever helpers inherit, routines inherit. -/
theorem Inherited.routine {turns : Prop} {P : (α : Type) → ScriptM α → Prop} {α : Type}
    {x : ScriptM α} (h : Inherited turns P) (hx : Routine turns x) : P α x := by
  induction hx with
  | pure a => exact h.pure a
  | bind _ _ hx hf => exact h.bind hx hf
  | fail message => exact h.fail message
  | asController f _ hf => exact h.ask (fun _ _ _ => rfl) fun ctx => hf ctx.controller
  | side p => exact h.side p
  | card id => exact h.card id
  | sourceId => exact h.sourceId
  | firstCardTarget => exact h.firstCardTarget
  | searchZone p zone hf => exact h.searchZone p zone hf
  | moveCard id dest => exact h.moveCard id dest
  | drawCards p count => exact h.drawCards p count
  | modifyPower id _ d | modifyCost id _ d => exact h.addModifier id _ _ d
  | koCard id => exact h.removeCharacter id _ _
  | restCard id ht | activateCard id ht => exact h.orient ht _ id

end ScriptM

namespace Script

open ScriptM (Routine)

variable {turns : Prop}

theorem routine_drawCards (n : Nat) : Routine turns (drawCards n) :=
  .asController (ScriptM.drawCards · n) fun p => .drawCards p n

theorem routine_powerBoost (amount : Int) (d : Duration) : Routine turns (powerBoost amount d) :=
  .bind .firstCardTarget fun id => .modifyPower id amount d

theorem routine_powerBoostSource (amount : Int) (d : Duration) :
    Routine turns (powerBoostSource amount d) := by
  refine .bind .sourceId fun id => ?_
  split
  · exact .fail _
  · exact .modifyPower id amount d

theorem routine_costReduction (amount : Int) : Routine turns (costReduction amount) :=
  .bind .firstCardTarget fun id => .modifyCost id (-amount) .untilEndOfTurn

theorem routine_takeFrom {zone : Zone} {f : TargetFilter} (hf : f.only = none) :
    Routine turns (takeFrom zone f) := by
  refine .asController (fun p => ScriptM.searchZone p zone (some f) >>= _) fun p => ?_
  refine .bind (.searchZone p zone fun g hg => Option.some.inj hg ▸ hf) fun found => ?_
  split
  · exact .pure ()
  · exact .moveCard _ .hand

/-- A script that may give up before it goes on. -/
theorem routine_unless {b : Prop} [Decidable b] {message : String} {rest : Unit → Script}
    (hr : ∀ u, Routine turns (rest u)) :
    Routine turns (if b then ScriptM.fail message >>= rest else rest ()) := by
  split
  · exact .bind (.fail message) hr
  · exact hr ()

theorem routine_koTarget (maxCost : Option Int) (restedOnly : Bool) :
    Routine turns (koTarget maxCost restedOnly) := by
  refine .bind .firstCardTarget fun id => .bind (.card id) fun c => ?_
  refine routine_unless fun _ => ?_
  cases maxCost with
  | some limit => exact routine_unless fun _ => .koCard id
  | none => exact .koCard id

theorem routine_restTarget (h : turns) : Routine turns restTarget :=
  .bind .firstCardTarget fun id => .restCard id h

theorem routine_activateTarget (h : turns) : Routine turns activateTarget :=
  .bind .firstCardTarget fun id => .activateCard id h

theorem routine_restAll (h : turns) (cards : List Card) : Routine turns (restAll cards) := by
  induction cards with
  | nil => exact .pure ()
  | cons c rest ih => exact .bind (.restCard c.id h) fun _ => ih

theorem routine_restAllOpponentCharacters (h : turns) :
    Routine turns restAllOpponentCharacters :=
  .asController (fun p => ScriptM.side p.opponent >>= _) fun p =>
    .bind (.side p.opponent) fun _ => routine_restAll h _

end Script

namespace ScriptBook

/-- The ids of the stock scripts that turn cards. -/
def turningIds : List String :=
  ["rest_target_character", "rest_all_opponent_characters", "activate_target_character"]

/-- All stock scripts are routines, and only three of them turn cards. -/
theorem stock_routine_of_turns {turns : Prop} :
    ∀ e ∈ stock.entries, (e.1 ∈ turningIds → turns) → ScriptM.Routine turns e.2 := by
  have hturns : ∀ {id : String} {script : Script}, id ∈ turningIds →
      (turns → ScriptM.Routine turns script) → (id ∈ turningIds → turns) →
        ScriptM.Routine turns script := fun hid hscript h => hscript (h hid)
  simp only [stock, Script.stock, Script.searchDeck, List.forall_mem_cons,
    Script.routine_drawCards, Script.routine_powerBoost, Script.routine_powerBoostSource,
    Script.routine_costReduction, Script.routine_takeFrom, Script.ofCategory,
    Script.costingAtMost, Script.routine_koTarget,
    implies_true, true_and, List.not_mem_nil, false_implies, and_true]
  exact ⟨hturns (by decide) Script.routine_restTarget,
    hturns (by decide) Script.routine_restAllOpponentCharacters,
    hturns (by decide) Script.routine_activateTarget⟩

theorem stock_routine : ∀ e ∈ stock.entries, ScriptM.Routine True e.2 :=
  fun e he => stock_routine_of_turns e he fun _ => trivial

theorem stock_ofHelpers : OfHelpers stock := fun e he => (stock_routine e he).ofHelpers

end ScriptBook

end CardRules
